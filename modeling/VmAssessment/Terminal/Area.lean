/-
VmAssessment/Terminal/Area.lean

Rectangles of cells, and how one is divided among several.  Coordinates are
16-bit words, as terminals report them.
-/

namespace VmAssessment.Terminal

/-- A rectangle of cells. -/
structure Area where
  x : UInt16
  y : UInt16
  width : UInt16
  height : UInt16
deriving DecidableEq, Repr, Inhabited

namespace Area

/-- There is no cell in it. -/
def isEmpty (a : Area) : Bool := a.width == 0 || a.height == 0

/-- The column to the right of the last one. -/
def right (a : Area) : Nat := a.x.toNat + a.width.toNat

/-- The row below the last one. -/
def bottom (a : Area) : Nat := a.y.toNat + a.height.toNat

/-- Whether every cell of the second rectangle is one of the first. -/
def covers (a b : Area) : Bool :=
  b.isEmpty || (a.x ≤ b.x && a.y ≤ b.y && b.right ≤ a.right && b.bottom ≤ a.bottom)

/-- The difference, or zero. -/
def lessen (n k : UInt16) : UInt16 := if k ≤ n then n - k else 0

/-- What is left of a rectangle inside a frame one cell wide. -/
def inside (a : Area) : Area :=
  ⟨if a.width = 0 then a.x else a.x + 1, if a.height = 0 then a.y else a.y + 1,
    lessen a.width 2, lessen a.height 2⟩

/-- A box of a size in the middle of a rectangle, shrunk to fit. -/
def centered (a : Area) (width height : UInt16) : Area :=
  let width := min width a.width
  let height := min height a.height
  ⟨a.x + (a.width - width) / 2, a.y + (a.height - height) / 2, width, height⟩

/-- A row of a rectangle, by its number from the top. -/
def row (a : Area) (i : Nat) : Area := { a with y := a.y + UInt16.ofNat i, height := 1 }

end Area

/-! ### Dividing a length -/

/-- What a part of a length is to get. -/
inductive Share
  | cells (n : Nat)
  | percent (p : Nat)
  /-- As many parts of what the others leave. -/
  | rest (weight : Nat)
deriving DecidableEq, Repr

namespace Share

/-- What a share asks for on a length, in hundredths of a cell. -/
def wish (length : Nat) : Share → Nat
  | cells n => 100 * n
  | percent p => p * length
  | rest _ => 0

/-- Its parts of what the others leave. -/
def weight : Share → Nat
  | rest weight => weight
  | _ => 0

/-- What each share gets of a budget in hundredths, first come first
served. -/
def grants (length : Nat) : Nat → List Share → List Nat
  | _, [] => []
  | budget, s :: others =>
    let got := min (s.wish length) budget
    got :: grants length (budget - got) others

/-- The cell boundary nearest to so many hundredths and parts of what is
left. -/
def boundary (left weights hundredths weight : Nat) : Nat :=
  let shared := if weights = 0 then 0 else (2 * left * weight + weights) / (2 * weights)
  (hundredths + shared + 50) / 100

/-- Start and end of each share, given the hundredths and the parts before
it. -/
def bounds (gap left weights : Nat) : Nat → Nat → List (Share × Nat) → List (Nat × Nat)
  | _, _, [] => []
  | hundredths, weight, (s, got) :: others =>
    let stop := hundredths + got
    let weight' := weight + s.weight
    (boundary left weights hundredths weight, boundary left weights stop weight')
      :: bounds gap left weights (stop + 100 * gap) weight' others

/-- Start and end of each share of a length, with a gap between neighbours.
Boundaries lie at the nearest cell. -/
def divide (length gap : Nat) (shares : List Share) : List (Nat × Nat) :=
  let budget := 100 * (length - gap * (shares.length - 1))
  let grants := grants length budget shares
  let left := grants.foldl (· - ·) budget
  let weights := shares.foldl (fun n s => n + s.weight) 0
  bounds gap left weights 0 0 (shares.zip grants)

end Share

namespace Area

/-- Parts one below the other. -/
def stacked (a : Area) (shares : List Share) : List Area :=
  (Share.divide a.height.toNat 0 shares).map fun (start, stop) =>
    { a with y := a.y + UInt16.ofNat start, height := UInt16.ofNat (stop - start) }

/-- Parts side by side, with a gap between neighbours. -/
def sideBySide (a : Area) (gap : Nat) (shares : List Share) : List Area :=
  (Share.divide a.width.toNat gap shares).map fun (start, stop) =>
    { a with x := a.x + UInt16.ofNat start, width := UInt16.ofNat (stop - start) }

end Area

end VmAssessment.Terminal
