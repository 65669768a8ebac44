/-
VmAssessment/Terminal/Style.lean

How a cell of the terminal looks.  A style leaves open what it does not
name, so styles can be laid over each other.
-/

namespace VmAssessment.Terminal

/-- A colour by its parts of red, green and blue. -/
structure Colour where
  red : UInt8
  green : UInt8
  blue : UInt8
deriving DecidableEq, Repr

/-- The colour in hex digits, two for each part. -/
def Colour.hex (c : Colour) : String :=
  String.ofList <| [c.red, c.green, c.blue].flatMap fun part =>
    [Nat.digitChar (part.toNat / 16), Nat.digitChar (part.toNat % 16)]

/-- The ways letters can stand out. -/
structure Emphasis where
  bold : Bool := false
  dim : Bool := false
  italic : Bool := false
deriving DecidableEq, Repr, Inhabited

/-- Both ways at once. -/
def Emphasis.union (a b : Emphasis) : Emphasis :=
  ⟨a.bold || b.bold, a.dim || b.dim, a.italic || b.italic⟩

/-- The ways in words. -/
def Emphasis.text (e : Emphasis) : String :=
  " | ".intercalate ((if e.bold then ["BOLD"] else []) ++ (if e.dim then ["DIM"] else [])
    ++ if e.italic then ["ITALIC"] else [])

/-- How a cell looks; a colour that is not named stays as it is. -/
structure Style where
  ink : Option Colour := none
  ground : Option Colour := none
  emphasis : Emphasis := {}
deriving DecidableEq, Repr, Inhabited

/-- A style with another laid over it. -/
def Style.under (below above : Style) : Style :=
  ⟨above.ink <|> below.ink, above.ground <|> below.ground, below.emphasis.union above.emphasis⟩

/-- The style in words: ink, ground and emphasis.  A dash stands for a colour
that is not named. -/
def Style.text (s : Style) : String :=
  s.ink.elim "-" Colour.hex ++ "/" ++ s.ground.elim "-" Colour.hex ++ "/" ++ s.emphasis.text

end VmAssessment.Terminal
