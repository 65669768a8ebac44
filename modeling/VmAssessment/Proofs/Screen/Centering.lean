/-
VmAssessment/Proofs/Screen/Centering.lean

Boxes in the middle of a rectangle, which is where the login form, the menus
and the help stand.

Columns and rows are treated alike, so there is one lemma for an axis
(`middle_spec`): a part no longer than the whole is moved in by half of what
it leaves free, and as long as the whole ends at a word, so does every step on
the way.  From it the box is computed without overflow, keeps within the
edges, and leaves margins that differ by the odd cell at most, which goes to
the right and to the bottom (`centered_within`).
-/
import VmAssessment.Proofs.Screen.Boxes

namespace VmAssessment.Terminal

namespace Area

/-- The box in the middle, if no word overflows on the way. -/
def centered? (a : Area) (width height : UInt16) : Option Area := do
  let width := min width a.width
  let height := min height a.height
  some ⟨← Checked.sum a.x ((← Checked.difference a.width width) / 2),
    ← Checked.sum a.y ((← Checked.difference a.height height) / 2), width, height⟩

/-- How many columns and rows a rectangle leaves free around another. -/
structure Margins where
  left : Nat
  right : Nat
  top : Nat
  bottom : Nat

/-- The margins around a box. -/
def margins (a box : Area) : Margins :=
  ⟨box.x.toNat - a.x.toNat, a.right - box.right, box.y.toNat - a.y.toNat, a.bottom - box.bottom⟩

/-- Opposite margins are the same, but for an odd cell on the right or at the
bottom. -/
structure Margins.Even (m : Margins) : Prop where
  sides : m.right = m.left ∨ m.right = m.left + 1
  ends : m.bottom = m.top ∨ m.bottom = m.top + 1

/-- The place of a box in plain numbers: it is no larger than the rectangle, and
moved in by half of what it leaves free. -/
structure InMiddle (a box : Area) : Prop where
  width : box.width.toNat ≤ a.width.toNat
  height : box.height.toNat ≤ a.height.toNat
  x : box.x.toNat = a.x.toNat + (a.width.toNat - box.width.toNat) / 2
  y : box.y.toNat = a.y.toNat + (a.height.toNat - box.height.toNat) / 2

section
variable {a box : Area}

theorem InMiddle.holds (h : a.InMiddle box) : a.Holds box := by
  obtain ⟨hwidth, hheight, hx, hy⟩ := h
  refine ⟨?_, ?_, ?_, ?_⟩
  · show a.x.toNat ≤ box.x.toNat
    omega
  · show a.y.toNat ≤ box.y.toNat
    omega
  · show box.x.toNat + box.width.toNat ≤ a.x.toNat + a.width.toNat
    omega
  · show box.y.toNat + box.height.toNat ≤ a.y.toNat + a.height.toNat
    omega

theorem InMiddle.even (h : a.InMiddle box) : (a.margins box).Even := by
  obtain ⟨hwidth, hheight, hx, hy⟩ := h
  constructor
  · simp only [margins, right]
    omega
  · simp only [margins, bottom]
    omega

end

/-- Along one axis: a part of the whole is moved in by half of what it leaves
free, and no step overflows if the whole ends at a word. -/
theorem middle_spec {start whole part : UInt16} (hpart : part ≤ whole)
    (hend : start.toNat + whole.toNat < 65536) :
    Checked.difference whole part = some (whole - part) ∧
      Checked.sum start ((whole - part) / 2) = some (start + (whole - part) / 2) ∧
      (start + (whole - part) / 2).toNat = start.toNat + (whole.toNat - part.toNat) / 2 := by
  have hle : part.toNat ≤ whole.toNat := UInt16.le_iff_toNat_le.mp hpart
  have hhalf : ((whole - part) / 2).toNat = (whole.toNat - part.toNat) / 2 := by
    rw [UInt16.toNat_div, UInt16.toNat_sub_of_le whole part hpart]
    rfl
  have hword : start.toNat + ((whole - part) / 2).toNat < 65536 := by omega
  refine ⟨if_pos hle, if_pos hword, ?_⟩
  rw [UInt16.toNat_add, Nat.mod_eq_of_lt hword, hhalf]

section
variable {a : Area} (width height : UInt16)

theorem centered?_eq_some (hr : a.right < 65536) (hb : a.bottom < 65536) :
    a.centered? width height = some (a.centered width height) := by
  obtain ⟨hcolumns, hx, -⟩ := middle_spec (Std.min_le_right : min width a.width ≤ a.width) hr
  obtain ⟨hrows, hy, -⟩ := middle_spec (Std.min_le_right : min height a.height ≤ a.height) hb
  simp only [centered?, hcolumns, hrows, Option.bind_eq_bind, Option.bind_some, hx, hy]
  rfl

theorem inMiddle_centered (hr : a.right < 65536) (hb : a.bottom < 65536) :
    a.InMiddle (a.centered width height) := by
  have hwidth : min width a.width ≤ a.width := Std.min_le_right
  have hheight : min height a.height ≤ a.height := Std.min_le_right
  exact ⟨UInt16.le_iff_toNat_le.mp hwidth, UInt16.le_iff_toNat_le.mp hheight,
    (middle_spec hwidth hr).2.2, (middle_spec hheight hb).2.2⟩

end

/-- **A box in the middle.**  For every rectangle whose edges are words and
every size asked for: the box is computed without overflow, has the size asked
for or what there is of it, lies within the edges of the rectangle, and leaves
the same margins on opposite sides, but for an odd cell. -/
theorem centered_within (a : Area) (width height : UInt16) (hr : a.right < 65536)
    (hb : a.bottom < 65536) :
    a.centered? width height = some (a.centered width height) ∧
      (a.centered width height).width = min width a.width ∧
      (a.centered width height).height = min height a.height ∧
      a.Holds (a.centered width height) ∧
      (a.margins (a.centered width height)).Even := by
  have hmiddle := inMiddle_centered width height hr hb
  exact ⟨centered?_eq_some width height hr hb, rfl, rfl, hmiddle.holds, hmiddle.even⟩

/-- A box taller than a rectangle that ends at the last word fills its height,
and leaves the odd column on the right. -/
theorem box_at_last_word :
    let area : Area := ⟨65530, 65500, 5, 35⟩
    area.right < 65536 ∧ area.bottom < 65536 ∧
      area.centered 2 65535 = ⟨65531, 65500, 2, 35⟩ ∧
      area.centered? 2 65535 = some (area.centered 2 65535) ∧
      area.Holds (area.centered 2 65535) ∧ (area.margins (area.centered 2 65535)).Even := by
  intro area
  have hr : area.right < 65536 := by decide
  have hb : area.bottom < 65536 := by decide
  obtain ⟨hbox, -, -, hholds, heven⟩ := centered_within area 2 65535 hr hb
  exact ⟨hr, hb, by decide, hbox, hholds, heven⟩

end Area

/-- **What stands in the middle of the terminal is on it**, whatever its size
and the terminal's: every cell of the box is one of the terminal's. -/
theorem Canvas.whole_has_centered {width height boxWidth boxHeight : UInt16} {column row : Nat}
    (h : ((whole width height).centered boxWidth boxHeight).Has column row) :
    (whole width height).Has column row := by
  have hr : (whole width height).right < 65536 := by
    have hwidth := width.toNat_lt
    show 0 + width.toNat < 65536
    omega
  have hb : (whole width height).bottom < 65536 := by
    have hheight := height.toNat_lt
    show 0 + height.toNat < 65536
    omega
  have hholds := (Area.inMiddle_centered boxWidth boxHeight hr hb).holds
  exact Area.covers_iff_cells.mp (Area.covers_eq_true_iff.mpr (.inr hholds)) column row h

end VmAssessment.Terminal
