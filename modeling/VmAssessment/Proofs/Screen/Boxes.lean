/-
VmAssessment/Proofs/Screen/Boxes.lean

Where the box of a notification stands, computed without wrapping around.

Coordinates are 16-bit words, and a word that overflows has lost its meaning:
`Checked` has the operations with no result in that case, each pinned down by
the exact sum, product or difference, and `NotificationBox.area?` is the
box's place computed with them.  Where it has a value, that is the place the
box is drawn at.

The box hangs one row below the top of the screen, but its height is cut to
the height of the whole screen, not to what is left below that row.  So the
box is on the screen exactly if the screen has more rows than the box wants
(`on_screen_iff`); on a smaller one its last row is beyond the screen, and
the frame cannot be drawn (`frame?_isSome_iff`).  Three fifths of the width
are taken by way of sixty times the width, which a word holds up to 1092
columns.
-/
import VmAssessment.Screen.Frame

namespace VmAssessment

/-! ### Words that do not wrap around -/

namespace Terminal.Checked

/-- The sum, if it is a word. -/
def sum (a b : UInt16) : Option UInt16 :=
  if a.toNat + b.toNat < 65536 then some (a + b) else none

/-- The product, if it is a word. -/
def product (a b : UInt16) : Option UInt16 :=
  if a.toNat * b.toNat < 65536 then some (a * b) else none

/-- The difference, if it is a word. -/
def difference (a b : UInt16) : Option UInt16 :=
  if b.toNat ≤ a.toNat then some (a - b) else none

variable {a b c : UInt16}

/-- A word that is kept only if it fits is the number it should be, if what
fits is right and what is right fits. -/
theorem kept_eq_some_iff {fits right : Prop} [Decidable fits] {word : UInt16}
    (hword : fits → word = c → right) (hfits : right → fits) :
    (if fits then some word else none) = some c ↔ word = c ∧ right := by
  by_cases h : fits
  · rw [if_pos h, Option.some.injEq]
    exact ⟨fun e => ⟨e, hword h e⟩, And.left⟩
  · rw [if_neg h]
    exact ⟨nofun, fun e => absurd (hfits e.2) h⟩

theorem sum_eq_some_iff : sum a b = some c ↔ a + b = c ∧ a.toNat + b.toNat = c.toNat := by
  apply kept_eq_some_iff
  · rintro h rfl
    rw [UInt16.toNat_add, Nat.mod_eq_of_lt h]
  · intro e
    exact e ▸ c.toNat_lt

theorem product_eq_some_iff :
    product a b = some c ↔ a * b = c ∧ a.toNat * b.toNat = c.toNat := by
  apply kept_eq_some_iff
  · rintro h rfl
    rw [UInt16.toNat_mul, Nat.mod_eq_of_lt h]
  · intro e
    exact e ▸ c.toNat_lt

theorem difference_eq_some_iff :
    difference a b = some c ↔ a - b = c ∧ a.toNat = b.toNat + c.toNat := by
  apply kept_eq_some_iff
  · rintro h rfl
    rw [UInt16.toNat_sub_of_le a b (UInt16.le_iff_toNat_le.mpr h), Nat.add_sub_cancel' h]
  · intro e
    exact e ▸ Nat.le_add_right _ _

end Terminal.Checked

/-! ### One rectangle in another -/

namespace Terminal.Area

/-- The edges of the second rectangle lie within those of the first. -/
structure Holds (a b : Area) : Prop where
  left : a.x.toNat ≤ b.x.toNat
  top : a.y.toNat ≤ b.y.toNat
  right : b.right ≤ a.right
  bottom : b.bottom ≤ a.bottom

/-- The rectangle has this cell. -/
def Has (a : Area) (column row : Nat) : Prop :=
  a.x.toNat ≤ column ∧ column < a.right ∧ a.y.toNat ≤ row ∧ row < a.bottom

instance (a : Area) (column row : Nat) : Decidable (a.Has column row) :=
  inferInstanceAs (Decidable (_ ∧ _))

variable {a b : Area}

theorem isEmpty_eq_true_iff : a.isEmpty = true ↔ a.width.toNat = 0 ∨ a.height.toNat = 0 := by
  simp [isEmpty, ← UInt16.toNat_inj]

theorem covers_eq_true_iff : a.covers b = true ↔ b.isEmpty = true ∨ a.Holds b := by
  simp only [covers, Bool.or_eq_true, Bool.and_eq_true, decide_eq_true_eq, UInt16.le_iff_toNat_le]
  constructor
  · rintro (h | ⟨⟨⟨hl, ht⟩, hr⟩, hb⟩)
    · exact Or.inl h
    · exact Or.inr ⟨hl, ht, hr, hb⟩
  · rintro (h | h)
    · exact Or.inl h
    · exact Or.inr ⟨⟨⟨h.left, h.top⟩, h.right⟩, h.bottom⟩

/-- Covering is a matter of cells. -/
theorem covers_iff_cells :
    a.covers b = true ↔ ∀ column row, b.Has column row → a.Has column row := by
  rw [covers_eq_true_iff, isEmpty_eq_true_iff]
  constructor
  · rintro (hempty | ⟨hleft, htop, hright, hbottom⟩) column row ⟨hl, hr, ht, hb⟩
    · simp only [right, bottom] at hr hb
      omega
    · exact ⟨Nat.le_trans hleft hl, Nat.lt_of_lt_of_le hr hright, Nat.le_trans htop ht,
        Nat.lt_of_lt_of_le hb hbottom⟩
  · intro h
    by_cases he : b.width.toNat = 0 ∨ b.height.toNat = 0
    · exact Or.inl he
    · -- the first and the last cell fix the four edges
      have hfirst := h b.x.toNat b.y.toNat (by simp only [Has, right, bottom]; omega)
      have hlast := h (b.right - 1) (b.bottom - 1) (by simp only [Has, right, bottom]; omega)
      simp only [Has, right, bottom] at hfirst hlast
      exact Or.inr ⟨by omega, by omega, by simp only [right]; omega, by simp only [bottom]; omega⟩

end Terminal.Area

open Terminal

/-! ### The place of a notification -/

namespace NotificationBox

/-- How many rows the box wants. -/
def rows (level : Level) : UInt16 := if level = .error then 5 else 3

/-- Where the notification stands, if no word overflows on the way. -/
def area? (screen : Area) (level : Level) : Option Area := do
  let width := (← Checked.product screen.width 60) / 100
  let left := (← Checked.difference screen.width width) / 2
  some ⟨← Checked.sum screen.x left, ← Checked.sum screen.y 1, width,
    min (rows level) screen.height⟩

/-- The place in plain numbers: three fifths of the width, in the middle, one
row below the top, and no higher than the screen. -/
structure Placed (screen : Area) (level : Level) (box : Area) : Prop where
  width : box.width.toNat = screen.width.toNat * 60 / 100
  x : box.x.toNat = screen.x.toNat + (screen.width.toNat - box.width.toNat) / 2
  y : box.y.toNat = screen.y.toNat + 1
  height : box.height = min (rows level) screen.height

section
variable {screen : Area} {level : Level} {box : Area}

/-- Without overflow the words give the place that the numbers give, and it is
the place the box is drawn at. -/
theorem area?_spec (h : area? screen level = some box) :
    area screen level = box ∧ Placed screen level box := by
  simp only [area?, Option.bind_eq_bind, Option.bind_eq_some_iff, Checked.product_eq_some_iff,
    Checked.difference_eq_some_iff, Checked.sum_eq_some_iff, Option.some.injEq] at h
  obtain ⟨_, ⟨rfl, hwide⟩, _, ⟨rfl, hleft⟩, _, ⟨rfl, hx⟩, _, ⟨rfl, hy⟩, rfl⟩ := h
  refine ⟨rfl, ?_, ?_, hy.symm, rfl⟩
  · simp only [UInt16.toNat_div, ← hwide, UInt16.reduceToNat]
  · rw [← hx]
    simp only [UInt16.toNat_div, UInt16.reduceToNat] at hleft ⊢
    omega

/-- On a screen whose right edge is a word, nothing overflows as long as sixty
times the width is a word and the screen's first row is not the last one there
is. -/
theorem area?_eq_some_iff (hr : screen.right < 65536) :
    area? screen level = some (area screen level) ↔
      screen.width.toNat ≤ 1092 ∧ screen.y.toNat < 65535 := by
  have hr' : screen.x.toNat + screen.width.toNat < 65536 := hr
  simp only [area?, Option.bind_eq_bind, Option.bind_eq_some_iff, Checked.product_eq_some_iff,
    Checked.difference_eq_some_iff, Checked.sum_eq_some_iff, Option.some.injEq]
  constructor
  · rintro ⟨p, ⟨-, hp⟩, _, -, _, -, y, ⟨-, hy⟩, -⟩
    have := p.toNat_lt
    have := y.toNat_lt
    simp only [UInt16.reduceToNat] at hp hy
    omega
  · rintro ⟨hw, hy⟩
    -- no step wraps around, so each word is its number; the box is no wider than the screen
    have hwide : screen.width.toNat * (60 : UInt16).toNat = (screen.width * 60).toNat := by
      rw [UInt16.toNat_mul, Nat.mod_eq_of_lt (by simp only [UInt16.reduceToNat]; omega)]
    have hpart : (screen.width * 60 / 100).toNat = screen.width.toNat * 60 / 100 := by
      rw [UInt16.toNat_div, ← hwide]
      rfl
    have hleft := UInt16.toNat_sub_of_le screen.width (screen.width * 60 / 100)
      (UInt16.le_iff_toNat_le.mpr (by omega))
    refine ⟨_, ⟨rfl, hwide⟩, _, ⟨rfl, by omega⟩, _, ⟨rfl, ?_⟩, _, ⟨rfl, ?_⟩, rfl⟩
    · rw [UInt16.toNat_add, Nat.mod_eq_of_lt]
      simp only [UInt16.toNat_div, UInt16.reduceToNat] at hleft hpart ⊢
      omega
    · rw [UInt16.toNat_add, Nat.mod_eq_of_lt]
      simp only [UInt16.reduceToNat]
      omega

theorem Placed.height_eq (h : Placed screen level box) :
    box.height.toNat = min (rows level).toNat screen.height.toNat := by
  rw [h.height]
  simp only [min, UInt16.le_iff_toNat_le]
  split <;> rfl

/-- Left and right the box keeps within the screen, and below it does so if
the screen has a row more than the box wants. -/
theorem Placed.holds_iff (h : Placed screen level box) :
    screen.Holds box ↔ rows level < screen.height := by
  have hw := h.width
  have hx := h.x
  have hy := h.y
  have hh := h.height_eq
  rw [UInt16.lt_iff_toNat_lt]
  -- three fifths of the width leave room for both margins; only the height is in question
  constructor
  · intro hold
    have hbottom : box.y.toNat + box.height.toNat ≤ screen.y.toNat + screen.height.toNat :=
      hold.bottom
    omega
  · intro hrows
    exact ⟨by omega, by omega, by simp only [Area.right]; omega,
      by simp only [Area.bottom]; omega⟩

/-- On a screen of one column, or of no row, the box has no cell that could be
beyond it. -/
theorem Placed.covers_iff (h : Placed screen level box) :
    screen.covers box = true ↔
      screen.width.toNat < 2 ∨ screen.height.toNat = 0 ∨ rows level < screen.height := by
  have hw := h.width
  have hh := h.height_eq
  have hrows : 0 < (rows level).toNat := by cases level <;> decide
  rw [Area.covers_eq_true_iff, Area.isEmpty_eq_true_iff, h.holds_iff, or_assoc]
  exact or_congr (by omega) (or_congr_left (by omega))

end

/-- **The notification on its screen.**  For every screen whose edges are
words and every level: the box's place is computed without overflow and lies
within the edges of the screen if and only if the screen has at most 1092
columns and more rows than the box wants, five for an error and three
otherwise.  If only the box's cells have to be cells of the screen, a box
without cells is as good. -/
theorem on_screen_iff (screen : Area) (level : Level) (hr : screen.right < 65536)
    (hb : screen.bottom < 65536) :
    (area? screen level = some (area screen level) ∧ screen.Holds (area screen level) ↔
      screen.width.toNat ≤ 1092 ∧ rows level < screen.height) ∧
    (area? screen level = some (area screen level) ∧
        (∀ column row, (area screen level).Has column row → screen.Has column row) ↔
      screen.width.toNat ≤ 1092 ∧ screen.y.toNat < 65535 ∧
        (screen.width.toNat < 2 ∨ screen.height.toNat = 0 ∨ rows level < screen.height)) := by
  have hb' : screen.y.toNat + screen.height.toNat < 65536 := hb
  have hsome : area? screen level = some (area screen level) ↔ _ := area?_eq_some_iff hr
  constructor
  · constructor
    · rintro ⟨hbox, hold⟩
      exact ⟨(hsome.mp hbox).1, (area?_spec hbox).2.holds_iff.mp hold⟩
    · rintro ⟨hw, hrows⟩
      -- a screen with a row to spare ends below its first row
      have hheight := UInt16.lt_iff_toNat_lt.mp hrows
      have hbox := hsome.mpr ⟨hw, by omega⟩
      exact ⟨hbox, (area?_spec hbox).2.holds_iff.mpr hrows⟩
  · rw [← Area.covers_iff_cells]
    constructor
    · rintro ⟨hbox, hcovers⟩
      obtain ⟨hw, hy⟩ := hsome.mp hbox
      exact ⟨hw, hy, (area?_spec hbox).2.covers_iff.mp hcovers⟩
    · rintro ⟨hw, hy, hcells⟩
      have hbox := hsome.mpr ⟨hw, hy⟩
      exact ⟨hbox, (area?_spec hbox).2.covers_iff.mpr hcells⟩

/-- A screen of six rows is the smallest that an error's box stays on. -/
theorem error_on_six_rows :
    let screen : Area := ⟨0, 0, 80, 6⟩
    screen.right < 65536 ∧ screen.bottom < 65536 ∧
      area? screen .error = some (area screen .error) ∧ screen.Holds (area screen .error) := by
  intro screen
  have hr : screen.right < 65536 := by decide
  have hb : screen.bottom < 65536 := by decide
  exact ⟨hr, hb, (on_screen_iff screen .error hr hb).1.mpr (by decide)⟩

/-- **An error hangs beyond a screen of five rows.**  Its box has a cell in a
sixth row.  And on 1093 columns, sixty times the width is no word. -/
theorem error_beyond_five_rows :
    let screen : Area := ⟨0, 0, 60, 5⟩
    let wide : Area := ⟨0, 0, 1093, 24⟩
    screen.right < 65536 ∧ screen.bottom < 65536 ∧
      area? screen .error = some (area screen .error) ∧ (area screen .error).Has 12 5 ∧
      ¬ screen.Has 12 5 ∧
      wide.right < 65536 ∧ wide.bottom < 65536 ∧ area? wide .error = none := by
  decide

end NotificationBox

/-! ### The frame with a notification -/

namespace Console

/-- A frame with a notification, on a terminal of up to 1092 columns, can be
drawn exactly if every cell of the box is one of the terminal's. -/
theorem frame?_isSome_iff {c : Console} {n : Notification} (h : c.display.notification = some n)
    (loadTime : String) {width height : UInt16} (hw : width.toNat ≤ 1092) :
    (c.frame? loadTime width height).isSome = true ↔
      width.toNat < 2 ∨ height.toNat = 0 ∨ NotificationBox.rows n.level < height := by
  have hbox : NotificationBox.area? (Canvas.whole width height) n.level
      = some (NotificationBox.area (Canvas.whole width height) n.level) := by
    apply (NotificationBox.area?_eq_some_iff _).mpr
    · exact ⟨hw, Nat.zero_lt_succ _⟩
    · simp only [Area.right, Canvas.whole, UInt16.toNat_zero]
      omega
  refine Iff.trans ?_ (NotificationBox.area?_spec hbox).2.covers_iff
  simp only [frame?, h, Option.all_some, Option.isSome_ite]

end Console

end VmAssessment
