/-
VmAssessment/Proofs/Text/Collating.lean

How far the order of text columns is an order.  Of its three parts the first
and the last are lexicographic by code point, hence orders like any other.  The
second is not: it looks at the case of two texts position by position as far as
both reach, so it leaves a text undecided against every longer one whose cases
start with its own, even if it decides between these.

    x:  й ж          folded alike; the marks count as positions, so in
    y:  и ̆ Ж        x and y the case of the third decides, and x is first
    z:  и ж          z ends ahead of it: code points put it behind y, and
                     ahead of x, for the breve is before ж and и before й

Any two texts are in one order or the other, and only a text is equal to
itself.  Three texts go in a circle exactly if one of them is cut short in this
way and lies between the others by code points (`circle_iff_cutShort`).  Only
marks make texts that are folded alike differ in length, so below U+00C0 there
is no such circle (`compareText_trans_of_low`).
-/
import Mathlib.Data.List.Infix
import VmAssessment.Proofs.Text.Lowering
import VmAssessment.Text.Order

namespace VmAssessment.Text

/-! ### By code points -/

theorem compareChars_eq_compareLex :
    compareChars = List.compareLex (compareOn Char.toNat) := by
  funext as bs
  induction as generalizing bs with
  | nil => cases bs <;> rfl
  | cons a as ih =>
      cases bs with
      | nil => rfl
      | cons b bs => rw [compareChars, List.compareLex_cons_cons, ih, compareOn]

instance : Std.TransCmp compareChars := by
  rw [compareChars_eq_compareLex]
  infer_instance

instance lawfulEqCmp_code : Std.LawfulEqCmp (compareOn Char.toNat) where
  eq_of_compare h := Char.toNat_inj.1 (Std.LawfulEqCmp.eq_of_compare h)

instance : Std.LawfulEqCmp compareChars := by
  rw [compareChars_eq_compareLex]
  infer_instance

theorem compareChars_self (cs : List Char) : compareChars cs cs = .eq := Std.ReflCmp.compare_self

theorem compareChars_swap (as bs : List Char) :
    compareChars bs as = (compareChars as bs).swap := Std.OrientedCmp.eq_swap

/-! ### By case -/

theorem compareCase_swap (xs ys : List Bool) : compareCase ys xs = (compareCase xs ys).swap := by
  induction xs generalizing ys with
  | nil => cases ys <;> rfl
  | cons x xs ih =>
      cases ys with
      | nil => rfl
      | cons y ys => cases x <;> cases y <;> first | rfl | exact ih ys

/-- Case leaves two texts undecided if the cases of one start with those of the
other. -/
theorem compareCase_eq_iff {xs ys : List Bool} :
    compareCase xs ys = .eq ↔ xs <+: ys ∨ ys <+: xs := by
  induction xs generalizing ys with
  | nil => cases ys <;> simp [compareCase]
  | cons x xs ih =>
      cases ys with
      | nil => simp [compareCase]
      | cons y ys => cases x <;> cases y <;> simp [compareCase, List.cons_prefix_cons, ih]

theorem compareCase_trans {xs ys zs : List Bool} (hxy : compareCase xs ys = .lt)
    (hyz : compareCase ys zs = .lt) : compareCase xs zs = .lt := by
  induction xs generalizing ys zs with
  | nil => simp [compareCase] at hxy
  | cons x xs ih =>
      obtain _ | ⟨y, ys⟩ := ys
      · simp [compareCase] at hxy
      obtain _ | ⟨z, zs⟩ := zs
      · simp [compareCase] at hyz
      -- the first of the two places that decide decides here too
      cases x <;> cases y <;> cases z <;> simp [compareCase] at hxy hyz ⊢ <;> exact ih hxy hyz

/-! ### Keys -/

namespace SortKey

variable {x y z : SortKey}

theorem compare_swap (x y : SortKey) : y.compare x = (x.compare y).swap := by
  simp only [compare, Ordering.swap_then, ← compareCase_swap, ← compareChars_swap]

/-- What one key before another means. -/
theorem compare_eq_lt_iff : x.compare y = .lt ↔
    compareChars x.folded y.folded = .lt ∨ x.folded = y.folded ∧
      (compareCase x.uppers y.uppers = .lt ∨
        compareCase x.uppers y.uppers = .eq ∧ compareChars x.text y.text = .lt) := by
  simp only [compare, Ordering.then_eq_lt, Std.LawfulEqCmp.compare_eq_iff_eq]

theorem folded_isLE_of_lt (h : x.compare y = .lt) :
    (compareChars x.folded y.folded).isLE = true := by
  rcases compare_eq_lt_iff.1 h with h | ⟨h, -⟩
  · rw [h]
    rfl
  · rw [h, compareChars_self]
    rfl

/-! ### Circles -/

/-- By case the first key is before the second, and the third is cut short of
the place that decides it: it stands by code points against both, behind the
second and before the first. -/
structure CutShort (x y z : SortKey) : Prop where
  folded : x.folded = z.folded ∧ y.folded = z.folded
  before : compareCase x.uppers y.uppers = .lt
  short : z.uppers <+: x.uppers ∧ z.uppers <+: y.uppers
  between : compareChars y.text z.text = .lt ∧ compareChars z.text x.text = .lt

instance (x y z : SortKey) : Decidable (CutShort x y z) :=
  decidable_of_iff
    ((x.folded = z.folded ∧ y.folded = z.folded) ∧ compareCase x.uppers y.uppers = .lt ∧
      (z.uppers <+: x.uppers ∧ z.uppers <+: y.uppers) ∧
      compareChars y.text z.text = .lt ∧ compareChars z.text x.text = .lt)
    ⟨fun ⟨hf, hb, hs, hc⟩ => ⟨hf, hb, hs, hc⟩, fun ⟨hf, hb, hs, hc⟩ => ⟨hf, hb, hs, hc⟩⟩

/-- The key that is cut short is shorter. -/
theorem CutShort.length_lt (h : CutShort x y z) : z.uppers.length < x.uppers.length := by
  by_contra hle
  have heq : z.uppers = x.uppers := h.short.1.eq_of_length_le (Nat.le_of_not_lt hle)
  have hbefore := h.before
  rw [compareCase_eq_iff.2 (.inl (heq ▸ h.short.2))] at hbefore
  cases hbefore

/-- Three keys each before the next, and the last before the first. -/
structure Circle (x y z : SortKey) : Prop where
  first : x.compare y = .lt
  second : y.compare z = .lt
  third : z.compare x = .lt

theorem Circle.turn (h : Circle x y z) : Circle y z x := ⟨h.second, h.third, h.first⟩

theorem CutShort.circle (h : CutShort x y z) : Circle x y z where
  first := compare_eq_lt_iff.2 (.inr ⟨h.folded.1.trans h.folded.2.symm, .inl h.before⟩)
  second := compare_eq_lt_iff.2
    (.inr ⟨h.folded.2, .inr ⟨compareCase_eq_iff.2 (.inr h.short.2), h.between.1⟩⟩)
  third := compare_eq_lt_iff.2
    (.inr ⟨h.folded.1.symm, .inr ⟨compareCase_eq_iff.2 (.inl h.short.1), h.between.2⟩⟩)

/-- The keys of a circle are folded alike, for the folded forms never go
back. -/
theorem Circle.folded_eq (h : Circle x y z) : x.folded = y.folded := by
  have hxy := folded_isLE_of_lt h.first
  have hyx : (compareChars y.folded x.folded).isLE = true :=
    Std.TransCmp.isLE_trans (folded_isLE_of_lt h.second) (folded_isLE_of_lt h.third)
  exact Std.LawfulEqCmp.eq_of_compare (Std.OrientedCmp.isLE_antisymm hxy hyx)

/-- So each step of a circle is by case or, where case does not decide, by code
points. -/
theorem Circle.step (h : Circle x y z) :
    compareCase x.uppers y.uppers = .lt ∨
      compareCase x.uppers y.uppers = .eq ∧ compareChars x.text y.text = .lt := by
  rcases compare_eq_lt_iff.1 h.first with hlt | ⟨-, hstep⟩
  · rw [h.folded_eq, compareChars_self] at hlt
    cases hlt
  · exact hstep

/-- Two steps by case are one step by case, and there is no way back. -/
theorem Circle.not_case_twice (h : Circle x y z) (hxy : compareCase x.uppers y.uppers = .lt)
    (hyz : compareCase y.uppers z.uppers = .lt) : False := by
  have hzx : compareCase z.uppers x.uppers = .gt := by
    rw [compareCase_swap, compareCase_trans hxy hyz]
    rfl
  rcases h.turn.turn.step with h | ⟨h, -⟩ <;> rw [hzx] at h <;> cases h

/-- One step by case and two by code points: the key between the latter is cut
short. -/
theorem Circle.cutShort (h : Circle x y z) (hxy : compareCase x.uppers y.uppers = .lt)
    (hyz : compareCase y.uppers z.uppers = .eq ∧ compareChars y.text z.text = .lt)
    (hzx : compareCase z.uppers x.uppers = .eq ∧ compareChars z.text x.text = .lt) :
    CutShort x y z := by
  have hnot : ¬ (x.uppers <+: y.uppers ∨ y.uppers <+: x.uppers) := fun hprefix => by
    rw [compareCase_eq_iff.2 hprefix] at hxy
    cases hxy
  have hshort : z.uppers <+: x.uppers ∧ z.uppers <+: y.uppers := by
    rcases compareCase_eq_iff.1 hyz.1, compareCase_eq_iff.1 hzx.1 with ⟨hy | hy, hx | hx⟩
    · exact absurd (.inr (hy.trans hx)) hnot
    · exact absurd (List.prefix_or_prefix_of_prefix hx hy) hnot
    · exact ⟨hx, hy⟩
    · exact absurd (.inl (hx.trans hy)) hnot
  exact ⟨⟨h.turn.turn.folded_eq.symm, h.turn.folded_eq⟩, hxy, hshort, hyz.2, hzx.2⟩

/-- **A circle is made by a key cut short**, and by nothing else. -/
theorem circle_iff_cutShort :
    Circle x y z ↔ CutShort x y z ∨ CutShort y z x ∨ CutShort z x y := by
  constructor
  · intro h
    -- one of the three steps is by case, and one alone
    rcases h.step with hxy | hxy
    · rcases h.turn.step with hyz | hyz
      · exact (h.not_case_twice hxy hyz).elim
      · rcases h.turn.turn.step with hzx | hzx
        · exact (h.turn.turn.not_case_twice hzx hxy).elim
        · exact .inl (h.cutShort hxy hyz hzx)
    · rcases h.turn.step with hyz | hyz
      · rcases h.turn.turn.step with hzx | hzx
        · exact (h.turn.not_case_twice hyz hzx).elim
        · exact .inr (.inl (h.turn.cutShort hyz hzx hxy))
      · rcases h.turn.turn.step with hzx | hzx
        · exact .inr (.inr (h.turn.turn.cutShort hzx hxy hyz))
        · -- none is: code points do not go round
          have hxz := Std.TransCmp.lt_trans hxy.2 hyz.2
          exact absurd hzx.2 (Std.OrientedCmp.not_lt_of_lt hxz)
  · rintro (h | h | h)
    · exact h.circle
    · exact h.circle.turn.turn
    · exact h.circle.turn

end SortKey

/-! ### Texts -/

theorem compareText_swap (a b : String) : compareText b a = (compareText a b).swap :=
  SortKey.compare_swap _ _

/-- Only a text is equal to itself. -/
theorem compareText_eq_iff {a b : String} : compareText a b = .eq ↔ a = b := by
  constructor
  · intro h
    simp only [compareText, SortKey.compare, Ordering.then_eq_eq] at h
    exact String.toList_injective (Std.LawfulEqCmp.eq_of_compare h.2.2)
  · rintro rfl
    simp only [compareText, SortKey.compare, compareChars_self,
      compareCase_eq_iff.2 (.inl (List.prefix_refl _)), Ordering.then]

/-- Three texts, each before the next and the last before the first. -/
def Circle (a b c : String) : Prop := (SortKey.of a).Circle (SortKey.of b) (SortKey.of c)

/-- Two texts that differ in case, and a third that ends ahead of the difference
and lies between them by code points. -/
def CutShort (a b c : String) : Prop := (SortKey.of a).CutShort (SortKey.of b) (SortKey.of c)

instance (a b c : String) : Decidable (CutShort a b c) :=
  inferInstanceAs (Decidable (SortKey.CutShort _ _ _))

/-- Where one text is before a second and this before a third, the first is
before the third or the three go in a circle. -/
theorem compareText_lt_iff_not_circle {a b c : String} (hab : compareText a b = .lt)
    (hbc : compareText b c = .lt) : compareText a c = .lt ↔ ¬ Circle a b c := by
  constructor
  · rintro hac ⟨-, -, hca⟩
    rw [← compareText, compareText_swap, hac] at hca
    cases hca
  · intro hcircle
    cases hac : compareText a c with
    | lt => rfl
    | eq =>
        obtain rfl := compareText_eq_iff.1 hac
        rw [compareText_swap, hab] at hbc
        cases hbc
    | gt =>
        have hca : compareText c a = .lt := by rw [compareText_swap, hac]; rfl
        exact absurd ⟨hab, hbc, hca⟩ hcircle

/-! ### Texts without marks -/

/-- Below U+00C0 every character is its own part and has one lower-case
character, so the folded form is as long as the text. -/
theorem length_folded_of_low {s : String} (h : ∀ c ∈ s.toList, c.toNat < 0xC0) :
    (SortKey.of s).folded.length = (SortKey.of s).uppers.length := by
  have hall : s.toList.all (·.toNat < 0xC0) = true := by simpa using h
  have hparts : decompose s.toList = s.toList := by rw [decompose, if_pos hall]
  have hunmarked : s.toList.filter (fun c => !isMark c) = s.toList := by
    refine List.filter_eq_self.2 fun c hc => ?_
    have := h c hc
    simp [isMark, show ¬ 0x300 ≤ c.toNat by omega]
  have hsingle : ∀ c ∈ s.toList, (lowerChar c).length = 1 := fun c hc => by
    have hne : c ≠ 'İ' := by
      rintro rfl
      exact absurd (h _ hc) (by decide)
    unfold lowerChar
    split <;> rfl
  simp only [SortKey.of, hparts, fold, hunmarked, List.length_map, List.length_flatMap]
  rw [List.map_congr_left hsingle]
  simp

/-- **Texts of Latin letters without accents are in order**: there comparing is
transitive. -/
theorem compareText_trans_of_low {a b c : String} (ha : ∀ x ∈ a.toList, x.toNat < 0xC0)
    (hb : ∀ x ∈ b.toList, x.toNat < 0xC0) (hc : ∀ x ∈ c.toList, x.toNat < 0xC0)
    (hab : compareText a b = .lt) (hbc : compareText b c = .lt) : compareText a c = .lt := by
  -- texts folded alike are of one length
  have hnot : ∀ {x y z : String}, (∀ u ∈ x.toList, u.toNat < 0xC0) →
      (∀ u ∈ z.toList, u.toNat < 0xC0) → ¬ CutShort x y z := by
    intro x y z hx hz hcut
    have hlt := hcut.length_lt
    rw [← length_folded_of_low hx, ← length_folded_of_low hz, hcut.folded.1] at hlt
    exact Nat.lt_irrefl _ hlt
  rw [compareText_lt_iff_not_circle hab hbc, Circle, SortKey.circle_iff_cutShort]
  rintro (h | h | h)
  · exact hnot ha hc h
  · exact hnot hb ha h
  · exact hnot hc hb h

/-! ### The order of texts -/

-- A table that is computed from another does not evaluate as it stands.
theorem decompositionKeys_eq : decompositionKeys = ⟨decompositions.toList.map (·.1)⟩ := by
  rw [decompositionKeys, ← Array.toList_map]

/-- **The order of texts is total, and an order but for texts cut short.** -/
theorem ordered_unless_cut_short (a b c : String) :
    compareText b a = (compareText a b).swap ∧ (compareText a b = .eq ↔ a = b) ∧
      (compareText a b = .lt → compareText b c = .lt →
        (compareText a c = .lt ↔ ¬ (CutShort a b c ∨ CutShort b c a ∨ CutShort c a b))) := by
  refine ⟨compareText_swap a b, compareText_eq_iff, fun hab hbc => ?_⟩
  rw [compareText_lt_iff_not_circle hab hbc, Circle, SortKey.circle_iff_cutShort]
  rfl

/-- A shorter text among longer ones: as long as it does not lie between them,
all is in order. -/
theorem short_text_in_order :
    let a := "и\u0306ж"
    let b := "и\u0306Ж"
    let c := "иж"
    ¬ (CutShort a b c ∨ CutShort b c a ∨ CutShort c a b) ∧
      compareText a b = .lt ∧ compareText b c = .lt ∧ compareText a c = .lt := by
  intro a b c
  have heval : ¬ (CutShort a b c ∨ CutShort b c a ∨ CutShort c a b) ∧
      compareText a b = .lt ∧ compareText b c = .lt := by
    unfold CutShort compareText SortKey.of decompose fold decomposeChar lowerChar lowerCode
    rw [decompositionKeys_eq, caseRunStarts_eq]
    decide +kernel
  obtain ⟨hshort, hab, hbc⟩ := heval
  obtain ⟨-, -, htrans⟩ := ordered_unless_cut_short a b c
  exact ⟨hshort, hab, hbc, (htrans hab hbc).2 hshort⟩

/-- The texts `x`, `y` and `z` of the picture go in a circle. -/
theorem texts_in_circle :
    ¬ ∀ a b c : String, compareText b a = (compareText a b).swap ∧
      (compareText a b = .eq ↔ a = b) ∧
      (compareText a b = .lt → compareText b c = .lt → compareText a c = .lt) := by
  intro h
  have heval : compareText "йж" "и\u0306Ж" = .lt ∧ compareText "и\u0306Ж" "иж" = .lt ∧
      compareText "йж" "иж" ≠ .lt := by
    unfold compareText SortKey.of decompose fold decomposeChar lowerChar lowerCode
    rw [decompositionKeys_eq, caseRunStarts_eq]
    decide +kernel
  obtain ⟨hxy, hyz, hxz⟩ := heval
  obtain ⟨-, -, htrans⟩ := h "йж" "и\u0306Ж" "иж"
  exact hxz (htrans hxy hyz)

end VmAssessment.Text
