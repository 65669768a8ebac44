/-
VmAssessment/Proofs/Text/Runs.lean

A reader takes the longest run of characters of one class and goes on behind
it.  A text splits into such a run and a rest that starts otherwise
(`exists_run`), and nothing but this split matters: both halves are what the
reader gets (`takeWhile_run`, `dropWhile_run`).  At the ends of a text runs are
dropped (`dropWhile_ends`).
-/
import VmAssessment.Text.Blank

namespace VmAssessment.Text

/-! ### Letters and digits -/

variable {c : Char}

theorem toNat_of_isAlpha (hc : c.isAlpha) :
    65 ≤ c.toNat ∧ c.toNat ≤ 90 ∨ 97 ≤ c.toNat ∧ c.toNat ≤ 122 := by
  have hcode : decide (65 ≤ c.val ∧ c.val ≤ 90) || (97 ≤ c.val && c.val ≤ 122) := hc
  simpa [UInt32.le_iff_toNat_le] using hcode

theorem toNat_of_isDigit (hc : c.isDigit) : 48 ≤ c.toNat ∧ c.toNat ≤ 57 :=
  Char.isDigit_iff_toNat.1 hc

/-- A number is printed as digits, and there is a first one. -/
theorem exists_toDigits (n : Nat) :
    ∃ c l, Nat.toDigits 10 n = c :: l ∧ c.isDigit ∧ ∀ d ∈ l, d.isDigit := by
  obtain ⟨c, l, hl⟩ := List.exists_cons_of_ne_nil (Nat.toDigits_ne_nil (n := n) (b := 10))
  have hall : ∀ d ∈ c :: l, d.isDigit := fun d hd =>
    Nat.isDigit_of_mem_toDigits (by decide) (by decide) (hl ▸ hd)
  exact ⟨c, l, hl, hall c (List.mem_cons_self ..), fun d hd => hall d (List.mem_cons_of_mem c hd)⟩

theorem not_isBlank_of_isAlpha (hc : c.isAlpha) : isBlank c = false := by
  have hbounds := toNat_of_isAlpha hc
  simp [isBlank]
  omega

theorem not_isBlank_of_isDigit (hc : c.isDigit) : isBlank c = false := by
  have hbounds := toNat_of_isDigit hc
  simp [isBlank]
  omega

/-! ### A run and the rest -/

variable {p q : Char → Bool} {last : Char} {front rest blanks : List Char}

theorem exists_run (p : Char → Bool) (cs : List Char) : ∃ front rest, cs = front ++ rest
    ∧ (∀ c ∈ front, p c) ∧ ∀ c ∈ rest.head?, p c = false := by
  refine ⟨cs.takeWhile p, cs.dropWhile p, List.takeWhile_append_dropWhile.symm, ?_, ?_⟩
  · exact List.all_eq_true.1 List.all_takeWhile
  · intro c hc
    have hnot := List.head?_dropWhile_not p cs
    rw [Option.mem_def.1 hc] at hnot
    simpa using hnot

theorem takeWhile_run (hfront : ∀ c ∈ front, p c) (hrest : ∀ c ∈ rest.head?, p c = false) :
    (front ++ rest).takeWhile p = front := by
  rw [List.takeWhile_append_of_pos hfront]
  cases rest with
  | nil => exact List.append_nil front
  | cons c rest => rw [List.takeWhile_cons_of_neg (by simp [hrest c rfl]), List.append_nil]

theorem dropWhile_run (hfront : ∀ c ∈ front, p c) (hrest : ∀ c ∈ rest.head?, p c = false) :
    (front ++ rest).dropWhile p = rest := by
  rw [List.dropWhile_append_of_pos hfront]
  cases rest with
  | nil => rfl
  | cons c rest => exact List.dropWhile_cons_of_neg (by simp [hrest c rfl])

/-! ### Dropping at the ends -/

theorem dropWhile_append_cons (hlast : p last = false) (front rest : List Char) :
    (front ++ last :: rest).dropWhile p = front.dropWhile p ++ last :: rest := by
  rw [List.dropWhile_append, List.dropWhile_cons_of_neg (by simp [hlast])]
  split
  · rename_i hempty
    rw [List.isEmpty_iff.1 hempty, List.nil_append]
  · rfl

/-- What is dropped at the end goes up to the last character that stays. -/
theorem dropWhile_ends (hlast : p last = false) (hblanks : ∀ c ∈ blanks, p c) (front : List Char) :
    (((front ++ last :: blanks).dropWhile p).reverse.dropWhile p).reverse
      = front.dropWhile p ++ [last] := by
  have hreverse : (front.dropWhile p ++ last :: blanks).reverse
      = blanks.reverse ++ last :: (front.dropWhile p).reverse := by simp
  have hskip : ∀ c ∈ blanks.reverse, p c := fun c hc => hblanks c (List.mem_reverse.1 hc)
  rw [dropWhile_append_cons hlast, hreverse, List.dropWhile_append_of_pos hskip,
    List.dropWhile_cons_of_neg (by simp [hlast])]
  simp

/-- Dropping other characters first makes no difference, as long as what is
left does not start with one of them. -/
theorem dropWhile_dropWhile (h : ∀ c ∈ (front.dropWhile p).head?, q c = false) :
    (front.dropWhile q).dropWhile p = front.dropWhile p := by
  induction front with
  | nil => rfl
  | cons c front ih =>
      by_cases hp : p c
      · rw [List.dropWhile_cons_of_pos hp] at h ⊢
        by_cases hq : q c
        · rw [List.dropWhile_cons_of_pos hq, ih h]
        · rw [List.dropWhile_cons_of_neg hq, List.dropWhile_cons_of_pos hp]
      · rw [List.dropWhile_cons_of_neg hp] at h ⊢
        have hq := h c rfl
        rw [List.dropWhile_cons_of_neg (by simp [hq]), List.dropWhile_cons_of_neg hp]

end VmAssessment.Text
