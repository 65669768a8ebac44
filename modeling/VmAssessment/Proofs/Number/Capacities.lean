/-
VmAssessment/Proofs/Number/Capacities.lean

Capacities as they are printed.  The unit is the right one for the exact value:
of a unit that has a next one there are always less than 1024.  But the number
is rounded to tenths after the unit has been chosen, so what stands before the
unit may be 1024.0; and it is, from 1023.95 on (`number_below_iff`).
-/
import Mathlib.Data.List.TakeWhile
import Mathlib.Tactic.FieldSimp
import Mathlib.Tactic.Linarith
import Mathlib.Tactic.NormNum
import VmAssessment.Capacity
import VmAssessment.Proofs.Number.Values
import VmAssessment.Proofs.Text.Runs

namespace VmAssessment

namespace Number.Binary64

variable {num den : ℕ} {x : Binary64}

/-! ### Quotients -/

theorem ratio_snd_pos (x : Binary64) : 0 < x.ratio.2 := Nat.two_pow_pos _

/-- The quotient of a number is its magnitude. -/
theorem ratio_div (x : Binary64) :
    (x.ratio.1 : ℚ) / x.ratio.2 = x.significand * 2 ^ x.exponent := by
  unfold ratio
  generalize x.exponent = e
  obtain ⟨n, rfl | rfl⟩ := Int.eq_nat_or_neg e
  · simp
  · simp [zpow_neg, div_eq_mul_inv]

theorem value_pos_iff : 0 < x.value ↔ x.sign = false ∧ x.magnitude ≠ 0 := by
  have hunit : (0 : ℚ) < 2 ^ (-1074 : ℤ) := zpow_pos two_pos _
  rw [value_eq_signed]
  generalize (2 : ℚ) ^ (-1074 : ℤ) = unit at hunit
  cases x.sign with
  | true =>
      have hmagnitude : (0 : ℚ) ≤ steps x.magnitude * unit :=
        mul_nonneg (Nat.cast_nonneg _) hunit.le
      simpa using hmagnitude
  | false =>
      have hsteps : 0 < steps x.magnitude ↔ 0 < x.magnitude :=
        steps_strictMono.lt_iff_lt (a := 0)
      simp [hunit, hsteps, Nat.pos_iff_ne_zero]

/-- A number above zero is its quotient. -/
theorem value_eq_ratio (hpos : 0 < x.value) : x.value = x.ratio.1 / x.ratio.2 := by
  rw [ratio_div, value, (value_pos_iff.1 hpos).1]
  simp

/-- An even number is rounded up to, or beyond, from half below it on: at the half
itself it is the even neighbour. -/
theorem le_roundRatio_iff (hden : 0 < den) (j : ℕ) :
    2 * j + 2 ≤ roundRatio num den ↔ (4 * j + 3) * den ≤ 2 * num := by
  have hnum : den * (num / den) + num % den = num := Nat.div_add_mod num den
  have hrest : num % den < den := Nat.mod_lt num hden
  simp only [roundRatio]
  generalize num / den = q at *
  generalize num % den = r at *
  rcases Nat.lt_trichotomy q (2 * j + 1) with hq | rfl | hq
  · -- not even rounding up gets there
    have hbelow : den * (q + 1) ≤ den * (2 * j + 1) := Nat.mul_le_mul_left den hq
    refine iff_of_false ?_ ?_
    · split <;> omega
    · intro hle
      linarith
  · have hup : (decide (den < 2 * r) || (den == 2 * r && (2 * j + 1) % 2 == 1)) = true
        ↔ den ≤ 2 * r := by
      simp only [Bool.or_eq_true, decide_eq_true_eq, Bool.and_eq_true, beq_iff_eq]
      omega
    have hhalf : (4 * j + 3) * den ≤ 2 * num ↔ den ≤ 2 * r := by
      constructor <;> intro h <;> linarith
    rw [hhalf, ← hup]
    split <;> simp_all
  · have habove : den * (2 * j + 2) ≤ den * q := Nat.mul_le_mul_left den hq
    refine iff_of_true ?_ ?_
    · split <;> omega
    · linarith

end Number.Binary64

namespace Capacity

open Number (Binary64)
open Number.Binary64 (roundRatio le_roundRatio_iff)

/-! ### Numerals -/

/-- What a decimal numeral is worth: its digits as a whole number, with as many
decimals as stand behind the point. -/
def worth (numeral : List Char) : ℚ :=
  Nat.ofDigitChars 10 (numeral.filter (· ≠ '.')) 0
    / 10 ^ (numeral.dropWhile (· ≠ '.')).tail.length

theorem ne_point_of_mem (n : ℕ) : ∀ c ∈ Nat.toDigits 10 n, decide (c ≠ '.') = true := by
  intro c hc
  have hdigit : c.isDigit := Nat.isDigit_of_mem_toDigits (by decide) (by decide) hc
  refine decide_eq_true ?_
  rintro rfl
  exact absurd hdigit (by decide)

theorem worth_whole (n : ℕ) : worth (Nat.toDigits 10 n) = n := by
  rw [worth, List.filter_eq_self.2 (ne_point_of_mem n),
    List.dropWhile_eq_nil_iff.2 (ne_point_of_mem n), Nat.ofDigitChars_ten_toDigits]
  simp

/-- A number of tenths, with one decimal. -/
theorem worth_tenths (n : ℕ) :
    worth (Nat.toDigits 10 (n / 10) ++ '.' :: Nat.toDigits 10 (n % 10)) = n / 10 := by
  have hlast : n % 10 < 10 := Nat.mod_lt n (by decide)
  have hvalue : ∀ d < 10, d.digitChar.toNat - '0'.toNat = d := by decide
  rw [worth, List.filter_append, List.filter_cons_of_neg (by simp),
    List.filter_eq_self.2 (ne_point_of_mem _), List.filter_eq_self.2 (ne_point_of_mem _),
    Text.dropWhile_run (ne_point_of_mem _) (by simp), Nat.ofDigitChars_append,
    Nat.ofDigitChars_ten_toDigits, Nat.toDigits_of_lt_base hlast, Nat.ofDigitChars_cons,
    Nat.ofDigitChars_nil, hvalue _ hlast, Nat.div_add_mod]
  simp

/-- The number as it is printed. -/
def Shown.numeral (s : Shown) : List Char :=
  if s.whole then Nat.toDigits 10 (s.tenths / 10)
  else Nat.toDigits 10 (s.tenths / 10) ++ '.' :: Nat.toDigits 10 (s.tenths % 10)

theorem Shown.toList_text (s : Shown) :
    s.text.toList = s.numeral ++ ' ' :: s.unit.label.toList := by
  simp only [text, numeral, String.toList_append]
  split <;> simp

/-! ### The unit and the number -/

/-- How many GB there are to a unit. -/
def StorageUnit.scale : StorageUnit → ℕ
  | .gb => 1
  | .tb => 1024
  | .pb => 1024 * 1024

theorem StorageUnit.scale_pos (unit : StorageUnit) : 0 < unit.scale := by
  cases unit <;> decide

theorem promote_snd (num den : ℕ) : (promote num den).2 = (promote num den).1.scale * den := by
  unfold promote
  split
  · exact (Nat.one_mul den).symm
  · split
    · rfl
    · exact (Nat.mul_assoc _ _ _).symm

/-- Of a unit that is not the last there are less than to the next one. -/
theorem lt_of_promote {num den : ℕ} (h : (promote num den).1 ≠ .pb) :
    num < 1024 * (promote num den).2 := by
  unfold promote at h ⊢
  split
  · assumption
  · split
    · assumption
    · simp_all

theorem shown_eq (num den : ℕ) : shown num den = ⟨(promote num den).1,
    roundRatio (10 * num) (promote num den).2, num % (promote num den).2 = 0⟩ := rfl

/-- A whole number has no tenths to be rounded. -/
theorem roundRatio_of_mod_eq_zero {num den : ℕ} (hden : 0 < den) (h : num % den = 0) :
    roundRatio (10 * num) den = 10 * (num / den) := by
  obtain ⟨q, rfl⟩ := Nat.dvd_of_mod_eq_zero h
  have hquotient : 10 * (den * q) / den = 10 * q := by
    rw [Nat.mul_left_comm, Nat.mul_div_cancel_left _ hden]
  have hnone : 10 * (den * q) % den = 0 := by
    rw [Nat.mul_left_comm, Nat.mul_mod_right]
  simp only [roundRatio, hquotient, hnone, Nat.mul_div_cancel_left _ hden]
  simp [hden.ne']

/-- What is printed is worth the tenths, with decimals or without. -/
theorem worth_numeral {num den : ℕ} (hden : 0 < den) :
    worth (shown num den).numeral = (shown num den).tenths / 10 := by
  have hunit : 0 < (promote num den).2 := by
    rw [promote_snd]
    exact Nat.mul_pos (StorageUnit.scale_pos _) hden
  rw [Shown.numeral, shown_eq]
  simp only
  split
  · rename_i hwhole
    rw [roundRatio_of_mod_eq_zero hunit (by simpa using hwhole), worth_whole,
      Nat.mul_div_cancel_left _ (by decide)]
    push_cast
    field_simp
  · exact worth_tenths _

/-- The unit's number is below 1024, and stays so from rounding if it is not too
near. -/
theorem shown_lt {num den : ℕ} (hden : 0 < den) (h : (shown num den).unit ≠ .pb) :
    (num / den : ℚ) / (shown num den).unit.scale < 1024 ∧
      (((shown num den).tenths / 10 : ℚ) < 1024
        ↔ (num / den : ℚ) / (shown num den).unit.scale < 1023.95) := by
  have hlt := lt_of_promote h
  rw [shown_eq] at h ⊢
  have hscale := (promote num den).1.scale_pos
  rw [promote_snd] at hlt ⊢
  generalize (promote num den).1.scale = scale at *
  have hunit : (0 : ℚ) < den * scale := by positivity
  have hround : roundRatio (10 * num) (scale * den) < 10240 ↔ 20 * num < 20479 * (scale * den) := by
    have hle : 2 * 5119 + 2 ≤ roundRatio (10 * num) (scale * den) ↔ _ :=
      le_roundRatio_iff (Nat.mul_pos hscale hden) 5119
    omega
  have htenths : ((roundRatio (10 * num) (scale * den) : ℚ) / 10 < 1024)
      ↔ roundRatio (10 * num) (scale * den) < 10240 := by
    rw [div_lt_iff₀ (by norm_num), ← Nat.cast_lt (α := ℚ)]
    norm_num
  rw [div_div, div_lt_iff₀ hunit, div_lt_iff₀ hunit, htenths, hround]
  constructor
  · have : (num : ℚ) < 1024 * (scale * den) := by exact_mod_cast hlt
    linarith
  · rw [← Nat.cast_lt (α := ℚ)]
    push_cast
    constructor <;> intro h <;> linarith

theorem StorageUnit.label_injective : Function.Injective StorageUnit.label := by
  intro u v h
  cases u <;> cases v <;> first | rfl | exact absurd h (by decide)

/-- A text is a number and a unit in one way only. -/
theorem Shown.text_eq_iff {s : Shown} {number : String} {unit : StorageUnit} :
    s.text = number ++ " " ++ unit.label ↔ number.toList = s.numeral ∧ unit = s.unit := by
  have hlength : ∀ u v : StorageUnit, u.label.toList.length = v.label.toList.length := by
    intro u v
    cases u <;> cases v <;> decide
  have hspace : " ".toList = [' '] := rfl
  rw [← String.toList_inj, toList_text, String.toList_append, String.toList_append, hspace,
    List.append_assoc, List.singleton_append]
  constructor
  · intro h
    obtain ⟨hnumeral, hunit⟩ := List.append_inj' h (by simp [hlength s.unit unit])
    have hlabel := String.toList_inj.1 (List.cons.inj hunit).2
    exact ⟨hnumeral.symm, StorageUnit.label_injective hlabel.symm⟩
  · rintro ⟨hnumber, rfl⟩
    simp [hnumber]

/-- **Where the number before the unit stays below the next unit.**  What is
printed of a positive size is a number and a unit, of which there are less than
1024, unless it is the last.  But the number that is printed is below 1024 if
and only if the exact one is below 1023.95; else it is rounded up. -/
theorem number_below_iff {size : Binary64} (hfinite : size.isFinite = true)
    (hpos : 0 < size.value) :
    (∃ number unit, text size = number ++ " " ++ StorageUnit.label unit) ∧
      ∀ number unit, text size = number ++ " " ++ StorageUnit.label unit → unit ≠ .pb →
        size.value / unit.scale < 1024 ∧
          (worth number.toList < 1024 ↔ size.value / unit.scale < 1023.95) := by
  obtain ⟨hsign, hmagnitude⟩ := Binary64.value_pos_iff.1 hpos
  have hden := size.ratio_snd_pos
  have htext : text size = (shown size.ratio.1 size.ratio.2).text := by
    simp [text, hfinite, hsign, hmagnitude]
  rw [htext, Binary64.value_eq_ratio hpos]
  refine ⟨⟨String.ofList (shown size.ratio.1 size.ratio.2).numeral, _,
    Shown.text_eq_iff.2 ⟨String.toList_ofList, rfl⟩⟩, fun number unit h hunit => ?_⟩
  obtain ⟨hnumber, rfl⟩ := Shown.text_eq_iff.1 h
  rw [hnumber, worth_numeral hden]
  exact shown_lt hden hunit

/-- The size is printed as 1023.9 TB. -/
theorem just_below_is_rounded_down :
    let size : Binary64 := .ofNat 1048524
    size.isFinite = true ∧ 0 < size.value ∧
      text size = "1023.9" ++ " " ++ StorageUnit.label .tb ∧ worth "1023.9".toList < 1024 := by
  intro size
  have hfinite : size.isFinite = true := by decide +kernel
  have hpos : 0 < size.value := Binary64.value_pos_iff.2 (by decide +kernel)
  have htext : text size = "1023.9" ++ " " ++ StorageUnit.label .tb := by decide +kernel
  have hvalue : size.value = 1048524 := by
    have hratio : size.ratio = (1048524 * 2 ^ 33, 2 ^ 33) := by decide +kernel
    rw [Binary64.value_eq_ratio hpos, hratio]
    norm_num
  refine ⟨hfinite, hpos, htext, ?_⟩
  obtain ⟨-, hbelow⟩ := (number_below_iff hfinite hpos).2 _ _ htext nofun
  rw [hbelow, hvalue]
  norm_num [StorageUnit.scale]

/-- A size of 1023.99 GB is printed as 1024.0 GB. -/
theorem number_reaches_next_unit :
    ¬ ∀ size : Binary64, size.isFinite = true → 0 < size.value →
      ∀ number unit, text size = number ++ " " ++ StorageUnit.label unit → unit ≠ .pb →
        worth number.toList < 1024 := by
  intro h
  have hbelow := h (.ofRatio false 102399 100) (by decide +kernel)
    (Binary64.value_pos_iff.2 (by decide +kernel)) "1024.0" .gb (by decide +kernel) nofun
  revert hbelow
  decide +kernel

end Capacity

end VmAssessment
