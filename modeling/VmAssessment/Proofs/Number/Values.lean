/-
VmAssessment/Proofs/Number/Values.lean

The numbers that patterns stand for.  A finite number is a count of steps of
the least positive one (`significand_mul_eq`), and the greater the pattern
without its sign, the more steps (`steps_strictMono`).  So patterns of one sign
stand for different numbers, and of both signs for one only if it is zero.  The
test for numbers below zero knows of that zero (`isBelowZero_eq_false_iff`).
-/
import Mathlib.Algebra.Order.Field.Rat
import Mathlib.Order.Monotone.Basic
import Mathlib.Tactic.Ring
import VmAssessment.Number.Binary64

namespace VmAssessment.Number.Binary64

variable {x y : Binary64}

/-- The number a finite pattern stands for. -/
def value (x : Binary64) : ℚ :=
  (if x.sign then -1 else 1) * (x.significand * 2 ^ x.exponent)

/-- How many times the least positive number goes into a magnitude. -/
def steps (m : ℕ) : ℕ :=
  if m < fullSignificand then m
  else (fullSignificand + m % fullSignificand) * 2 ^ (m / fullSignificand - 1)

theorem significand_mul_eq (x : Binary64) :
    (x.significand * 2 ^ x.exponent : ℚ) = steps x.magnitude * 2 ^ (-1074 : ℤ) := by
  unfold significand exponent steps
  generalize x.magnitude = m
  split
  · rename_i hm
    have hexp : max ((0 : ℕ) : ℤ) 1 - 1075 = -1074 := rfl
    rw [Nat.div_eq_of_lt hm, hexp]
  · rename_i hm
    have hq : 1 ≤ m / fullSignificand :=
      (Nat.one_le_div_iff (by decide)).2 (Nat.le_of_not_lt hm)
    obtain ⟨k, hk⟩ := Nat.exists_eq_add_of_le' hq
    have hexp : max ((m / fullSignificand : ℕ) : ℤ) 1 - 1075 = (k : ℤ) + (-1074) := by omega
    rw [hexp, hk, zpow_add₀ (by norm_num), zpow_natCast, Nat.add_sub_cancel]
    generalize (2 : ℚ) ^ (-1074 : ℤ) = unit
    push_cast
    ring

/-- The steps by the exponent and the other digits of a magnitude. -/
theorem steps_mul_add (q : ℕ) {r : ℕ} (hr : r < fullSignificand) :
    steps (fullSignificand * q + r) = if q = 0 then r else (fullSignificand + r) * 2 ^ (q - 1) := by
  have hdiv : (fullSignificand * q + r) / fullSignificand = q := by
    rw [Nat.mul_add_div (by decide), Nat.div_eq_of_lt hr, Nat.add_zero]
  have hmod : (fullSignificand * q + r) % fullSignificand = r := by
    rw [Nat.mul_add_mod, Nat.mod_eq_of_lt hr]
  have hsmall : fullSignificand * q + r < fullSignificand ↔ q = 0 := by
    rw [← Nat.div_eq_zero_iff_lt (by decide), hdiv]
  rw [steps, hdiv, hmod, if_congr hsmall rfl rfl]
  split
  · rename_i hq
    rw [hq, Nat.mul_zero, Nat.zero_add]
  · rfl

/-- From one magnitude to the next the steps grow, also where the exponent
does. -/
theorem steps_lt_succ (m : ℕ) : steps m < steps (m + 1) := by
  have hr : m % fullSignificand < fullSignificand := Nat.mod_lt _ (by decide)
  rw [← Nat.div_add_mod m fullSignificand]
  generalize m / fullSignificand = q at *
  generalize m % fullSignificand = r at *
  by_cases hnext : r + 1 < fullSignificand
  · rw [Nat.add_assoc, steps_mul_add q hr, steps_mul_add q hnext]
    split
    · exact Nat.lt_succ_self r
    · exact Nat.mul_lt_mul_of_pos_right (by omega) (Nat.two_pow_pos _)
  · have hcarry : fullSignificand * q + r + 1 = fullSignificand * (q + 1) + 0 := by
      rw [Nat.mul_add_one]
      omega
    rw [hcarry, steps_mul_add q hr, steps_mul_add (q + 1) (by decide),
      if_neg (Nat.succ_ne_zero q), Nat.add_sub_cancel]
    cases q with
    | zero => simpa using hr
    | succ k =>
        have hdouble : (fullSignificand + 0) * 2 ^ (k + 1) = 2 * fullSignificand * 2 ^ k := by ring
        rw [if_neg (Nat.succ_ne_zero k), Nat.add_sub_cancel, hdouble]
        exact Nat.mul_lt_mul_of_pos_right (by omega) (Nat.two_pow_pos _)

theorem steps_strictMono : StrictMono steps := strictMono_nat_of_lt_succ steps_lt_succ

/-! ### Signs -/

theorem steps_zero : steps 0 = 0 := rfl

theorem value_eq_signed (x : Binary64) :
    x.value = (if x.sign then -1 else 1) * (steps x.magnitude * 2 ^ (-1074 : ℤ)) := by
  rw [value, significand_mul_eq]

/-- The number of a finite pattern is below zero where the test says so: the
sign alone does not put it there, since zero has both. -/
theorem isBelowZero_eq_false_iff (hfinite : x.isFinite = true) :
    x.isBelowZero = false ↔ 0 ≤ x.value := by
  have hunit : (0 : ℚ) < 2 ^ (-1074 : ℤ) := zpow_pos two_pos _
  have hmagnitude : x.magnitude < infinityMagnitude := of_decide_eq_true hfinite
  rw [value_eq_signed, isBelowZero]
  generalize (2 : ℚ) ^ (-1074 : ℤ) = unit at hunit ⊢
  cases x.sign with
  | false => simpa using mul_nonneg (Nat.cast_nonneg _) hunit.le
  | true =>
      rcases Nat.eq_zero_or_pos x.magnitude with hzero | hpos
      · simp [hzero, steps_zero]
      · have hsteps : 0 < steps x.magnitude := steps_strictMono hpos
        have hvalue : (0 : ℚ) < steps x.magnitude * unit :=
          mul_pos (Nat.cast_pos.2 hsteps) hunit
        simp [hpos.ne', hmagnitude.le, hvalue]

/-- Finite, and not below zero as a number. -/
def NonNegative (x : Binary64) : Prop := x.isFinite = true ∧ 0 ≤ x.value

theorem nonNegative_iff : x.NonNegative ↔ x.isFinite = true ∧ x.isBelowZero = false :=
  and_congr_right fun hfinite => (isBelowZero_eq_false_iff hfinite).symm

/-! ### Sizes -/

/-- A number that is not below zero has no sign, unless it is zero. -/
theorem sign_eq_false_or (hfinite : x.isFinite = true) (hbelow : x.isBelowZero = false) :
    x.sign = false ∨ x.magnitude = 0 := by
  simp only [isFinite, decide_eq_true_eq] at hfinite
  simp only [isBelowZero, Bool.and_eq_false_iff, bne_eq_false_iff_eq, decide_eq_false_iff_not]
    at hbelow
  rcases hbelow with (h | h) | h
  · exact .inl h
  · exact .inr h
  · exact absurd hfinite.le h

theorem value_eq_steps (hfinite : x.isFinite = true) (hbelow : x.isBelowZero = false) :
    x.value = steps x.magnitude * 2 ^ (-1074 : ℤ) := by
  rw [value_eq_signed]
  rcases sign_eq_false_or hfinite hbelow with h | h
  · simp [h]
  · simp [h, steps_zero]

/-- Numbers that are not below zero are equal if they have one magnitude. -/
theorem value_eq_iff (hx : x.isFinite = true ∧ x.isBelowZero = false)
    (hy : y.isFinite = true ∧ y.isBelowZero = false) :
    x.value = y.value ↔ x.magnitude = y.magnitude := by
  have hstep : (2 ^ (-1074 : ℤ) : ℚ) ≠ 0 := zpow_ne_zero _ two_ne_zero
  rw [value_eq_steps hx.1 hx.2, value_eq_steps hy.1 hy.2, mul_left_inj' hstep, Nat.cast_inj,
    steps_strictMono.injective.eq_iff]

/-- A pattern is its sign and its magnitude. -/
theorem eq_of_sign_of_magnitude (hsign : x.sign = y.sign) (hmagnitude : x.magnitude = y.magnitude) :
    x = y := by
  have hbits : signBit ≤ x.bits.toNat ↔ signBit ≤ y.bits.toNat := decide_eq_decide.1 hsign
  have hx := x.bits.toNat_lt
  have hy := y.bits.toNat_lt
  obtain ⟨x⟩ := x
  obtain ⟨y⟩ := y
  simp only [magnitude, signBit] at hbits hmagnitude hx hy
  refine congrArg _ (UInt64.toNat_inj.1 ?_)
  omega

/-- Two equal numbers are one pattern, or the two zeros. -/
theorem eq_or_zeros (hx : x.isFinite = true ∧ x.isBelowZero = false)
    (hy : y.isFinite = true ∧ y.isBelowZero = false) (hequal : x.value = y.value) :
    x = y ∨ (x = zero ∧ y = negZero) ∨ (x = negZero ∧ y = zero) := by
  have hmagnitude := (value_eq_iff hx hy).1 hequal
  have hzero : ∀ {z : Binary64}, z.sign = false → z.magnitude = 0 → z = zero :=
    fun hsign hmag => eq_of_sign_of_magnitude hsign hmag
  have hnegZero : ∀ {z : Binary64}, z.sign = true → z.magnitude = 0 → z = negZero :=
    fun hsign hmag => eq_of_sign_of_magnitude hsign hmag
  cases hxs : x.sign <;> cases hys : y.sign
  · exact .inl (eq_of_sign_of_magnitude (hxs.trans hys.symm) hmagnitude)
  · have hmag : y.magnitude = 0 := (sign_eq_false_or hy.1 hy.2).resolve_left (by simp [hys])
    exact .inr (.inl ⟨hzero hxs (hmagnitude.trans hmag), hnegZero hys hmag⟩)
  · have hmag : x.magnitude = 0 := (sign_eq_false_or hx.1 hx.2).resolve_left (by simp [hxs])
    exact .inr (.inr ⟨hnegZero hxs hmag, hzero hys (hmagnitude.symm.trans hmag)⟩)
  · exact .inl (eq_of_sign_of_magnitude (hxs.trans hys.symm) hmagnitude)

end VmAssessment.Number.Binary64
