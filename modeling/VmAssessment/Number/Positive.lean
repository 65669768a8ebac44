/-
VmAssessment/Number/Positive.lean

Positive numbers: pages and page sizes, which are never zero.
-/

namespace VmAssessment.Number

/-- A natural number above zero. -/
structure Positive where
  val : Nat
  pos : 0 < val
deriving DecidableEq, Repr

namespace Positive

/-- The least positive number. -/
def one : Positive := ⟨1, Nat.one_pos⟩

instance : Inhabited Positive := ⟨one⟩

/-- A number, or nothing for zero. -/
def ofNat? (n : Nat) : Option Positive := if h : 0 < n then some ⟨n, h⟩ else none

/-- A number, with one in place of zero. -/
def ofNat (n : Nat) : Positive := (ofNat? n).getD one

@[simp] theorem ofNat_val (n : Nat) : (ofNat n).val = max n 1 := by
  unfold ofNat ofNat?
  split <;> simp [one] <;> omega

end Positive

end VmAssessment.Number
