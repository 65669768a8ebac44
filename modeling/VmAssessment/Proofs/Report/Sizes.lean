/-
VmAssessment/Proofs/Report/Sizes.lean

Rows of one size.  The order of sizes is one of patterns, the stability asked
for is one of numbers; the two part where a number has two patterns.  Of the
sizes an inventory takes over only zero has, so two rows of equal size keep
their order unless they are zeros of the signs that the direction turns round
(`equal_sizes_keep_order_iff`).
-/
import VmAssessment.Proofs.Inventory.Accepting
import VmAssessment.Proofs.Number.Values
import VmAssessment.Proofs.Report.Columns

namespace VmAssessment.Report

open Number (Binary64)

variable {column : Column} {size : Vm → Binary64}

/-- Two zeros of which a direction puts the second first. -/
def ZerosTurned (d : Direction) (x y : Binary64) : Prop :=
  match d with
  | .asc => x = .zero ∧ y = .negZero
  | .desc => x = .negZero ∧ y = .zero

instance (d : Direction) (x y : Binary64) : Decidable (ZerosTurned d x y) := by
  unfold ZerosTurned
  cases d <;> infer_instance

/-- The size that a column shows of a machine with good sizes. -/
theorem size_of_sizeFault? (hcolumn : column.size? = some size) {vm : Vm}
    (hvm : vm.sizeFault? = none) :
    (size vm).isFinite = true ∧ (size vm).isBelowZero = false := by
  have hsized := Vm.sizeFault?_eq_none_iff.1 hvm
  cases column <;> cases hcolumn
  · exact hsized vm.diskGb (by simp)
  · exact hsized vm.memoryGb (by simp)

/-- Of two equal numbers one is greater by its pattern only if they are
zeros. -/
theorem compareTotal_eq_gt_iff {d : Direction} {x y : Binary64}
    (hx : x.isFinite = true ∧ x.isBelowZero = false)
    (hy : y.isFinite = true ∧ y.isBelowZero = false) (hequal : x.value = y.value) :
    oriented d (x.compareTotal y) = .gt ↔ ZerosTurned d x y := by
  rcases Binary64.eq_or_zeros hx hy hequal with rfl | ⟨rfl, rfl⟩ | ⟨rfl, rfl⟩
  · have hself : compare x.orderIndex x.orderIndex = .eq := Std.ReflCmp.compare_self
    have hzeros : Binary64.zero ≠ .negZero := by decide
    rw [Binary64.compareTotal, hself]
    refine iff_of_false (by cases d <;> decide) fun h => hzeros ?_
    cases d with
    | asc => exact h.1.symm.trans h.2
    | desc => exact h.2.symm.trans h.1
  · cases d <;> decide
  · cases d <;> decide

/-- **Rows of equal size keep their order, zeros apart**: of the rows of a good
batch, each with its position, two of one size are sorted into the order they
had if and only if they are not zeros of different signs, in ascending order the
positive first, in descending order the negative. -/
theorem equal_sizes_keep_order_iff (hcolumn : column.size? = some size) (d : Direction)
    {rows : List Vm} (hrows : ∀ vm ∈ rows, vm.sizeFault? = none) {a b : Vm × ℕ}
    (hab : [a, b].Sublist rows.zipIdx) (hequal : (size a.1).value = (size b.1).value) :
    [a, b].Sublist (sorted (·.1) (some column) d rows.zipIdx)
      ↔ ¬ ZerosTurned d (size a.1) (size b.1) := by
  have hranked : column ∈ rankedColumns := by
    cases column <;> cases hcolumn <;> decide
  have := transCmp_compareRows hranked (Prod.fst : Vm × ℕ → Vm) d
  have hsize : ∀ row ∈ [a, b],
      (size row.1).isFinite = true ∧ (size row.1).isBelowZero = false := fun row hrow =>
    size_of_sizeFault? hcolumn
      (hrows _ (List.fst_mem_of_mem_zipIdx (hab.subset hrow)))
  have hcompare : compareRows Prod.fst column d a b
      = oriented d ((size a.1).compareTotal (size b.1)) := by
    rw [compareRows, cellKey_of_size? hcolumn, cellKey_of_size? hcolumn]
    rfl
  rw [(stablySorted_sorted hranked Prod.fst d rows.zipIdx).pair_sublist_iff hab, hcompare, ne_eq,
    compareTotal_eq_gt_iff (hsize a (by simp)) (hsize b (by simp)) hequal]

/-- A machine with a disk of this size, for the runs below. -/
def withDisk (size : Binary64) : Vm := { (default : Vm) with diskGb := size }

/-- Both zeros, the negative first. -/
theorem negative_zero_stays_first :
    let rows := [.negZero, .ofNat 5, .zero].map withDisk
    let a := (withDisk .negZero, 0)
    let b := (withDisk .zero, 2)
    Column.size? .diskSize = some (·.diskGb) ∧ (∀ vm ∈ rows, vm.sizeFault? = none) ∧
      [a, b].Sublist rows.zipIdx ∧ a.1.diskGb.value = b.1.diskGb.value ∧
      [a, b].Sublist (sorted (·.1) (some .diskSize) .asc rows.zipIdx) := by
  intro rows a b
  have hrows : ∀ vm ∈ rows, vm.sizeFault? = none := by decide +kernel
  have hab : [a, b].Sublist rows.zipIdx := by decide +kernel
  have hequal : a.1.diskGb.value = b.1.diskGb.value :=
    (Binary64.value_eq_iff (by decide) (by decide)).2 (by decide)
  have hcolumn : Column.size? .diskSize = some (·.diskGb) := rfl
  refine ⟨hcolumn, hrows, hab, hequal, ?_⟩
  exact (equal_sizes_keep_order_iff hcolumn .asc hrows hab hequal).2 (by decide)

/-- Both zeros, the positive first. -/
theorem zeros_change_places :
    ¬ ∀ (column : Column) (size : Vm → Binary64), column.size? = some size →
      ∀ (d : Direction) (rows : List Vm), (∀ vm ∈ rows, vm.sizeFault? = none) →
      ∀ a b : Vm × ℕ, [a, b].Sublist rows.zipIdx → (size a.1).value = (size b.1).value →
        [a, b].Sublist (sorted (·.1) (some column) d rows.zipIdx) := by
  intro h
  have hkept := h .diskSize (·.diskGb) rfl .asc ([.zero, .negZero].map withDisk)
    (by decide +kernel) (withDisk .zero, 0) (withDisk .negZero, 1) (.refl _)
    ((Binary64.value_eq_iff (by decide) (by decide)).2 (by decide))
  revert hkept
  decide +kernel

end VmAssessment.Report
