/-
VmAssessment/Proofs/Inventory/Accepting.lean

Which batches an inventory takes over.  The check walks through a batch once,
with the ids it has met, and stops at the first fault; seen as a whole it asks
for two things only: no id twice, and sizes that are sizes
(`fault?_eq_none_iff`).
-/
import Mathlib.Data.List.Nodup
import VmAssessment.Inventory

namespace VmAssessment

/-- Disk and memory are finite and not below zero. -/
def Vm.IsSized (vm : Vm) : Prop :=
  ∀ x ∈ [vm.diskGb, vm.memoryGb], x.isFinite = true ∧ x.isBelowZero = false

instance (vm : Vm) : Decidable vm.IsSized := by
  unfold Vm.IsSized
  infer_instance

theorem Vm.sizeFault?_eq_none_iff {vm : Vm} : vm.sizeFault? = none ↔ vm.IsSized := by
  have hsize : ∀ x, isSize x = true ↔ x.isFinite = true ∧ x.isBelowZero = false := by
    simp [isSize]
  simp only [sizeFault?, IsSized, List.forall_mem_cons, ← hsize]
  cases isSize vm.diskGb <;> cases isSize vm.memoryGb <;> simp

namespace Inventory

/-- Batches without a fault: no id is given twice, and sizes are sizes. -/
structure Acceptable (batch : List Vm) : Prop where
  nodup : (batch.map (·.id)).Nodup
  sized : ∀ vm ∈ batch, vm.IsSized

instance (batch : List Vm) : Decidable (Acceptable batch) :=
  decidable_of_iff ((batch.map (·.id)).Nodup ∧ ∀ vm ∈ batch, vm.IsSized)
    ⟨fun h => ⟨h.1, h.2⟩, fun h => ⟨h.nodup, h.sized⟩⟩

theorem acceptable_nil : Acceptable [] := ⟨List.nodup_nil, by simp⟩

theorem acceptable_cons {vm : Vm} {rest : List Vm} : Acceptable (vm :: rest) ↔
    vm.IsSized ∧ (∀ other ∈ rest, other.id ≠ vm.id) ∧ Acceptable rest := by
  constructor
  · rintro ⟨hnodup, hsized⟩
    rw [List.map_cons, List.nodup_cons] at hnodup
    refine ⟨hsized vm List.mem_cons_self, fun other hother hid => ?_, hnodup.2, fun x hx => ?_⟩
    · exact hnodup.1 (hid ▸ List.mem_map_of_mem hother)
    · exact hsized x (List.mem_cons_of_mem _ hx)
  · rintro ⟨hvm, hother, hrest⟩
    refine ⟨?_, List.forall_mem_cons.2 ⟨hvm, hrest.sized⟩⟩
    rw [List.map_cons, List.nodup_cons]
    refine ⟨fun hid => ?_, hrest.nodup⟩
    obtain ⟨other, hmem, hid⟩ := List.mem_map.1 hid
    exact hother other hmem hid

/-- From a point on, a batch has no fault if and only if what is left is
acceptable and repeats no id met before. -/
theorem faultAfter?_eq_none_iff {seen : List VmId} {batch : List Vm} :
    faultAfter? seen batch = none ↔ Acceptable batch ∧ ∀ vm ∈ batch, vm.id ∉ seen := by
  induction batch generalizing seen with
  | nil => simp [faultAfter?, acceptable_nil]
  | cons vm rest ih =>
      rw [faultAfter?, acceptable_cons]
      by_cases hseen : vm.id ∈ seen
      · simp [hseen]
      · rw [if_neg (by simpa using hseen), ← Vm.sizeFault?_eq_none_iff]
        cases vm.sizeFault? with
        | some fault => simp
        | none =>
            -- the ids met before the rest are those met before, and the machine's own
            simp only [ih, true_and, List.mem_cons, not_or]
            grind

/-- **A batch has no fault if and only if no id is given twice and every size
is finite and not below zero.** -/
theorem fault?_eq_none_iff {batch : List Vm} : fault? batch = none ↔ Acceptable batch := by
  simp [fault?, faultAfter?_eq_none_iff]

/-! ### What becomes of a batch -/

variable {inventory : Inventory} {batch : List Vm} {fault : Fault}

theorem replace_of_fault (h : fault? batch = some fault) :
    inventory.replace batch = ({ inventory with lastError := some fault.message }, some fault) := by
  rw [replace, h]

theorem replace_of_good (h : fault? batch = none) :
    inventory.replace batch = (⟨batch, inventory.version + 1, true, none⟩, none) := by
  rw [replace, h]

end Inventory

end VmAssessment
