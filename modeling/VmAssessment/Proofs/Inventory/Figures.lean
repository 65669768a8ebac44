/-
VmAssessment/Proofs/Inventory/Figures.lean

The figures above the table.  They are counted in a walk of their own through
the machines, and the table is filtered and sorted; still each figure for a
status is the number of rows under the filter of that status alone, whatever
the rows are sorted by.

Both come down to how many machines have the status: the walk counts them one
by one (`Summary.of_foldl_note`), and the rows under the filter are these
machines in some order (`length_orderedRows_one`).  Clusters are kept as they
are met, each once, so they are as many as there are different ones
(`length_foldl_noteCluster`).
-/
import Mathlib.Data.Finset.Card
import VmAssessment.Proofs.Report.Caching

namespace VmAssessment

namespace Summary

/-- The figure for a status. -/
def of (s : Summary) : VmStatus → Nat
  | .migratable => s.migratable
  | .migratableWithWarnings => s.withWarnings
  | .notMigratable => s.notMigratable

/-- The figures for the statuses together. -/
def counted (s : Summary) : Nat := s.migratable + s.withWarnings + s.notMigratable

variable (s : Summary) (status : VmStatus)

/-! ### One more machine -/

@[simp] theorem vms_note : (s.note status).vms = s.vms := by cases status <;> rfl

@[simp] theorem clusters_note : (s.note status).clusters = s.clusters := by cases status <;> rfl

theorem of_note (other : VmStatus) :
    (s.note other).of status = s.of status + if other == status then 1 else 0 := by
  cases other <;> cases status <;> rfl

theorem counted_note : (s.note status).counted = s.counted + 1 := by
  cases status <;> simp only [note, counted] <;> omega

/-! ### All machines -/

/-- The walk counts the machines of a status. -/
theorem of_foldl_note (records : List Vm) :
    (records.foldl (fun s vm => s.note vm.status) s).of status
      = s.of status + records.countP (·.status == status) := by
  induction records generalizing s with
  | nil => rfl
  | cons vm rest ih =>
      rw [List.foldl_cons, ih, of_note, List.countP_cons]
      omega

/-- It counts every machine once. -/
theorem counted_foldl_note (records : List Vm) :
    (records.foldl (fun s vm => s.note vm.status) s).counted = s.counted + records.length := by
  induction records generalizing s with
  | nil => rfl
  | cons vm rest ih =>
      rw [List.foldl_cons, ih, counted_note, List.length_cons]
      omega

/-- What was there before the walk stays. -/
theorem foldl_note_keeps (records : List Vm) :
    let r := records.foldl (fun s vm => s.note vm.status) s
    r.vms = s.vms ∧ r.clusters = s.clusters := by
  induction records generalizing s with
  | nil => exact ⟨rfl, rfl⟩
  | cons vm rest ih => simpa using ih (s.note vm.status)

end Summary

namespace Report

variable (records : List Vm) {q : Query}

/-- Without a search text rows are asked for by their status alone. -/
theorem length_orderedRows_unsearched (hsearch : q.search = "") :
    (orderedRows records q).length = records.countP fun vm => q.statuses.admits vm.status := by
  have hneedle : (Criteria.of q).needle = [] := by
    simp [Criteria.of, hsearch, Text.lower, Text.lowerFrom]
  have hadmits : ∀ vm, (Criteria.of q).admits vm = q.statuses.admits vm.status := by
    intro vm
    rw [Criteria.admits, hneedle, List.isEmpty_nil, Bool.true_or, Bool.and_true]
    rfl
  rw [length_orderedRows, List.countP_eq_length_filter, matching]
  simp only [id_eq, hadmits]

theorem length_orderedRows_one (hsearch : q.search = "") {status : VmStatus}
    (hstatuses : q.statuses.statuses = [status]) :
    (orderedRows records q).length = records.countP (·.status == status) := by
  have hadmits : ∀ vm : Vm, q.statuses.admits vm.status = (vm.status == status) := fun vm => by
    simp only [StatusFilter.admits, StatusFilter.contains, hstatuses, List.isEmpty_cons,
      Bool.false_or, List.contains_cons, List.contains_nil, Bool.or_false]
  rw [length_orderedRows_unsearched records hsearch]
  simp only [hadmits]

theorem length_orderedRows_all (hsearch : q.search = "") (hstatuses : q.statuses.statuses = []) :
    (orderedRows records q).length = records.length := by
  rw [length_orderedRows_unsearched records hsearch]
  simp [StatusFilter.admits, hstatuses]

end Report

namespace Inventory

open Report

/-! ### Clusters -/

/-- The cluster of a machine, told apart from those of other datacenters. -/
def clusterOf (vm : Vm) : String × String := (vm.datacenter, vm.cluster)

variable {seen : List (String × String)}

theorem nodup_noteCluster (h : seen.Nodup) (vm : Vm) : (noteCluster seen vm).Nodup := by
  unfold noteCluster
  split
  · exact h
  · rename_i hnew
    exact List.nodup_cons.2 ⟨by simpa using hnew, h⟩

theorem toFinset_noteCluster (seen : List (String × String)) (vm : Vm) :
    (noteCluster seen vm).toFinset = insert (clusterOf vm) seen.toFinset := by
  unfold noteCluster clusterOf
  split
  · rename_i hseen
    exact (Finset.insert_eq_of_mem (by simpa using hseen)).symm
  · exact List.toFinset_cons

/-- The clusters that are met are those of the machines, each once. -/
theorem length_foldl_noteCluster (records : List Vm) (h : seen.Nodup) :
    (records.foldl noteCluster seen).length
      = (seen.toFinset ∪ (records.map clusterOf).toFinset).card := by
  induction records generalizing seen with
  | nil => simp [List.toFinset_card_of_nodup h]
  | cons vm rest ih =>
      rw [List.foldl_cons, ih (nodup_noteCluster h vm), toFinset_noteCluster, List.map_cons,
        List.toFinset_cons, Finset.insert_union, Finset.union_insert]

/-! ### Figures and rows -/

variable (inventory : Inventory)

theorem of_summary (status : VmStatus) :
    inventory.summary.of status = inventory.records.countP (·.status == status) := by
  rw [summary, Summary.of_foldl_note]
  cases status <;> exact Nat.zero_add _

theorem counted_summary : inventory.summary.counted = inventory.size := by
  rw [summary, Summary.counted_foldl_note]
  exact Nat.zero_add _

theorem vms_summary : inventory.summary.vms = inventory.size :=
  (Summary.foldl_note_keeps _ _).1

theorem clusters_summary :
    inventory.summary.clusters = (inventory.records.map clusterOf).toFinset.card := by
  have hmet : inventory.summary.clusters = (inventory.records.foldl noteCluster []).length :=
    (Summary.foldl_note_keeps _ _).2
  rw [hmet, length_foldl_noteCluster _ List.nodup_nil, List.toFinset_nil, Finset.empty_union]

/-- **The figures agree with the table.**  Without a search text, and whatever
the rows are sorted by: the figure for each status is the number of rows under
the filter of that status alone; these three add up to the number of machines,
which is the number of rows without a filter; and clusters are counted by name
and datacenter. -/
theorem figures_match_rows (q : Query) :
    let s := inventory.summary
    let rows := fun statuses =>
      orderedRows inventory.records { q with search := "", statuses := statuses }
    s.migratable = (rows { statuses := [.migratable] }).length ∧
      s.withWarnings = (rows { statuses := [.migratableWithWarnings] }).length ∧
      s.notMigratable = (rows { statuses := [.notMigratable] }).length ∧
      s.migratable + s.withWarnings + s.notMigratable = s.vms ∧
      s.vms = (rows {}).length ∧
      s.clusters = (inventory.records.map fun vm => (vm.datacenter, vm.cluster)).toFinset.card := by
  intro s rows
  have hone : ∀ status, s.of status = (rows { statuses := [status] }).length := fun status => by
    rw [of_summary, length_orderedRows_one _ rfl rfl]
  have hall : (rows {}).length = inventory.size := length_orderedRows_all _ rfl rfl
  refine ⟨hone .migratable, hone .migratableWithWarnings, hone .notMigratable, ?_, ?_, ?_⟩
  · exact inventory.counted_summary.trans inventory.vms_summary.symm
  · exact inventory.vms_summary.trans hall.symm
  · exact inventory.clusters_summary

end Inventory

end VmAssessment
