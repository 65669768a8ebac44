/-
VmAssessment/Proofs/Inventory/Keeping.lean

What an inventory keeps.  A batch is taken over as a whole or not at all, and
what stands in the way is the first machine with something wrong
(`fault?_eq_some_iff`): everything before it would make a good batch, and it
repeats an id or, if it does not, a size of its own is none.

Whatever batches come and whatever fetches fail, an inventory therefore holds
machines with ids of their own, and as many batches were taken over as its
version says (`kept_ofArrivals`).  An id that is looked up brings the one machine
that has it (`get?_eq_some_iff`); this is what selecting machines by their ids
rests on.
-/
import Mathlib.Data.List.Induction
import VmAssessment.Proofs.Inventory.Accepting
import VmAssessment.Proofs.Number.Values

namespace VmAssessment

theorem Vm.isSize_of_nonNegative {x : Number.Binary64} (h : x.NonNegative) : isSize x = true := by
  simp [isSize, Number.Binary64.nonNegative_iff.1 h]

theorem Vm.isSize_of_not_nonNegative {x : Number.Binary64} (h : ¬ x.NonNegative) :
    isSize x = false := by
  simpa [isSize, Number.Binary64.nonNegative_iff] using h

theorem Vm.isSized_iff {vm : Vm} :
    vm.IsSized ↔ vm.diskGb.NonNegative ∧ vm.memoryGb.NonNegative := by
  simp [IsSized, Number.Binary64.nonNegative_iff]

namespace Inventory

variable {inventory : Inventory} {batch before after : List Vm} {met met' : List VmId} {vm : Vm}
  {fault : Fault}

/-! ### The first fault -/

/-- What is wrong with a machine behind machines of these ids: it repeats one
of the ids or, if it does not, its disk or else its memory is no size. -/
inductive FaultBehind (met : List VmId) (vm : Vm) : Fault → Prop
  | repeated : vm.id ∈ met → FaultBehind met vm (.duplicateId vm.id)
  | disk : vm.id ∉ met → ¬ vm.diskGb.NonNegative →
      FaultBehind met vm (.badRecord vm.id SizeFault.disk.message)
  | memory : vm.id ∉ met → vm.diskGb.NonNegative → ¬ vm.memoryGb.NonNegative →
      FaultBehind met vm (.badRecord vm.id SizeFault.memory.message)

/-- What is wrong with the first machine that cannot stand behind those before
it. -/
def FirstFault (batch : List Vm) (fault : Fault) : Prop :=
  ∃ before vm after, batch = before ++ vm :: after ∧ Acceptable before ∧
    FaultBehind (before.map (·.id)) vm fault

/-- The order in which ids were met is of no matter. -/
theorem FaultBehind.of_same (h : FaultBehind met vm fault) (hmet : ∀ id, id ∈ met ↔ id ∈ met') :
    FaultBehind met' vm fault := by
  cases h with
  | repeated hid => exact .repeated ((hmet _).1 hid)
  | disk hid hdisk => exact .disk (mt (hmet _).2 hid) hdisk
  | memory hid hdisk hmemory => exact .memory (mt (hmet _).2 hid) hdisk hmemory

/-- A machine has something wrong with it, or it can stand where it does. -/
theorem faultBehind_or_good (met : List VmId) (vm : Vm) :
    (∃ fault, FaultBehind met vm fault) ∨ (vm.id ∉ met ∧ vm.IsSized) := by
  by_cases hid : vm.id ∈ met
  · exact .inl ⟨_, .repeated hid⟩
  by_cases hdisk : vm.diskGb.NonNegative
  · by_cases hmemory : vm.memoryGb.NonNegative
    · exact .inr ⟨hid, Vm.isSized_iff.2 ⟨hdisk, hmemory⟩⟩
    · exact .inl ⟨_, .memory hid hdisk hmemory⟩
  · exact .inl ⟨_, .disk hid hdisk⟩

/-- The check stops at a machine with something wrong. -/
theorem faultAfter?_of_faultBehind (h : FaultBehind met vm fault) (after : List Vm) :
    faultAfter? met (vm :: after) = some fault := by
  cases h with
  | repeated hid => simp [faultAfter?, hid]
  | disk hid hdisk =>
      have hsize := Vm.isSize_of_not_nonNegative hdisk
      simp [faultAfter?, hid, Vm.sizeFault?, hsize]
  | memory hid hdisk hmemory =>
      have hsize := Vm.isSize_of_nonNegative hdisk
      have hsize' := Vm.isSize_of_not_nonNegative hmemory
      simp [faultAfter?, hid, Vm.sizeFault?, hsize, hsize']

/-- It goes on behind one that can stand where it does. -/
theorem faultAfter?_of_good (hid : vm.id ∉ met) (hsized : vm.IsSized) (after : List Vm) :
    faultAfter? met (vm :: after) = faultAfter? (vm.id :: met) after := by
  simp [faultAfter?, hid, Vm.sizeFault?_eq_none_iff.2 hsized]

/-- What the check finds, it finds at some machine, with no fault before. -/
theorem exists_faultBehind (h : faultAfter? met batch = some fault) :
    ∃ before vm after, batch = before ++ vm :: after ∧ faultAfter? met before = none ∧
      FaultBehind ((before.map (·.id)).reverse ++ met) vm fault := by
  induction batch generalizing met with
  | nil => cases h
  | cons vm rest ih =>
      rcases faultBehind_or_good met vm with ⟨fault', hfault⟩ | ⟨hid, hsized⟩
      · rw [faultAfter?_of_faultBehind hfault, Option.some.injEq] at h
        exact ⟨[], vm, rest, rfl, rfl, h ▸ hfault⟩
      · rw [faultAfter?_of_good hid hsized] at h
        obtain ⟨before, vm', after, hrest, hnone, hfault⟩ := ih h
        refine ⟨vm :: before, vm', after, ?_, ?_, ?_⟩
        · rw [hrest, List.cons_append]
        · rw [faultAfter?_of_good hid hsized, hnone]
        · simpa using hfault

/-- Behind machines without a fault the check goes on with their ids met. -/
theorem faultAfter?_append (h : faultAfter? met before = none) (after : List Vm) :
    faultAfter? met (before ++ after)
      = faultAfter? ((before.map (·.id)).reverse ++ met) after := by
  induction before generalizing met with
  | nil => rfl
  | cons vm rest ih =>
      rcases faultBehind_or_good met vm with ⟨fault', hfault⟩ | ⟨hid, hsized⟩
      · rw [faultAfter?_of_faultBehind hfault] at h
        cases h
      · rw [faultAfter?_of_good hid hsized] at h
        rw [List.cons_append, faultAfter?_of_good hid hsized, ih h]
        simp

/-- **A batch is refused for its first fault.** -/
theorem fault?_eq_some_iff : fault? batch = some fault ↔ FirstFault batch fault := by
  have hsame : ∀ (before : List Vm) (id : VmId),
      id ∈ (before.map (·.id)).reverse ++ [] ↔ id ∈ before.map (·.id) := by simp
  constructor
  · intro h
    obtain ⟨before, vm, after, hbatch, hnone, hfault⟩ := exists_faultBehind h
    exact ⟨before, vm, after, hbatch, fault?_eq_none_iff.1 hnone, hfault.of_same (hsame before)⟩
  · rintro ⟨before, vm, after, rfl, hgood, hfault⟩
    rw [fault?, faultAfter?_append (fault?_eq_none_iff.2 hgood)]
    exact faultAfter?_of_faultBehind (hfault.of_same fun id => (hsame before id).symm) after

/-- A batch is taken over, or it is refused and its first fault remembered. -/
theorem replace_cases (inventory : Inventory) (batch : List Vm) :
    (Acceptable batch ∧
        inventory.replace batch = (⟨batch, inventory.version + 1, true, none⟩, none)) ∨
      (¬ Acceptable batch ∧ ∃ fault, FirstFault batch fault ∧
        inventory.replace batch
          = ({ inventory with lastError := some fault.message }, some fault)) := by
  cases hfault : fault? batch with
  | none => exact .inl ⟨fault?_eq_none_iff.1 hfault, replace_of_good hfault⟩
  | some fault =>
      refine .inr ⟨?_, fault, fault?_eq_some_iff.1 hfault, replace_of_fault hfault⟩
      rw [← fault?_eq_none_iff, hfault]
      exact Option.some_ne_none fault

/-! ### Looking up an id -/

/-- Where no id is given twice, looking one up brings the one machine that has
it. -/
theorem get?_eq_some_iff (h : (inventory.records.map (·.id)).Nodup) {id : VmId} :
    inventory.get? id = some vm ↔ vm ∈ inventory.records ∧ vm.id = id := by
  constructor
  · intro hget
    exact ⟨List.mem_of_find?_eq_some hget, eq_of_beq (List.find?_some hget :)⟩
  · rintro ⟨hvm, rfl⟩
    have hsome : (inventory.get? vm.id).isSome = true :=
      List.find?_isSome.2 ⟨vm, hvm, beq_self_eq_true _⟩
    obtain ⟨other, hother⟩ := Option.isSome_iff_exists.1 hsome
    have hid : other.id = vm.id := eq_of_beq (List.find?_some hother :)
    rw [hother, List.inj_on_of_nodup_map h (List.mem_of_find?_eq_some hother) hvm hid]

/-! ### Whatever comes -/

/-- What can come to an inventory: a batch, or the failure to fetch one. -/
inductive Arrival
  | batch (records : List Vm)
  | failure (message : String)

/-- Whether it is a batch that is taken over. -/
def Arrival.isAccepted : Arrival → Bool
  | .batch records => decide (Acceptable records)
  | .failure _ => false

/-- What it leaves of the inventory. -/
def arrive (inventory : Inventory) : Arrival → Inventory
  | .batch records => (inventory.replace records).1
  | .failure message => inventory.recordFailure message

/-- An inventory after all that came, from the start. -/
def ofArrivals (arrivals : List Arrival) : Inventory := arrivals.foldl arrive {}

/-- The machines would be taken over again, and the version counts the batches
taken over. -/
structure Kept (inventory : Inventory) (accepted : Nat) : Prop where
  acceptable : Acceptable inventory.records
  version : inventory.version = accepted

theorem Kept.arrive {accepted : Nat} (h : inventory.Kept accepted) (a : Arrival) :
    (inventory.arrive a).Kept (accepted + if a.isAccepted then 1 else 0) := by
  cases a with
  | failure message => exact ⟨h.acceptable, h.version⟩
  | batch records =>
      simp only [Inventory.arrive, Arrival.isAccepted]
      rcases inventory.replace_cases records with ⟨hgood, hr⟩ | ⟨hbad, fault, -, hr⟩ <;> rw [hr]
      · exact ⟨hgood, by simp [hgood, h.version]⟩
      · exact ⟨h.acceptable, by simp [hbad, h.version]⟩

/-- **Whatever comes, an inventory keeps to it.** -/
theorem kept_ofArrivals (arrivals : List Arrival) :
    (ofArrivals arrivals).Kept (arrivals.countP (·.isAccepted)) := by
  induction arrivals using List.reverseRecOn with
  | nil => exact ⟨acceptable_nil, rfl⟩
  | append_singleton arrivals a ih =>
      have hlast : ofArrivals (arrivals ++ [a]) = (ofArrivals arrivals).arrive a := by
        simp [ofArrivals]
      rw [hlast, List.countP_append, List.countP_singleton]
      exact ih.arrive a

/-- **A batch is taken over as it is, or for its first fault not at all.**  It is
taken over if and only if no id is given twice and all sizes are finite and not
below zero; then its machines are those of the inventory, in its order, the
version is one higher and no failure is remembered.  If not, the fault is
remembered and all else stays.  So after any batches and failures no two
machines have one id, looking up an id brings the one that has it, and the
version counts the batches that were taken over. -/
theorem replace_installs_or_keeps (inventory : Inventory) (batch : List Vm) :
    let r := inventory.replace batch
    (r.2 = none ↔ (batch.map (·.id)).Nodup ∧
      ∀ vm ∈ batch, vm.diskGb.NonNegative ∧ vm.memoryGb.NonNegative) ∧
    (r = (⟨batch, inventory.version + 1, true, none⟩, none) ∨
      ∃ fault, FirstFault batch fault ∧
        r = ({ inventory with lastError := some fault.message }, some fault)) ∧
    ∀ arrivals : List Arrival,
      let kept := ofArrivals arrivals
      (kept.records.map (·.id)).Nodup ∧
        (∀ id vm, kept.get? id = some vm ↔ vm ∈ kept.records ∧ vm.id = id) ∧
        kept.version = arrivals.countP (·.isAccepted) := by
  intro r
  have hgood : Acceptable batch ↔ (batch.map (·.id)).Nodup ∧
      ∀ vm ∈ batch, vm.diskGb.NonNegative ∧ vm.memoryGb.NonNegative := by
    simp only [← Vm.isSized_iff]
    exact ⟨fun h => ⟨h.nodup, h.sized⟩, fun h => ⟨h.1, h.2⟩⟩
  rw [← hgood]
  refine ⟨?_, ?_, ?_⟩
  · rcases inventory.replace_cases batch with ⟨h, hr⟩ | ⟨h, fault, -, hr⟩
    · exact iff_of_true (congrArg Prod.snd hr) h
    · refine iff_of_false ?_ h
      rw [show r.2 = some fault from congrArg Prod.snd hr]
      exact Option.some_ne_none fault
  · rcases inventory.replace_cases batch with ⟨-, hr⟩ | ⟨-, hr⟩
    · exact .inl hr
    · exact .inr hr
  · intro arrivals kept
    have hkept := kept_ofArrivals arrivals
    exact ⟨hkept.acceptable.nodup, fun id vm => get?_eq_some_iff hkept.acceptable.nodup,
      hkept.version⟩

/-- A machine that repeats an id, and whose disk is not even a number, is
refused for the id. -/
theorem repeated_id_told_first :
    let vm : Vm := { (default : Vm) with id := "vm-1" }
    let batch := [vm, { vm with diskGb := ⟨0x7FF8000000000000⟩ }]
    (({} : Inventory).replace batch).2 = some (.duplicateId "vm-1") ∧
      (({} : Inventory).replace batch).1.lastError
        = some "Inventory contains duplicate VM id vm-1" ∧
      FirstFault batch (.duplicateId "vm-1") := by
  intro vm batch
  have hfault : (({} : Inventory).replace batch).2 = some (.duplicateId "vm-1") := by decide
  obtain ⟨-, hr | ⟨fault, hfirst, hr⟩, -⟩ := replace_installs_or_keeps {} batch
  · rw [hr] at hfault
    cases hfault
  · rw [hr, Option.some.injEq] at hfault
    subst hfault
    exact ⟨congrArg Prod.snd hr, by rw [hr]; rfl, hfirst⟩

end Inventory

end VmAssessment
