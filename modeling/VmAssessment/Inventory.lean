/-
VmAssessment/Inventory.lean

The inventory: the machines of the last good batch, in discovery order.  A
batch is checked before it replaces the machines; a refused batch or a
failed fetch leaves them as they are and is remembered as an error.
-/
import VmAssessment.Fault
import VmAssessment.Vm

namespace VmAssessment

/-- The figures of an inventory. -/
structure Summary where
  vms : Nat := 0
  clusters : Nat := 0
  migratable : Nat := 0
  withWarnings : Nat := 0
  notMigratable : Nat := 0
deriving DecidableEq, Repr, Inhabited

/-- The figures with one more machine of a status. -/
def Summary.note (s : Summary) : VmStatus → Summary
  | .migratable => { s with migratable := s.migratable + 1 }
  | .migratableWithWarnings => { s with withWarnings := s.withWarnings + 1 }
  | .notMigratable => { s with notMigratable := s.notMigratable + 1 }

/-- The last good batch and what became of the later ones. -/
structure Inventory where
  records : List Vm := []
  /-- How many batches were accepted. -/
  version : Nat := 0
  /-- Some batch was accepted. -/
  isLoaded : Bool := false
  lastError : Option String := none
deriving DecidableEq, Repr, Inhabited

namespace Inventory

/-- The first fault of a batch, given the ids before it.  A repeated id is
reported before a bad size of the same machine. -/
def faultAfter? (seen : List VmId) : List Vm → Option Fault
  | [] => none
  | vm :: rest =>
    if seen.contains vm.id then some (.duplicateId vm.id)
    else
      match vm.sizeFault? with
      | some fault => some (.badRecord vm.id fault.message)
      | none => faultAfter? (vm.id :: seen) rest

/-- The first fault of a batch. -/
def fault? (batch : List Vm) : Option Fault := faultAfter? [] batch

/-- Takes a batch over if it has no fault. -/
def replace (inventory : Inventory) (batch : List Vm) : Inventory × Option Fault :=
  match fault? batch with
  | some fault => ({ inventory with lastError := some fault.message }, some fault)
  | none => (⟨batch, inventory.version + 1, true, none⟩, none)

/-- Remembers that a batch could not be fetched. -/
def recordFailure (inventory : Inventory) (message : String) : Inventory :=
  { inventory with lastError := some message }

/-- The machine with an id. -/
def get? (inventory : Inventory) (id : VmId) : Option Vm :=
  inventory.records.find? (·.id == id)

/-- How many machines there are. -/
def size (inventory : Inventory) : Nat := inventory.records.length

/-- The clusters met so far, with one machine's cluster added if it is new. -/
def noteCluster (seen : List (String × String)) (vm : Vm) : List (String × String) :=
  if seen.contains (vm.datacenter, vm.cluster) then seen else (vm.datacenter, vm.cluster) :: seen

/-- The figures: clusters told apart by name and datacenter, and the machines
counted by their status one after the other. -/
def summary (inventory : Inventory) : Summary :=
  let clusters := inventory.records.foldl noteCluster []
  inventory.records.foldl (fun s vm => s.note vm.status)
    { vms := inventory.size, clusters := clusters.length }

end Inventory

end VmAssessment
