/-
VmAssessment/Vm.lean

A discovered virtual machine with the attributes that matter for migrating
it, as the discovery agent reports them.  The status is the agent's verdict
and is not derived from the issues.
-/
import VmAssessment.Number.Binary64

namespace VmAssessment

open Number (Binary64)

/-- What names a machine within an inventory. -/
abbrev VmId := String

/-- The agent's verdict on migrating a machine. -/
inductive VmStatus
  | migratable
  | migratableWithWarnings
  | notMigratable
deriving DecidableEq, Repr, Inhabited

namespace VmStatus

/-- Every status, in the order menus show them. -/
def all : List VmStatus := [.migratable, .migratableWithWarnings, .notMigratable]

/-- The name on the wire. -/
def wireName : VmStatus → String
  | .migratable => "migratable"
  | .migratableWithWarnings => "migratable-with-warnings"
  | .notMigratable => "not-migratable"

/-- The name on the screen. -/
def label : VmStatus → String
  | .migratable => "Migratable"
  | .migratableWithWarnings => "With warnings"
  | .notMigratable => "Not migratable"

/-- The status of a wire name. -/
def ofWireName? (s : String) : Option VmStatus := all.find? (·.wireName == s)

/-- The status shown under a label. -/
def ofLabel? (s : String) : Option VmStatus := all.find? (·.label == s)

end VmStatus

/-- How serious an issue is. -/
inductive IssueKind
  | warning
  | error
deriving DecidableEq, Repr, Inhabited

namespace IssueKind

/-- The name on the wire. -/
def wireName : IssueKind → String
  | .warning => "warning"
  | .error => "error"

/-- The kind of a wire name. -/
def ofWireName? (s : String) : Option IssueKind := [warning, error].find? (·.wireName == s)

end IssueKind

/-- Something that stands in the way of migrating a machine. -/
structure Issue where
  kind : IssueKind
  message : String
deriving DecidableEq, Repr, Inhabited

/-- A machine as discovered. -/
structure Vm where
  id : VmId
  name : String
  status : VmStatus
  datacenter : String
  cluster : String
  diskGb : Binary64
  memoryGb : Binary64
  cpuCount : UInt32
  os : Option String
  powerState : String
  issues : List Issue
deriving DecidableEq, Repr, Inhabited

/-- Why a size is refused. -/
inductive SizeFault
  | disk
  | memory
deriving DecidableEq, Repr

/-- The refusal in words. -/
def SizeFault.message : SizeFault → String
  | .disk => "diskSizeGB must be a non-negative number"
  | .memory => "memorySizeGB must be a non-negative number"

namespace Vm

/-- Some issue is an error. -/
def hasErrors (vm : Vm) : Bool := vm.issues.any (·.kind == .error)

/-- Some issue is a warning. -/
def hasWarnings (vm : Vm) : Bool := vm.issues.any (·.kind == .warning)

/-- The issues on one line; a dash stands for none. -/
def issueSummary (vm : Vm) : String :=
  if vm.issues.isEmpty then "—" else ", ".intercalate (vm.issues.map (·.message))

/-- A size must be finite and not below zero. -/
def isSize (x : Binary64) : Bool := x.isFinite && !x.isBelowZero

/-- The first fault of the sizes, the disk looked at first. -/
def sizeFault? (vm : Vm) : Option SizeFault :=
  if !isSize vm.diskGb then some .disk
  else if !isSize vm.memoryGb then some .memory
  else none

end Vm

end VmAssessment
