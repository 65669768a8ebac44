/-
VmAssessment/Query/Chips.lean

The status filter as the toolbar shows it: one chip for each status asked
for, and a menu of all statuses.  Both are read off the query, so there is
no second copy of the filter.
-/
import VmAssessment.Query

namespace VmAssessment

/-- A part of the filter that can be removed on its own. -/
structure Chip where
  category : String
  status : VmStatus
  label : String
deriving DecidableEq, Repr

/-- A line of the status menu. -/
structure StatusChoice where
  status : VmStatus
  label : String
  selected : Bool
deriving DecidableEq, Repr

namespace Query

/-- One chip for each status, in the order they were added. -/
def chips (q : Query) : List Chip := q.statuses.statuses.map fun s => ⟨"Status", s, s.label⟩

/-- All statuses, those asked for marked. -/
def statusChoices (q : Query) : List StatusChoice :=
  VmStatus.all.map fun s => ⟨s, s.label, q.statuses.contains s⟩

/-- Removes the chip with a label; false if there is none. -/
def deleteChip (q : Query) (label : String) : Query × Bool :=
  match VmStatus.ofLabel? label with
  | some s => q.removeStatus s
  | none => (q, false)

/-- Removes all chips. -/
def deleteChips (q : Query) : Query := q.clearStatuses

end Query

end VmAssessment
