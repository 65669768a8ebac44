/-
VmAssessment/Selection.lean

The selected machines, by id.  A selection does not depend on what is
shown: an id stays selected while its row is filtered out or on another
page, and operations on a page touch the ids of that page only.
-/
import VmAssessment.Vm

namespace VmAssessment

/-- The state of the box in the table's header. -/
inductive HeaderState
  | checked | indeterminate | unchecked
deriving DecidableEq, Repr

/-- A set of ids. -/
structure Selection where
  members : List VmId := []
deriving DecidableEq, Repr, Inhabited

namespace Selection

/-- Whether an id is selected. -/
def contains (s : Selection) (id : VmId) : Bool := s.members.contains id

/-- Selects an id, or takes it back. -/
def select (s : Selection) (id : VmId) (selected : Bool) : Selection :=
  if selected then (if s.contains id then s else ⟨id :: s.members⟩)
  else ⟨s.members.filter (· != id)⟩

/-- Changes an id over; the answer is whether it is selected now. -/
def toggle (s : Selection) (id : VmId) : Selection × Bool :=
  let selected := !s.contains id
  (s.select id selected, selected)

/-- Selects all ids of a page, or takes them back. -/
def selectAll (s : Selection) (page : List VmId) (selected : Bool) : Selection :=
  page.foldl (fun s id => s.select id selected) s

/-- How many ids are selected. -/
def size (s : Selection) : Nat := s.members.length

/-- Nothing is selected. -/
def isEmpty (s : Selection) : Bool := s.members.isEmpty

/-- There are ids on the page and all are selected. -/
def hasAll (s : Selection) (page : List VmId) : Bool := !page.isEmpty && page.all s.contains

/-- Some id on the page is selected. -/
def hasAny (s : Selection) (page : List VmId) : Bool := page.any s.contains

/-- The box in the header of a page. -/
def header (s : Selection) (page : List VmId) : HeaderState :=
  if s.hasAll page then .checked else if s.hasAny page then .indeterminate else .unchecked

/-- Selects the whole page, or takes it back if it was fully selected. -/
def togglePage (s : Selection) (page : List VmId) : Selection :=
  s.selectAll page (!s.hasAll page)

/-- The ids in code-point order. -/
def ids (s : Selection) : List VmId := s.members.mergeSort fun a b => decide (a ≤ b)

end Selection

end VmAssessment
