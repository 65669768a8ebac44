/-
VmAssessment/Report/Matching.lean

Which machines a query asks for: those of an admitted status whose name
contains the search text, letter case aside.
-/
import VmAssessment.Query
import VmAssessment.Text.Lowercase

namespace VmAssessment.Report

/-- Whether `needle` stands somewhere in a list, without a gap. -/
def occursIn (needle : List Char) : List Char → Bool
  | [] => needle.isEmpty
  | c :: cs => needle.isPrefixOf (c :: cs) || occursIn needle cs

/-- What a machine is tested for, with the search text lowered once. -/
structure Criteria where
  needle : List Char
  statuses : StatusFilter

/-- The criteria of a query. -/
def Criteria.of (q : Query) : Criteria := ⟨Text.lower q.search, q.statuses⟩

/-- Whether a machine meets the criteria; an empty search text asks for
nothing. -/
def Criteria.admits (c : Criteria) (vm : Vm) : Bool :=
  c.statuses.admits vm.status
    && (c.needle.isEmpty || occursIn c.needle (Text.lower vm.name))

/-- The rows that show machines the query asks for, in their order. -/
def matching (vmOf : α → Vm) (q : Query) (rows : List α) : List α :=
  let criteria := Criteria.of q
  rows.filter fun row => criteria.admits (vmOf row)

end VmAssessment.Report
