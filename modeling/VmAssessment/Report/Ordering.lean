/-
VmAssessment/Report/Ordering.lean

The order of rows under a sort column.  Sorting is stable: a row moves up
only past rows it strictly precedes, so rows that compare equal keep their
order in either direction.
-/
import VmAssessment.Query
import VmAssessment.Text.Order

namespace VmAssessment.Report

open Number (Binary64)

/-- What a column compares. -/
inductive CellKey
  | text (key : Text.SortKey)
  | number (size : Binary64)
deriving DecidableEq, Repr

/-- Texts by the order of texts, sizes by the total order of numbers.  A
column yields keys of one kind. -/
def CellKey.compare : CellKey → CellKey → Ordering
  | text a, text b => a.compare b
  | number a, number b => a.compareTotal b
  | _, _ => .eq

/-- A machine's key in a column. -/
def cellKey : Column → Vm → CellKey
  | .name, vm => .text (.of vm.name)
  | .status, vm => .text (.of vm.status.wireName)
  | .datacenter, vm => .text (.of vm.datacenter)
  | .cluster, vm => .text (.of vm.cluster)
  | .diskSize, vm => .number vm.diskGb
  | .memorySize, vm => .number vm.memoryGb

/-- The comparison as a direction sees it. -/
def oriented (d : Direction) (o : Ordering) : Ordering :=
  match d with
  | .asc => o
  | .desc => o.swap

/-- Puts a row behind the last row of a reversed list that it does not
strictly precede. -/
def insertBehind (before : α → α → Bool) (x : α) : List α → List α
  | [] => [x]
  | y :: ys => if before x y then y :: insertBehind before x ys else x :: y :: ys

/-- Stable sort by insertion from the end. -/
def stableSort (before : α → α → Bool) (xs : List α) : List α :=
  (xs.foldl (fun sorted x => insertBehind before x sorted) []).reverse

/-- The rows in the order of a column; in their own order without one.
Keys are computed once for each row. -/
def sorted (vmOf : α → Vm) (column : Option Column) (d : Direction) (rows : List α) : List α :=
  match column with
  | none => rows
  | some column =>
    let keyed := rows.map fun row => (cellKey column (vmOf row), row)
    (stableSort (fun a b => oriented d (a.1.compare b.1) == .lt) keyed).map (·.2)

end VmAssessment.Report
