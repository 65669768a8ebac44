/-
VmAssessment/Report/View.lean

The rows a query shows.  `orderedRows` says what they are; a `View` keeps
their positions in the inventory and works them out again only when the
batch or the part of the query that matters has changed.
-/
import VmAssessment.Inventory
import VmAssessment.Report.Matching
import VmAssessment.Report.Ordering
import VmAssessment.Report.Window

namespace VmAssessment.Report

/-- The machines a query shows on all its pages, in order. -/
def orderedRows (records : List Vm) (q : Query) : List Vm :=
  sorted id q.column q.direction (matching id q records)

/-- What the shown rows depend on. -/
structure ViewKey where
  version : Nat
  search : String
  statuses : StatusFilter
  column : Option Column
  direction : Direction
deriving DecidableEq, Repr

namespace ViewKey

/-- What the rows of a query on an inventory depend on. -/
def of (inventory : Inventory) (q : Query) : ViewKey :=
  ⟨inventory.version, q.search, q.statuses, q.column, q.direction⟩

/-- Equal up to the order in which statuses were added. -/
def same (a b : ViewKey) : Bool :=
  a.version == b.version && a.search == b.search && a.statuses.sameSet b.statuses
    && a.column == b.column && a.direction == b.direction

end ViewKey

/-- The positions of the shown rows, and what they were worked out for. -/
structure View where
  key : Option ViewKey := none
  order : List Nat := []
  /-- How often the order was worked out. -/
  recomputes : Nat := 0
deriving DecidableEq, Repr, Inhabited

namespace View

/-- The positions of the rows a query shows. -/
def positions (records : List Vm) (q : Query) : List Nat :=
  (sorted (·.1) q.column q.direction (matching (·.1) q records.zipIdx)).map (·.2)

/-- Works the order out if it depends on something that changed. -/
def refresh (view : View) (inventory : Inventory) (q : Query) : View × Bool :=
  let key := ViewKey.of inventory q
  if view.key.any (·.same key) then (view, false)
  else (⟨some key, positions inventory.records q, view.recomputes + 1⟩, true)

/-- How many rows there are on all pages. -/
def size (view : View) : Nat := view.order.length

/-- How many pages there are. -/
def pageCount (view : View) (q : Query) : Nat := Report.pageCount view.size q.pageSize.val

/-- The rows on all pages, as far as their positions exist. -/
def ordered (view : View) (inventory : Inventory) : List Vm :=
  view.order.filterMap (inventory.records[·]?)

/-- The rows on the current page. -/
def pageRows (view : View) (inventory : Inventory) (q : Query) : List Vm :=
  (paginate view.order q.page.val q.pageSize.val).filterMap (inventory.records[·]?)

/-- The ids on the current page. -/
def visibleIds (view : View) (inventory : Inventory) (q : Query) : List VmId :=
  (view.pageRows inventory q).map (·.id)

end View

end VmAssessment.Report
