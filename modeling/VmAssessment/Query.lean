/-
VmAssessment/Query.lean

What the user asks of the inventory: a search text, a set of statuses, a
column to sort by and a page.  Editing the search, the statuses or the page
size returns to the first page.
-/
import VmAssessment.Number.Positive
import VmAssessment.Vm

namespace VmAssessment

open Number (Positive)

/-- The columns a table can be sorted by. -/
inductive Column
  | name | status | datacenter | cluster | diskSize | memorySize
deriving DecidableEq, Repr, Inhabited

namespace Column

/-- Every column, in the order menus show them. -/
def all : List Column := [.name, .status, .datacenter, .cluster, .diskSize, .memorySize]

/-- The column's heading. -/
def label : Column → String
  | .name => "Name"
  | .status => "Status"
  | .datacenter => "Data center"
  | .cluster => "Cluster"
  | .diskSize => "Disk size"
  | .memorySize => "Memory size"

end Column

/-- Which way a column is sorted. -/
inductive Direction
  | asc | desc
deriving DecidableEq, Repr, Inhabited

namespace Direction

/-- The other way. -/
def flipped : Direction → Direction
  | .asc => .desc
  | .desc => .asc

/-- The direction in words. -/
def label : Direction → String
  | .asc => "asc"
  | .desc => "desc"

/-- The direction as an arrow. -/
def arrow : Direction → String
  | .asc => "▲"
  | .desc => "▼"

end Direction

/-- A set of statuses in the order they were added; the empty set asks for
nothing and admits every status. -/
structure StatusFilter where
  statuses : List VmStatus := []
  nodup : statuses.Nodup := by simp
deriving DecidableEq, Repr

namespace StatusFilter

instance : Inhabited StatusFilter := ⟨{}⟩

/-- Whether a status was added. -/
def contains (f : StatusFilter) (s : VmStatus) : Bool := f.statuses.contains s

/-- Whether a machine of this status passes. -/
def admits (f : StatusFilter) (s : VmStatus) : Bool := f.statuses.isEmpty || f.contains s

/-- The set without a status. -/
def erase (f : StatusFilter) (s : VmStatus) : StatusFilter :=
  ⟨f.statuses.erase s, f.nodup.sublist List.erase_sublist⟩

/-- The set with a status, added last if it is new. -/
def insert (f : StatusFilter) (s : VmStatus) : StatusFilter :=
  if h : s ∈ f.statuses then f
  else ⟨f.statuses ++ [s], by
    rw [List.nodup_append]
    exact ⟨f.nodup, by simp, by simp; intro a ha e; exact h (e ▸ ha)⟩⟩

/-- Adds a status, or removes it if it is there. -/
def toggle (f : StatusFilter) (s : VmStatus) : StatusFilter :=
  if f.contains s then f.erase s else f.insert s

/-- The statuses of a list, repetitions dropped. -/
def ofList (l : List VmStatus) : StatusFilter := l.foldl insert {}

/-- The same statuses, in whatever order. -/
def sameSet (f g : StatusFilter) : Bool :=
  f.statuses.length == g.statuses.length && f.statuses.all g.contains

end StatusFilter

/-- What the user asks of the inventory. -/
structure Query where
  search : String := ""
  statuses : StatusFilter := {}
  column : Option Column := none
  direction : Direction := .asc
  page : Positive := .one
  pageSize : Positive
deriving DecidableEq, Repr

namespace Query

/-- Rows per page where nothing else is asked for. -/
def defaultPageSize : Positive := ⟨20, by decide⟩

/-- Everything, unsorted, from the first page. -/
def withPageSize (pageSize : Positive) : Query := { pageSize }

instance : Inhabited Query := ⟨withPageSize defaultPageSize⟩

/-- Back to the first page. -/
def resetPage (q : Query) : Query := { q with page := .one }

/-- Asks for names that contain a text. -/
def setSearch (q : Query) (text : String) : Query := { q with search := text }.resetPage

/-- Adds a character to the search text. -/
def pushSearch (q : Query) (c : Char) : Query := q.setSearch (q.search.push c)

/-- Drops the last character of the search text, if there is one. -/
def popSearch (q : Query) : Query :=
  if q.search.isEmpty then q else q.setSearch (String.ofList q.search.toList.dropLast)

/-- Adds a status, or removes it if it is asked for. -/
def toggleStatus (q : Query) (s : VmStatus) : Query :=
  { q with statuses := q.statuses.toggle s }.resetPage

/-- Removes a status; false if it was not asked for. -/
def removeStatus (q : Query) (s : VmStatus) : Query × Bool :=
  if q.statuses.contains s then ({ q with statuses := q.statuses.erase s }.resetPage, true)
  else (q, false)

/-- Asks for every status. -/
def clearStatuses (q : Query) : Query := { q with statuses := {} }.resetPage

/-- Sorts by a column, or not at all. -/
def setSort (q : Query) (column : Option Column) (direction : Direction) : Query :=
  { q with column, direction }

/-- Turns the order round if the column is sorted by already, else sorts by
it in ascending order. -/
def toggleSort (q : Query) (column : Column) : Query :=
  if q.column = some column then { q with direction := q.direction.flipped }
  else { q with column := some column, direction := .asc }

/-- Goes to a page; zero stands for the first. -/
def setPage (q : Query) (page : Nat) : Query := { q with page := .ofNat page }

/-- Asks for pages of another size. -/
def setPageSize (q : Query) (pageSize : Positive) : Query := { q with pageSize }.resetPage

end Query

end VmAssessment
