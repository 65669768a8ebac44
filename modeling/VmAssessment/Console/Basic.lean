/-
VmAssessment/Console/Basic.lean

The whole state of the console: the inventory, what is asked of it, the
session with the agent, the login form and what the screen shows beside
them.  The rows on the screen are kept by a `Report.View`; after a change
`refresh` brings it up to date and puts page and cursor back in range.
-/
import VmAssessment.Agent
import VmAssessment.Display
import VmAssessment.Export
import VmAssessment.Login
import VmAssessment.Query.Chips
import VmAssessment.Report.View
import VmAssessment.Session.Transition
import VmAssessment.Settings.Basic

namespace VmAssessment

open Number (Positive)

/-- The two screens. -/
inductive Screen
  /-- The login form, and the progress of a collection. -/
  | login
  /-- The report on a collected inventory. -/
  | report
deriving DecidableEq, Repr

/-- The state of the console. -/
structure Console where
  table : TableSettings := {}
  inventory : Inventory := {}
  query : Query
  selection : Selection := {}
  session : Session := {}
  agent : Agent := {}
  login : LoginForm := {}
  display : Display := {}
  view : Report.View := {}
deriving DecidableEq, Repr

namespace Console

/-- The console at its start.  A page size of zero in the settings gives way
to the default. -/
def start (table : TableSettings) : Console :=
  let pageSize := (Positive.ofNat? table.pageSize.toNat).getD Query.defaultPageSize
  { table, query := .withPageSize pageSize }

instance : Inhabited Console := ⟨start {}⟩

/-- The report is shown while there is one on a collected session. -/
def screen (c : Console) : Screen :=
  if c.session.phase = .collected ∧ c.inventory.isLoaded then .report else .login

/-! ### The shown rows -/

/-- The machines on the current page. -/
def pageRows (c : Console) : List Vm := c.view.pageRows c.inventory c.query

/-- The ids on the current page. -/
def visibleIds (c : Console) : List VmId := c.view.visibleIds c.inventory c.query

/-- How many pages there are. -/
def pageCount (c : Console) : Nat := c.view.pageCount c.query

/-- Keeps the page among those there are. -/
def clampPage (c : Console) : Console :=
  if c.pageCount < c.query.page.val then { c with query := c.query.setPage c.pageCount } else c

/-- Keeps the cursor on the page. -/
def clampCursor (c : Console) : Console :=
  { c with display := c.display.clampCursor c.pageRows.length }

/-- Brings the shown rows up to date, then page and cursor into range;
whether the rows had to be worked out again. -/
def refresh (c : Console) : Console × Bool :=
  let (view, recomputed) := c.view.refresh c.inventory c.query
  ({ c with view }.clampPage.clampCursor, recomputed)

/-- Puts the cursor on the first row. -/
def homeCursor (c : Console) : Console := { c with display.cursor := 0 }

/-- Goes to the nearest page there is; the cursor stays if that is the
current one. -/
def goToPage (c : Console) (page : Nat) : Console :=
  let page := min (max page 1) c.pageCount
  if page = c.query.page.val then c else { c with query := c.query.setPage page }.homeCursor

/-! ### The cursor and the selection -/

/-- The machine under the cursor. -/
def cursorRecord? (c : Console) : Option Vm := c.pageRows[c.display.cursor]?

/-- Changes the selection of the machine under the cursor over; the answer
is whether it is selected now. -/
def toggleCursorRow (c : Console) : Console × Option Bool :=
  match c.cursorRecord? with
  | none => (c, none)
  | some vm =>
    let (selection, selected) := c.selection.toggle vm.id
    ({ c with selection }, some selected)

/-- The box in the header of the current page. -/
def header (c : Console) : HeaderState := c.selection.header c.visibleIds

/-- Selects the current page, or takes it back if it was fully selected. -/
def toggleVisible (c : Console) : Console :=
  { c with selection := c.selection.togglePage c.visibleIds }

/-! ### The open menu -/

/-- A line of a menu. -/
structure MenuLine where
  label : String
  checked : Bool
  enabled : Bool
deriving DecidableEq, Repr

/-- A column in the sort menu; the one sorted by says which way. -/
def sortLine (q : Query) (column : Column) : MenuLine :=
  if q.column = some column then ⟨column.label ++ " " ++ q.direction.arrow, true, true⟩
  else ⟨column.label, false, true⟩

/-- The lines of an overlay's menu. -/
def menu (c : Console) : Overlay → List MenuLine
  | .filterMenu => c.query.statusChoices.map fun s => ⟨s.label, s.selected, true⟩
  | .sortMenu => Column.all.map (sortLine c.query)
  | .exportMenu => c.inventory.exportChoices.map fun e => ⟨e.format.label, false, e.enabled⟩
  | .help | .none => []

end Console

end VmAssessment
