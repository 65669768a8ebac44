/-
VmAssessment/Screen/ReportPage.lean

The report screen: the figures of the inventory, the search and the filter,
one page of the table, and where that page stands.
-/
import VmAssessment.Capacity
import VmAssessment.Console.Basic
import VmAssessment.Screen.LoginPage

namespace VmAssessment

open Terminal (Area Canvas Line Share Span Style)

namespace ReportPage

/-- The ending of a counted noun. -/
def pluralEnding (n : Nat) : String := if n = 1 then "" else "s"

/-- The figures of the inventory. -/
def summaryLine (s : Summary) : Line :=
  ⟨[⟨" " ++ toString s.vms ++ " VM" ++ pluralEnding s.vms, Palette.title⟩,
    ⟨" across " ++ toString s.clusters ++ " cluster" ++ pluralEnding s.clusters ++ "   ", {}⟩,
    ⟨"● " ++ toString s.migratable ++ " migratable  ", Palette.ink Palette.green⟩,
    ⟨"● " ++ toString s.withWarnings ++ " with warnings  ", Palette.ink Palette.yellow⟩,
    ⟨"● " ++ toString s.notMigratable ++ " not migratable", Palette.ink Palette.red⟩], {}⟩

/-! ### Search and filter -/

/-- The search text, or how to search. -/
def searchLine (c : Console) : Line :=
  let searching := c.display.mode = .search
  if c.query.search.isEmpty && !searching then Line.of "Search by name  (/)" Palette.hint
  else
    ⟨⟨c.query.search, {}⟩ ::
      (if searching then [⟨LoginPage.caret, Palette.ink Palette.purple⟩] else []), {}⟩

/-- The filter chips, or how to filter. -/
def chipsLine (q : Query) : Line :=
  if q.chips.isEmpty then Line.of "No status filter  (f)" Palette.hint
  else
    ⟨(q.chips.flatMap fun chip =>
        [⟨" " ++ chip.label ++ " ✕ ", Palette.chip chip.status.colour⟩, ⟨" ", {}⟩])
      ++ [⟨"x remove • X clear all", Palette.hint⟩], {}⟩

/-- Draws search and filter side by side. -/
def drawToolbar (canvas : Canvas) (c : Console) (area : Area) : Canvas :=
  match area.sideBySide 0 [.percent 40, .rest 1] with
  | [search, chips] =>
    let searchBorder :=
      if c.display.mode = .search then Palette.focusedBorder else Palette.border
    let canvas := canvas.box search { title := " Search ", borderStyle := searchBorder }
    let canvas := canvas.paragraph search.inside {} .left [searchLine c]
    let canvas := canvas.box chips { title := " Status ", borderStyle := Palette.border }
    canvas.paragraph chips.inside {} .left [chipsLine c.query]
  | _ => canvas

/-! ### The table -/

/-- A box that shows a state. -/
def boxText : HeaderState → String
  | .checked => "[x]"
  | .indeterminate => "[-]"
  | .unchecked => "[ ]"

/-- A column's heading; the one sorted by says which way. -/
def columnTitle (q : Query) (column : Column) : String :=
  if q.column = some column then column.label ++ " " ++ q.direction.arrow else column.label

/-- The headings of the table. -/
def headings (c : Console) : List String :=
  boxText c.header :: (Column.all.map (columnTitle c.query) ++ ["Issues"])

/-- The colour of a machine's issues. -/
def issueColour (vm : Vm) : Terminal.Colour :=
  if vm.hasErrors then Palette.red
  else if vm.hasWarnings then Palette.yellow
  else Palette.gray

/-- The entries of a machine's row. -/
def entries (c : Console) (vm : Vm) : List Span :=
  [⟨boxText (if c.selection.contains vm.id then .checked else .unchecked), {}⟩, ⟨vm.name, {}⟩,
    ⟨vm.status.label, Palette.ink vm.status.colour⟩, ⟨vm.datacenter, {}⟩, ⟨vm.cluster, {}⟩,
    ⟨Capacity.text vm.diskGb, {}⟩, ⟨Capacity.text vm.memoryGb, {}⟩,
    ⟨vm.issueSummary, Palette.ink (issueColour vm)⟩]

/-- Stands before the row under the cursor. -/
def marker : String := "▶ "

/-- How wide the columns are. -/
def columnShares : List Share :=
  [.cells 3, .rest 2, .cells 16, .cells 12, .rest 1, .cells 10, .cells 10, .rest 2]

/-- The places of the columns on one row, behind the marker. -/
def columnAreas (row : Area) : List Area :=
  { row with x := row.x + 2, width := Area.lessen row.width 2 }.sideBySide 1 columnShares

/-- Draws entries at their places; the first line of each is shown. -/
def drawEntries (canvas : Canvas) : List (Area × Span) → Canvas
  | [] => canvas
  | (area, entry) :: rest =>
    let line := Line.of ((Terminal.linesOf entry.text).headD "")
    drawEntries ((canvas.paint area entry.style).writeLine area line) rest

/-- Draws a machine's row. -/
def drawRow (canvas : Canvas) (c : Console) (row : Area) (underCursor : Bool) (vm : Vm) : Canvas :=
  let canvas := canvas.paint row (Palette.ink Palette.foreground)
  let canvas :=
    if underCursor then canvas.writeLine { row with width := 2 } (Line.of marker) else canvas
  let canvas := drawEntries canvas ((columnAreas row).zip (entries c vm))
  if underCursor then canvas.paint row Palette.highlight else canvas

/-- Draws rows one below the other. -/
def drawRows (canvas : Canvas) (c : Console) (area : Area) (cursor : Nat) :
    Nat → List Vm → Canvas
  | _, [] => canvas
  | i, vm :: rest =>
    drawRows (drawRow canvas c (area.row i) (i == cursor) vm) c area cursor (i + 1) rest

/-- Draws the headings and the rows of the current page, scrolled so that
the row under the cursor is in sight. -/
def drawBody (canvas : Canvas) (c : Console) (area : Area) (page : List Vm) : Canvas :=
  match area.stacked [.cells 1, .cells 1, .rest 1] with
  | [head, _, rows] =>
    let canvas := canvas.paint head Palette.heading
    let canvas :=
      drawEntries canvas ((columnAreas head).zip ((headings c).map fun text => ⟨text, {}⟩))
    let height := rows.height.toNat
    let cursor := min c.display.cursor (page.length - 1)
    let hidden := cursor + 1 - height
    drawRows canvas c rows (cursor - hidden) 0 ((page.drop hidden).take height)
  | _ => canvas

/-- Draws the table, or why it is empty. -/
def drawTable (canvas : Canvas) (c : Console) (area : Area) : Canvas :=
  let frame : Canvas.Box :=
    { title := " Virtual machines (" ++ toString c.view.size ++ ") ", titleStyle := Palette.title
      borderStyle := Palette.border, style := Palette.panel }
  let page := c.pageRows
  if page.isEmpty then
    let text :=
      if c.inventory.records.isEmpty then "The collected inventory is empty"
      else "No VMs match the current search and filters"
    ((canvas.paint area Palette.hint).box area frame).paragraph area.inside Palette.hint .center
      [Line.of text]
  else
    let canvas := canvas.box area frame
    if area.inside.isEmpty then canvas else drawBody canvas c area.inside page

/-! ### The page -/

/-- Where the current page stands. -/
def pageLabel (c : Console) : String :=
  let total := c.view.size
  let window := Report.window total c.query.page.val c.query.pageSize.val
  let first := if window.start < window.stop then window.start + 1 else 0
  toString first ++ " - " ++ toString window.stop ++ " of " ++ toString total ++ " · page "
    ++ toString c.query.page.val ++ "/" ++ toString c.pageCount ++ " · "
    ++ toString c.query.pageSize.val ++ " per page"

/-- Where the current page stands, and the keys that change it. -/
def pageLine (c : Console) : Line :=
  ⟨[⟨pageLabel c, Palette.boldInk Palette.foreground⟩,
    ⟨"   ←/→ page • z page size", Palette.hint⟩], {}⟩

/-- Draws the screen, without the status line. -/
def draw (canvas : Canvas) (c : Console) (summary toolbar table page : Area) : Canvas :=
  let canvas := canvas.paragraph summary {} .left [summaryLine c.inventory.summary]
  let canvas := drawToolbar canvas c toolbar
  let canvas := drawTable canvas c table
  canvas.paragraph page {} .right [pageLine c]

end ReportPage

end VmAssessment
