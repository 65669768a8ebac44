/-
VmAssessment/Screen/Frame.lean

A whole frame: the screen that fits the session, the status line below it,
and what lies over both.  A frame is a function of the state; drawing one
leaves nothing to be drawn again.
-/
import VmAssessment.Screen.Overlays
import VmAssessment.Screen.ReportPage

namespace VmAssessment

open Terminal (Area Canvas Line Share Span Style)

namespace StatusLine

/-- Where typed characters go. -/
def modeText : InputMode → String
  | .browse => " Browse "
  | .search => " Search "

/-- Mode, phase and selection. -/
def leftLine (c : Console) : Line :=
  let phase := c.session.phase
  ⟨[⟨modeText c.display.mode, { ink := some Palette.background, ground := some Palette.purple }⟩,
    ⟨" Collector: ", {}⟩, ⟨phase.label, Palette.ink phase.colour⟩,
    ⟨" | Selected: " ++ toString c.selection.size, {}⟩], {}⟩

/-- The link to the agent, and when the inventory was loaded. -/
def rightLine (c : Console) (loadTime : String) : Line :=
  Line.of <| "Console: " ++ c.agent.link.label
    ++ (if c.agent.loading then " (updating)"
      else if c.agent.error.isSome then " (unreachable)"
      else "")
    ++ (if c.inventory.isLoaded then " | Inventory " ++ loadTime ++ " " else "")

/-- Draws the status line. -/
def draw (canvas : Canvas) (c : Console) (loadTime : String) (area : Area) : Canvas :=
  match area.sideBySide 0 [.percent 50, .percent 50] with
  | [left, right] =>
    let canvas := canvas.paragraph left Palette.panel .left [leftLine c]
    canvas.paragraph right Palette.panel .right [rightLine c loadTime]
  | _ => canvas

end StatusLine

namespace Console

/-- Draws the screen and the status line. -/
def drawScreen (canvas : Canvas) (c : Console) (loadTime : String) (area : Area) : Canvas :=
  match c.screen with
  | .login =>
    match area.stacked [.rest 1, .cells 1] with
    | [body, status] => StatusLine.draw (LoginPage.draw canvas c body) c loadTime status
    | _ => canvas
  | .report =>
    match area.stacked [.cells 1, .cells 3, .rest 1, .cells 1, .cells 1] with
    | [summary, toolbar, table, page, status] =>
      StatusLine.draw (ReportPage.draw canvas c summary toolbar table page) c loadTime status
    | _ => canvas

/-- Draws what lies over the screen. -/
def drawOverlays (canvas : Canvas) (c : Console) (area : Area) : Canvas :=
  let canvas := match c.display.overlay with
    | .none => canvas
    | .help => HelpPage.draw canvas area
    | .filterMenu | .sortMenu | .exportMenu => MenuPage.draw canvas c area
  match c.display.notification with
  | some n => NotificationBox.draw canvas n area
  | none => canvas

/-- The frame on a terminal of this size; `loadTime` says when the inventory
was loaded. -/
def frame (c : Console) (loadTime : String) (width height : UInt16) : Canvas :=
  let area := Canvas.whole width height
  let canvas := (Canvas.blank width height).paint area Palette.panel
  drawOverlays (drawScreen canvas c loadTime area) c area

/-- The frame, if it can be drawn.  The box of a notification is emptied cell
by cell, and a cell that the terminal does not have cannot be emptied. -/
def frame? (c : Console) (loadTime : String) (width height : UInt16) : Option Canvas :=
  let screen := Canvas.whole width height
  if c.display.notification.all fun n => screen.covers (NotificationBox.area screen n.level) then
    some (c.frame loadTime width height)
  else none

/-- The console once a frame is drawn. -/
def drawn (c : Console) : Console :=
  { c with display := c.display.clearRedraw.countFrame }

end Console

end VmAssessment
