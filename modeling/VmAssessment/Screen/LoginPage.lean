/-
VmAssessment/Screen/LoginPage.lean

The login screen: the form, how far the collection has come, and what went
wrong.  While a collection is in flight the form is shown as locked.
-/
import VmAssessment.Console.Basic
import VmAssessment.Screen.Palette
import VmAssessment.Terminal.Breaking

namespace VmAssessment

open Terminal (Area Canvas Line Share Span Style)

namespace LoginPage

/-- Stands behind the text that is being typed. -/
def caret : String := "▏"

/-- The phases of a collection that lead to a report. -/
def steps : List Phase := [.connecting, .connected, .collecting, .collected]

/-- A step beside the phase that the session is in. -/
def stepSpan (current step : Phase) : Span :=
  let style :=
    if step = current then Palette.boldInk step.colour
    else if step.isBehind current then Palette.ink Palette.green
    else Palette.ink Palette.gray
  ⟨step.label, style⟩

/-- How far the collection has come. -/
def stepLine (current : Phase) : Line :=
  ⟨(steps.map (stepSpan current)).intersperse ⟨" → ", Palette.hint⟩, {}⟩

/-- What is said of the phase. -/
def phaseLines (c : Console) : List Line :=
  match c.session.phase with
  | .error =>
    [Line.of (c.session.error.getD Session.collectionFailed) (Palette.ink Palette.red),
      Line.of "Check the credentials and press Enter to retry." Palette.hint]
  | .collected =>
    let text := match c.inventory.lastError with
      | some error => "Inventory unavailable: " ++ String.join (Terminal.linesOf error)
      | none => "Loading inventory…"
    [Line.of text (Palette.ink Palette.cyan)]
  | .ready => []
  | phase => [Line.of (phase.label ++ "…") (Palette.ink phase.colour)]

/-- What is said below the form. -/
def messageLines (c : Console) : List Line :=
  (c.login.validation.toList.map fun text => Line.of text (Palette.ink Palette.yellow))
    ++ phaseLines c
    ++ if c.session.busy && !c.session.phase.isActive then
        [Line.of "Stopping…" Palette.hint]
      else []

/-- Draws a field of the form. -/
def drawField (canvas : Canvas) (c : Console) (field : LoginField) (area : Area) : Canvas :=
  let locked := c.session.phase.isActive
  let focused := !locked && c.login.focus == field
  let value := if focused then c.login.shown field ++ caret else c.login.shown field
  let style := if locked then Palette.disabled else Palette.ink Palette.foreground
  ((canvas.paint area style).box area
    { title := " " ++ field.label ++ " "
      borderStyle := if focused then Palette.focusedBorder else Palette.border }).paragraph
    area.inside style .left ((Terminal.linesOf value).map Line.of)

/-- Draws fields one below the other. -/
def drawFields (canvas : Canvas) (c : Console) : List (LoginField × Area) → Canvas
  | [] => canvas
  | (field, area) :: rest => drawFields (drawField canvas c field area) c rest

/-- The keys that matter now. -/
def hint (locked : Bool) : String :=
  if locked then "Esc stop collection • F1 help • Ctrl+C quit"
  else "Tab next field • Enter start collection • F5 refresh • Ctrl+C quit"

/-- Draws the screen, without the status line. -/
def draw (canvas : Canvas) (c : Console) (area : Area) : Canvas :=
  let panel := area.centered 64 20
  let canvas := (canvas.wipe panel).box panel
    { title := " Connect to vCenter ", titleStyle := Palette.title
      borderStyle := Palette.focusedBorder, style := Palette.panel }
  match panel.inside.stacked [.cells 9, .cells 2, .rest 1, .cells 1] with
  | [fields, steps, message, hints] =>
    let places := fields.stacked [.cells 3, .cells 3, .cells 3]
    let canvas := drawFields canvas c (LoginField.all.zip places)
    let canvas := canvas.paragraph steps {} .left [stepLine c.session.phase]
    let canvas := canvas.brokenParagraph message {} true (messageLines c)
    canvas.paragraph hints Palette.hint .center [Line.of (hint c.session.phase.isActive)]
  | _ => canvas

end LoginPage

end VmAssessment
