/-
VmAssessment/Screen/Overlays.lean

What lies over the screens: the help page, the menus and the notification.
-/
import VmAssessment.Console.Basic
import VmAssessment.Screen.Palette
import VmAssessment.Terminal.Breaking

namespace VmAssessment

open Terminal (Area Canvas Line Share Span Style)

/-! ### Help -/

namespace HelpPage

/-- The keys, by where they work. -/
def sections : List (String × List (String × String)) :=
  [("Login",
    [("Tab / Shift+Tab", "Next / previous field"),
      ("Enter", "Start collection"),
      ("Esc", "Stop a running collection"),
      ("F5", "Re-sync collector status")]),
   ("Table",
    [("↑↓ / j k", "Move cursor"),
      ("←→ / PgUp PgDn", "Previous / next page"),
      ("Home / End", "First / last page"),
      ("z", "Cycle page size"),
      ("1-6", "Sort by column, again to reverse")]),
   ("Search & filter",
    [("/", "Search by name (Esc to leave)"),
      ("c", "Clear search"),
      ("f", "Status filter menu"),
      ("x / X", "Remove last chip / clear status filter"),
      ("s", "Sort menu")]),
   ("Selection & actions",
    [("Space", "Select row"),
      ("a", "Select or clear the visible page"),
      ("u", "Clear selection"),
      ("d", "Send selection to deep inspection"),
      ("e / P / C", "Export menu / PDF / CSV"),
      ("m", "Toggle console connection"),
      ("r", "Reload inventory"),
      ("S", "Stop collection")]),
   ("Application",
    [("? / F1", "Toggle this help"), ("q / Ctrl+C", "Quit")])]

/-- A text with spaces behind it, up to a length. -/
def padded (length : Nat) (text : String) : String :=
  text ++ String.ofList (List.replicate (length - text.length) ' ')

/-- The lines of a section. -/
def sectionLines (s : String × List (String × String)) : List Line :=
  Line.of s.1 (Palette.boldInk Palette.cyan)
    :: (s.2.map fun (key, text) =>
      ⟨[⟨"  " ++ padded 18 key, Palette.ink Palette.yellow⟩, ⟨text, {}⟩], {}⟩)
    ++ [Line.of ""]

/-- Draws the page. -/
def draw (canvas : Canvas) (screen : Area) : Canvas :=
  let area := screen.centered 64 36
  let text := Palette.ink Palette.foreground
  (((canvas.wipe area).paint area text).box area
    { title := " Help ", centered := true, titleStyle := Palette.title
      borderStyle := Palette.focusedBorder, style := Palette.panel }).brokenParagraph area.inside
    text false (sections.flatMap sectionLines)

end HelpPage

/-! ### Menus -/

namespace MenuPage

/-- How a line of a menu looks. -/
def entry (line : Console.MenuLine) : Line :=
  ⟨[⟨if line.checked then "[x] " else "[ ] ", Palette.ink Palette.cyan⟩,
    ⟨line.label, if line.enabled then Palette.ink Palette.foreground else Palette.disabled⟩], {}⟩

/-- Draws the lines of a menu one below the other. -/
def drawLines (canvas : Canvas) (area : Area) (cursor : Nat) :
    Nat → List Console.MenuLine → Canvas
  | _, [] => canvas
  | i, line :: rest =>
    let row := area.row i
    let text : Area := { row with x := row.x + 2, width := Area.lessen row.width 2 }
    let canvas := canvas.writeLine text (entry line)
    let canvas := canvas.writeLine row (Line.of (if i = cursor then "▶ " else "  "))
    let canvas := if i = cursor then canvas.paint row Palette.highlight else canvas
    drawLines canvas area cursor (i + 1) rest

/-- Draws the open menu, scrolled so that the line under the cursor is in
sight. -/
def draw (canvas : Canvas) (c : Console) (screen : Area) : Canvas :=
  let lines := c.menu c.display.overlay
  if lines.isEmpty then canvas
  else
    let area := screen.centered 40 (UInt16.ofNat (lines.length + 4))
    let canvas := (canvas.wipe area).box area
      { title := " " ++ c.display.overlay.title ++ " "
        foot := ⟨[⟨" Enter select • Esc close ", {}⟩], Palette.hint⟩
        titleStyle := Palette.title, borderStyle := Palette.focusedBorder, style := Palette.panel }
    let height := area.inside.height.toNat
    let cursor := min c.display.menuCursor (lines.length - 1)
    let hidden := cursor + 1 - height
    drawLines canvas area.inside (cursor - hidden) 0 ((lines.drop hidden).take height)

end MenuPage

/-! ### Notification -/

namespace NotificationBox

/-- Where the notification stands: below the first row, over three fifths of
the width. -/
def area (screen : Area) (level : Level) : Area :=
  let height : UInt16 := if level = .error then 5 else 3
  let width := screen.width * 60 / 100
  ⟨screen.x + (screen.width - width) / 2, screen.y + 1, width, min height screen.height⟩

/-- The box's title. -/
def title : Level → String
  | .info => " ℹ Info "
  | .warning => " ⚠ Warning "
  | .error => " ✕ Error "
  | .success => " ✓ Success "

/-- How to get rid of a notification that does not go by itself. -/
def foot (level : Level) : String :=
  if level.lifetime?.isSome then "" else " any key dismisses "

/-- Draws a notification. -/
def draw (canvas : Canvas) (n : Notification) (screen : Area) : Canvas :=
  let area := area screen n.level
  let text := Palette.ink Palette.foreground
  let frame : Canvas.Box :=
    { title := title n.level, foot := Line.of (foot n.level)
      titleStyle := Palette.boldInk n.level.colour, borderStyle := Palette.ink n.level.colour
      style := { ground := some Palette.background } }
  (((canvas.wipe area).paint area text).box area frame).brokenParagraph area.inside text true
    ((Terminal.linesOf n.message).map Line.of)

end NotificationBox

end VmAssessment
