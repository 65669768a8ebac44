/-
VmAssessment/Display.lean

What the screen shows beside the data: where typed characters go, which
overlay is open, the cursors, one notification, and which parts are to be
drawn again.
-/

namespace VmAssessment

/-- Where typed characters go on the report screen. -/
inductive InputMode
  | browse | search
deriving DecidableEq, Repr, Inhabited

/-- What lies over the screen. -/
inductive Overlay
  | none | help | filterMenu | exportMenu | sortMenu
deriving DecidableEq, Repr, Inhabited

namespace Overlay

/-- Every overlay. -/
def all : List Overlay := [.none, .help, .filterMenu, .exportMenu, .sortMenu]

/-- How many lines the overlay's menu has. -/
def menuLength : Overlay → Nat
  | .filterMenu => 3
  | .exportMenu => 2
  | .sortMenu => 6
  | .none | .help => 0

/-- The overlay's title. -/
def title : Overlay → String
  | .help => "Help"
  | .filterMenu => "Filter by status"
  | .exportMenu => "Export"
  | .sortMenu => "Sort by"
  | .none => ""

end Overlay

/-- How serious a notification is. -/
inductive Level
  | info | success | warning | error
deriving DecidableEq, Repr, Inhabited

namespace Level

/-- Every level. -/
def all : List Level := [.info, .success, .warning, .error]

/-- After how many milliseconds a notification goes away by itself; an error
stays. -/
def lifetime? : Level → Option Nat
  | .info => some 3000
  | .success => some 2000
  | .warning => some 5000
  | .error => none

end Level

/-- A message to the user. -/
structure Notification where
  level : Level
  message : String
  /-- Milliseconds since it appeared. -/
  age : Nat := 0
deriving DecidableEq, Repr, Inhabited

/-- A message whose time is over. -/
def Notification.isOver (n : Notification) : Bool := n.level.lifetime?.any (· < n.age)

/-- The parts of the screen that are to be drawn again. -/
structure Redraw where
  main : Bool := false
  statusBar : Bool := false
  overlay : Bool := false
  notification : Bool := false
deriving DecidableEq, Repr, Inhabited

namespace Redraw

/-- Everything. -/
def everything : Redraw := ⟨true, true, true, true⟩

/-- The parts of both. -/
def union (a b : Redraw) : Redraw :=
  ⟨a.main || b.main, a.statusBar || b.statusBar, a.overlay || b.overlay,
    a.notification || b.notification⟩

/-- Some part is to be drawn. -/
def any (r : Redraw) : Bool := r.main || r.statusBar || r.overlay || r.notification

/-- The parts as a sum of powers of two. -/
def bits (r : Redraw) : Nat :=
  r.main.toNat + 2 * r.statusBar.toNat + 4 * r.overlay.toNat + 8 * r.notification.toNat

end Redraw

/-- What the screen shows beside the data. -/
structure Display where
  redraw : Redraw := .everything
  /-- How many frames were drawn. -/
  frames : Nat := 0
  mode : InputMode := .browse
  overlay : Overlay := .none
  /-- The row under the cursor, within the page. -/
  cursor : Nat := 0
  /-- The line under the cursor of the open menu. -/
  menuCursor : Nat := 0
  notification : Option Notification := none
deriving DecidableEq, Repr, Inhabited

namespace Display

/-- Asks for parts to be drawn again. -/
def requestRedraw (d : Display) (r : Redraw) : Display := { d with redraw := d.redraw.union r }

/-- Nothing is to be drawn. -/
def clearRedraw (d : Display) : Display := { d with redraw := {} }

/-- Whether anything is to be drawn. -/
def needsRedraw (d : Display) : Bool := d.redraw.any

/-- Counts a frame. -/
def countFrame (d : Display) : Display := { d with frames := d.frames + 1 }

/-- Shows a message in place of the one before. -/
def notify (d : Display) (level : Level) (message : String) : Display :=
  { d with notification := some { level, message } }.requestRedraw { notification := true }

/-- Takes the message away. -/
def dismiss (d : Display) : Display :=
  if d.notification.isSome then
    { d with notification := none }.requestRedraw { notification := true }
  else d

/-- Lets time pass for the message. -/
def elapse (d : Display) (ms : Nat) : Display :=
  { d with notification := d.notification.map fun n => { n with age := n.age + ms } }

/-- Takes the message away if its time is over; whether it was. -/
def expire (d : Display) : Display × Bool :=
  if d.notification.any (·.isOver) then
    ({ d with notification := none }.requestRedraw { notification := true }, true)
  else (d, false)

/-- Opens an overlay in place of the one before. -/
def openOverlay (d : Display) (overlay : Overlay) : Display :=
  { d with overlay, menuCursor := 0, mode := .browse }.requestRedraw { overlay := true }

/-- Closes the overlay. -/
def closeOverlay (d : Display) : Display :=
  { d with overlay := .none }.requestRedraw .everything

/-- Moves the menu's cursor up. -/
def menuUp (d : Display) : Display :=
  if 0 < d.menuCursor then
    { d with menuCursor := d.menuCursor - 1 }.requestRedraw { overlay := true }
  else d

/-- Moves the menu's cursor down. -/
def menuDown (d : Display) : Display :=
  if d.menuCursor + 1 < d.overlay.menuLength then
    { d with menuCursor := d.menuCursor + 1 }.requestRedraw { overlay := true }
  else d

/-- Moves the row cursor up. -/
def cursorUp (d : Display) : Display :=
  if 0 < d.cursor then { d with cursor := d.cursor - 1 }.requestRedraw { main := true } else d

/-- Moves the row cursor down on a page of so many rows. -/
def cursorDown (d : Display) (rows : Nat) : Display :=
  if d.cursor + 1 < rows then
    { d with cursor := d.cursor + 1 }.requestRedraw { main := true }
  else d

/-- Keeps the row cursor on a page of so many rows. -/
def clampCursor (d : Display) (rows : Nat) : Display := { d with cursor := min d.cursor (rows - 1) }

end Display

end VmAssessment
