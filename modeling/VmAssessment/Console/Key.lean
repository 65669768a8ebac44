/-
VmAssessment/Console/Key.lean

What keys mean.  The meaning depends on the screen, on where typed
characters go and on what overlay is open: help comes first, then the login
screen, and on the report the overlay comes before the search.
-/
import VmAssessment.Console.Action
import VmAssessment.Console.Basic

namespace VmAssessment

/-- The keys of a keyboard. -/
inductive KeyCode
  | char (c : Char)
  | function (n : Nat)
  | esc | enter | tab | backTab | backspace | delete | insert
  | up | down | left | right | home | endKey | pageUp | pageDown
  /-- A lock, a media key, a modifier on its own: nothing is bound to them. -/
  | other
deriving DecidableEq, Repr

/-- A key with what was held down beside it. -/
structure Key where
  code : KeyCode
  ctrl : Bool := false
  shift : Bool := false
  alt : Bool := false
deriving DecidableEq, Repr

/-- What a terminal reports. -/
inductive TerminalEvent
  /-- A key went down, or was held long enough to repeat. -/
  | pressed (key : Key)
  | released (key : Key)
  | resized (width height : UInt16)
  | pasted (text : String)
  | focused (gained : Bool)
deriving DecidableEq, Repr

/-- What the meaning of a key depends on. -/
structure KeyContext where
  screen : Screen
  mode : InputMode
  overlay : Overlay
deriving DecidableEq, Repr

/-- What the meaning of keys depends on now. -/
def Console.keyContext (c : Console) : KeyContext := ⟨c.screen, c.display.mode, c.display.overlay⟩

namespace Key

/-- Over any screen, the keys of the help page. -/
def onHelp (k : Key) : Action :=
  match k.code with
  | .esc | .char '?' | .char 'q' | .function 1 => .closeOverlay
  | _ => .idle

/-- On the login screen. -/
def onLogin (k : Key) : Action :=
  match k.code with
  | .tab | .down => .nextField
  | .backTab | .up => .prevField
  | .enter => .submitLogin
  | .backspace => .deleteLogin
  | .esc => .stopCollection
  | .function 1 => .toggleHelp
  | .function 5 => .syncStatus
  | .char c => if c = 'q' ∧ k.ctrl then .quit else .typeLogin c
  | _ => .idle

/-- While a search text is typed. -/
def onSearch (k : Key) : Action :=
  match k.code with
  | .esc | .enter => .leaveSearch
  | .backspace => .deleteSearch
  | .char c => .typeSearch c
  | _ => .idle

/-- In a menu. -/
def onMenu (k : Key) : Action :=
  match k.code with
  | .esc | .char 'q' => .closeOverlay
  | .up | .char 'k' => .menuUp
  | .down | .char 'j' => .menuDown
  | .enter | .char ' ' => .menuSelect
  | _ => .idle

/-- The letters and digits of the report screen. -/
def letterOnReport : Char → Action
  | 'q' => .quit
  | '?' => .toggleHelp
  | '/' => .enterSearch
  | 'c' => .clearSearch
  | 'f' => .openOverlay .filterMenu
  | 's' => .openOverlay .sortMenu
  | 'e' => .openOverlay .exportMenu
  | 'x' => .removeLastChip
  | 'X' => .removeAllChips
  | '1' => .sortBy .name
  | '2' => .sortBy .status
  | '3' => .sortBy .datacenter
  | '4' => .sortBy .cluster
  | '5' => .sortBy .diskSize
  | '6' => .sortBy .memorySize
  | 'k' => .cursorUp
  | 'j' => .cursorDown
  | ' ' => .toggleRow
  | 'a' => .togglePage
  | 'u' => .clearSelection
  | 'l' | 'n' => .nextPage
  | 'h' | 'p' => .prevPage
  | 'g' => .firstPage
  | 'G' => .lastPage
  | 'z' => .cyclePageSize
  | 'd' => .inspectDeeply
  | 'm' => .toggleAgentMode
  | 'r' => .reloadInventory
  | 'P' => .exportReport .pdf
  | 'C' => .exportReport .csv
  | 'S' => .stopCollection
  | _ => .idle

/-- On the report screen. -/
def onReport (k : Key) : Action :=
  match k.code with
  | .char c => letterOnReport c
  | .function 1 => .toggleHelp
  | .function 5 => .reloadInventory
  | .up => .cursorUp
  | .down => .cursorDown
  | .right | .pageDown => .nextPage
  | .left | .pageUp => .prevPage
  | .home => .firstPage
  | .endKey => .lastPage
  | _ => .idle

end Key

namespace KeyContext

/-- What a key means. -/
def keyAction (context : KeyContext) (k : Key) : Action :=
  if k.ctrl ∧ k.code = .char 'c' then .quit
  else
    match context.overlay, context.screen, context.mode with
    | .help, _, _ => k.onHelp
    | _, .login, _ => k.onLogin
    | .none, .report, .search => k.onSearch
    | .none, .report, .browse => k.onReport
    | _, .report, _ => k.onMenu

/-- What an event means. -/
def action (context : KeyContext) : TerminalEvent → Action
  | .pressed key => context.keyAction key
  | .resized width height => .resize width height
  | .released _ | .pasted _ | .focused _ => .idle

end KeyContext

end VmAssessment
