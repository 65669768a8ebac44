/-
VmAssessment/Console/Handling.lean

How the console changes when something happens, and what has to be asked of
the agent then.  An error stays on the screen until the user does something;
everything but the passing of time ends with the shown rows up to date and
the screen to be drawn again.
-/
import VmAssessment.Console.Action
import VmAssessment.Console.Basic

namespace VmAssessment

open Number (Positive)

/-- What is left to do after an action. -/
structure Followups where
  effects : List Session.Effect := []
  /-- Ask the agent for its mode. -/
  fetchAgent : Bool := false
  /-- Ask the agent to change its mode. -/
  setMode : Option AgentMode := none
  /-- Leave the program. -/
  quit : Bool := false
deriving DecidableEq, Repr, Inhabited

namespace Console

/-! ### Messages -/

/-- Shows a message. -/
def notify (c : Console) (level : Level) (message : String) : Console :=
  { c with display := c.display.notify level message }

/-- The message on the screen is an error. -/
def showsError (c : Console) : Bool := c.display.notification.any (·.level == .error)

/-- Takes an error off the screen. -/
def dismissError (c : Console) : Console :=
  if c.showsError then { c with display := c.display.dismiss } else c

/-- Shows a message on what became of a command. -/
def tellOutcome (c : Console) (done : String) : Session.Outcome → Console
  | .applied => c.notify .info done
  | .rejected why => c.notify .warning why.message
  | .ignored | .stale => c

/-! ### Commands -/

/-- Edits the query and puts the cursor on the first row. -/
def editQuery (c : Console) (f : Query → Query) : Console :=
  { c with query := f c.query }.homeCursor

/-- Edits the login form. -/
def editLogin (c : Console) (f : LoginForm → LoginForm) : Console := { c with login := f c.login }

/-- Edits what is shown beside the data. -/
def editDisplay (c : Console) (f : Display → Display) : Console := { c with display := f c.display }

/-- Sends the login form, if it is in order. -/
def submitLogin (c : Console) : Console × List Session.Effect :=
  let (login, checked) := c.login.submit
  let c := { c with login }
  match checked with
  | .error fault => (c.notify .error fault.toFault.message, [])
  | .ok credentials =>
    let t := c.session.step (.start credentials)
    let c := { c with session := t.next }
    let c := if t.outcome = .applied then c.editLogin (·.clearPassword) else c
    (c.tellOutcome "Connecting to vCenter" t.outcome, t.effects)

/-- Stops the collection. -/
def stopCollection (c : Console) : Console × List Session.Effect :=
  let t := c.session.step .stop
  ({ c with session := t.next }.tellOutcome "Collection stopped" t.outcome, t.effects)

/-- Asks for the status of the agent's collection. -/
def attach (c : Console) : Console × List Session.Effect :=
  let t := c.session.step .attach
  ({ c with session := t.next }, t.effects)

/-- Asks for the inventory again, if there is one. -/
def reloadInventory (c : Console) : Console × List Session.Effect :=
  if c.session.phase = .collected then (c, [.fetchInventory c.session.generation])
  else (c.notify .warning "Inventory is available once collection completes", [])

/-- Removes a filter chip by its label. -/
def removeChip (c : Console) (label : String) : Console :=
  let (query, removed) := c.query.deleteChip label
  if removed then { c with query }.homeCursor else c

/-- Removes the filter chip that came last. -/
def removeLastChip (c : Console) : Console :=
  match c.query.chips.getLast? with
  | some chip => c.editQuery fun q => (q.deleteChip chip.label).1
  | none => c

/-- Goes on to the next page size. -/
def cyclePageSize (c : Console) : Console :=
  let next := c.table.nextPageSize (UInt64.ofNat c.query.pageSize.val)
  match Positive.ofNat? next.toNat with
  | some size =>
    (c.editQuery (·.setPageSize size)).notify .info (toString size.val ++ " rows per page")
  | none => c

/-- Exports the report, if there is something to export. -/
def exportReport (c : Console) (format : ExportFormat) : Console :=
  if c.inventory.exportChoices.any fun e => e.format == format && e.enabled then
    c.notify .info (format.label ++ " requested")
  else c.notify .warning "Nothing to export yet"

/-- Sends the selected machines to deep inspection, if there are any. -/
def inspectDeeply (c : Console) : Console :=
  if c.selection.allowsInspection then
    c.notify .info (toString c.selection.size ++ " VM(s) sent to deep inspection")
  else c.notify .warning "Select at least one VM first"

/-- Acts on the line under the menu's cursor. -/
def menuSelect (c : Console) : Console :=
  let line := c.display.menuCursor
  match c.display.overlay with
  | .filterMenu =>
    match VmStatus.all[line]? with
    | some status => c.editQuery (·.toggleStatus status)
    | none => c
  | .sortMenu =>
    let c := match Column.all[line]? with
      | some column => { c with query := c.query.toggleSort column }
      | none => c
    c.editDisplay (·.closeOverlay)
  | .exportMenu =>
    let c := match c.inventory.exportChoices[line]? with
      | some choice => c.exportReport choice.format
      | none => c
    c.editDisplay (·.closeOverlay)
  | .help | .none => c

/-- Opens the help page, or closes it if it is open. -/
def toggleHelp (c : Console) : Console :=
  c.editDisplay fun d => if d.overlay = .help then d.closeOverlay else d.openOverlay .help

/-! ### Replies of the agent -/

/-- Takes a session event over, and shows an error that it leads to. -/
def sessionEvent (c : Console) (e : Session.Event) :
    Console × List Session.Effect × Session.Outcome :=
  let t := c.session.step e
  let failedNow := t.outcome = .applied ∧ t.next.phase = .error ∧ c.session.phase ≠ .error
  let c := { c with session := t.next }
  (if failedNow then c.notify .error (t.next.error.getD Session.collectionFailed) else c,
    t.effects, t.outcome)

/-- Takes a batch of machines, or the failure to get one. -/
def takeInventory (c : Console) : Except Fault (List Vm) → Console
  | .ok batch =>
    let (inventory, fault) := c.inventory.replace batch
    let c := { c with inventory }
    match fault with
    | none => c.notify .success ("Loaded " ++ toString inventory.size ++ " VMs")
    | some fault => c.notify .warning fault.message
  | .error fault =>
    { c with inventory := c.inventory.recordFailure fault.userMessage }.notify .warning
      ("Failed to fetch inventory: " ++ fault.userMessage)

/-- What a session event led to, its outcome left aside. -/
def dropOutcome (r : Console × List Session.Effect × Session.Outcome) :
    Console × List Session.Effect := (r.1, r.2.1)

/-- Takes a reply of the agent. -/
def deliver (c : Console) : Delivery → Console × List Session.Effect
  | .started g (.ok report) => dropOutcome (c.sessionEvent (.startResolved g report))
  | .started g (.error fault) => dropOutcome (c.sessionEvent (.startFailed g fault.userMessage))
  | .stopped g (.ok _) => dropOutcome (c.sessionEvent (.stopResolved g))
  | .stopped g (.error fault) =>
    let (c, effects, outcome) := c.sessionEvent (.stopFailed g fault.userMessage)
    (if outcome = .applied then c.notify .warning ("Stop request failed: " ++ fault.userMessage)
      else c, effects)
  | .polled g (.ok report) => dropOutcome (c.sessionEvent (.pollResolved g report))
  | .synced g (.ok report) => dropOutcome (c.sessionEvent (.statusSynced g report))
  | .polled g (.error fault) | .synced g (.error fault) =>
    dropOutcome (c.sessionEvent (.statusFetchFailed g fault.userMessage))
  | .inventory g result => (if g = c.session.generation then c.takeInventory result else c, [])
  | .agent (.ok status) => ({ c with agent := c.agent.applyStatus status }, [])
  | .agent (.error fault) => ({ c with agent := c.agent.recordFailure fault.userMessage }, [])

/-! ### All actions -/

/-- The effects are all that is left to do. -/
def withEffects (r : Console × List Session.Effect) : Console × Followups :=
  (r.1, { effects := r.2 })

/-- What an action changes, before the shown rows are brought up to date. -/
def change (c : Console) : Action → Console × Followups
  | .typeLogin ch => (c.editLogin (·.insert ch), {})
  | .deleteLogin => (c.editLogin (·.delete.1), {})
  | .nextField => (c.editLogin (·.focusNext), {})
  | .prevField => (c.editLogin (·.focusPrev), {})
  | .submitLogin => withEffects c.submitLogin
  | .stopCollection => withEffects c.stopCollection
  | .syncStatus => let (c, effects) := c.attach; (c, { effects, fetchAgent := true })
  | .reloadInventory => withEffects c.reloadInventory
  | .enterSearch => ({ c with display.mode := .search }, {})
  | .leaveSearch => ({ c with display.mode := .browse }, {})
  | .typeSearch ch => (c.editQuery (·.pushSearch ch), {})
  | .deleteSearch => (c.editQuery (·.popSearch), {})
  | .clearSearch => (c.editQuery (·.setSearch ""), {})
  | .toggleStatus status => (c.editQuery (·.toggleStatus status), {})
  | .removeChip label => (c.removeChip label, {})
  | .removeLastChip => (c.removeLastChip, {})
  | .removeAllChips => (c.editQuery (·.deleteChips), {})
  | .sortBy column => ({ c with query := c.query.toggleSort column }, {})
  | .nextPage => (c.goToPage (c.query.page.val + 1), {})
  | .prevPage => (c.goToPage (c.query.page.val - 1), {})
  | .firstPage => (c.goToPage 1, {})
  | .lastPage => (c.goToPage c.pageCount, {})
  | .cyclePageSize => (c.cyclePageSize, {})
  | .cursorUp => (c.editDisplay (·.cursorUp), {})
  | .cursorDown => (c.editDisplay (·.cursorDown c.pageRows.length), {})
  | .toggleRow => (c.toggleCursorRow.1, {})
  | .togglePage => (c.toggleVisible, {})
  | .clearSelection => ({ c with selection := {} }, {})
  | .toggleHelp => (c.toggleHelp, {})
  | .openOverlay overlay => (c.editDisplay (·.openOverlay overlay), {})
  | .closeOverlay => (c.editDisplay (·.closeOverlay), {})
  | .menuUp => (c.editDisplay (·.menuUp), {})
  | .menuDown => (c.editDisplay (·.menuDown), {})
  | .menuSelect => (c.menuSelect, {})
  | .exportReport format => (c.exportReport format, {})
  | .inspectDeeply => (c.inspectDeeply, {})
  | .toggleAgentMode =>
    ({ c with agent := c.agent.beginRequest }, { setMode := some c.agent.mode.toggled })
  | .deliver delivery => withEffects (c.deliver delivery)
  | .resize _ _ | .tick | .idle | .quit => (c, {})

/-- What happens at an action. -/
def handle (c : Console) (a : Action) : Console × Followups :=
  let c := if a.isUsers then c.dismissError else c
  match a with
  | .quit => (c, { quit := true })
  | .tick => ({ c with display := c.display.expire.1 }, {})
  | .idle => (c, {})
  | a =>
    let (c, followups) := c.change a
    (c.refresh.1.editDisplay (·.requestRedraw .everything), followups)

end Console

end VmAssessment
