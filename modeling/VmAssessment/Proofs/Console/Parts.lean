/-
VmAssessment/Proofs/Console/Parts.lean

Which parts of the console an action can reach.  `Action.reach` lists them for
every action, and `change_reach` says that an action changes nothing else; the
settings and the kept rows are never changed by an action itself, and marks to
draw again are of no matter.  An action that does not reach the login form does
not look at it either (`change_confined`).  Both come of one equation for each
command (`Confined`).

Bringing the shown rows up to date afterwards touches the page, the cursor and
the kept rows, and a message can go at every action; so outside of these the
same holds of the whole action (`handle_agree`).

The inventory is reached by the answer to a request for it and by nothing
else.
-/
import VmAssessment.Console.Handling

namespace VmAssessment

/-- The parts of the console's state that actions change. -/
inductive Part
  | inventory | query | selection | session | agent | login
  | mode | overlay
  /-- The line under the cursor of the open menu. -/
  | line
  /-- The row under the cursor, within the page. -/
  | cursor
  | message
deriving DecidableEq, Repr

/-- The parts that any action may touch: page and cursor are put in range after
it, and a message can go before it. -/
def Part.volatile : List Part := [.query, .cursor, .message]

/-- The parts that an action can reach, before the shown rows are brought up
to date. -/
def Action.reach : Action → List Part
  | .typeLogin _ | .deleteLogin | .nextField | .prevField => [.login]
  | .submitLogin => [.login, .session, .message]
  | .stopCollection => [.session, .message]
  | .typeSearch _ | .deleteSearch | .clearSearch | .toggleStatus _ | .removeChip _
  | .removeLastChip | .removeAllChips | .nextPage | .prevPage | .firstPage | .lastPage =>
    [.query, .cursor]
  | .cyclePageSize => [.query, .cursor, .message]
  | .menuSelect => [.query, .cursor, .overlay, .message]
  | .sortBy _ => [.query]
  | .enterSearch | .leaveSearch => [.mode]
  | .cursorUp | .cursorDown => [.cursor]
  | .toggleHelp | .openOverlay _ => [.mode, .overlay, .line]
  | .closeOverlay => [.overlay]
  | .menuUp | .menuDown => [.line]
  | .reloadInventory | .exportReport _ | .inspectDeeply => [.message]
  | .toggleRow | .togglePage | .clearSelection => [.selection]
  | .toggleAgentMode | .deliver (.agent _) => [.agent]
  | .deliver (.inventory _ _) => [.inventory, .message]
  | .deliver _ => [.session, .message]
  | .syncStatus | .resize _ _ | .tick | .idle | .quit => []

/-- Only the answer to a request for the inventory can bring one. -/
theorem Action.inventory_mem_reach {a : Action} (h : .inventory ∈ a.reach) :
    ∃ g result, a = .deliver (.inventory g result) := by
  cases a with
  | deliver d =>
      cases d with
      | inventory g result => exact ⟨g, result, rfl⟩
      | _ => simp [reach] at h
  | _ => simp [reach] at h

/-- The actions on the login form. -/
inductive Action.OfForm : Action → Prop
  | type (ch : Char) : OfForm (.typeLogin ch)
  | delete : OfForm .deleteLogin
  | next : OfForm .nextField
  | prev : OfForm .prevField
  | submit : OfForm .submitLogin

/-- They are what reaches the form. -/
theorem Action.ofForm_of_mem_reach {a : Action} (h : .login ∈ a.reach) : a.OfForm := by
  cases a with
  | typeLogin ch => exact .type ch
  | deleteLogin => exact .delete
  | nextField => exact .next
  | prevField => exact .prev
  | submitLogin => exact .submit
  | deliver d => cases d <;> simp [reach] at h
  | _ => simp [reach] at h

/-! ### Displays that differ in some parts -/

namespace Display

variable (d : Display)

/-- A display with some parts of another in place of its own.  Marks to draw
again are of no matter. -/
def graft (ps : List Part) (d' : Display) : Display :=
  { d' with
    frames := d.frames
    mode := if .mode ∈ ps then d'.mode else d.mode
    overlay := if .overlay ∈ ps then d'.overlay else d.overlay
    menuCursor := if .line ∈ ps then d'.menuCursor else d.menuCursor
    cursor := if .cursor ∈ ps then d'.cursor else d.cursor
    notification := if .message ∈ ps then d'.notification else d.notification }

theorem dismiss_eq_graft : d.dismiss = d.graft [.message] d.dismiss := by
  unfold dismiss
  split <;> rfl

theorem expire_eq_graft : d.expire.1 = d.graft [.message] d.expire.1 := by
  unfold expire
  split <;> rfl

theorem cursorUp_eq_graft : d.cursorUp = d.graft [.cursor] d.cursorUp := by
  unfold cursorUp
  split <;> rfl

theorem cursorDown_eq_graft (rows : Nat) :
    d.cursorDown rows = d.graft [.cursor] (d.cursorDown rows) := by
  unfold cursorDown
  split <;> rfl

theorem menuUp_eq_graft : d.menuUp = d.graft [.line] d.menuUp := by
  unfold menuUp
  split <;> rfl

theorem menuDown_eq_graft : d.menuDown = d.graft [.line] d.menuDown := by
  unfold menuDown
  split <;> rfl

end Display

namespace Console

/-! ### Consoles that differ in some parts -/

/-- Two consoles have the same in a part. -/
def Agree (c c' : Console) : Part → Prop
  | .inventory => c'.inventory = c.inventory
  | .query => c'.query = c.query
  | .selection => c'.selection = c.selection
  | .session => c'.session = c.session
  | .agent => c'.agent = c.agent
  | .login => c'.login = c.login
  | .mode => c'.display.mode = c.display.mode
  | .overlay => c'.display.overlay = c.display.overlay
  | .line => c'.display.menuCursor = c.display.menuCursor
  | .cursor => c'.display.cursor = c.display.cursor
  | .message => c'.display.notification = c.display.notification

/-- A console with some parts of another in place of its own. -/
def graft (c : Console) (ps : List Part) (c' : Console) : Console :=
  { c with
    inventory := if .inventory ∈ ps then c'.inventory else c.inventory
    query := if .query ∈ ps then c'.query else c.query
    selection := if .selection ∈ ps then c'.selection else c.selection
    session := if .session ∈ ps then c'.session else c.session
    agent := if .agent ∈ ps then c'.agent else c.agent
    login := if .login ∈ ps then c'.login else c.login
    display := c.display.graft ps c'.display }

/-- The console with another login form. -/
def withLogin (c : Console) (f : LoginForm) : Console := { c with login := f }

/-- At most the parts of a list are different. -/
structure SameBut (c : Console) (ps : List Part) (c' : Console) : Prop where
  eq_graft : c' = c.graft ps c'

/-- A command is confined to some parts: it leaves the others alone, and what it
makes of these is the same with any login form. -/
structure Confined (ps : List Part) (F : Console → Console) : Prop where
  eq_graft : ∀ (c : Console) (f : LoginForm), F (c.withLogin f) = (c.withLogin f).graft ps (F c)

variable {c c' c'' : Console} {p : Part} {ps : List Part} {F : Console → Console}

theorem Agree.refl (c : Console) (p : Part) : c.Agree c p := by
  cases p <;> rfl

theorem Agree.trans (h : c.Agree c' p) (h' : c'.Agree c'' p) : c.Agree c'' p := by
  cases p <;> exact Eq.trans h' h

namespace SameBut

/-- What does not look at these parts is the same. -/
theorem same {α : Type} (h : c.SameBut ps c') {g : Console → α}
    (hg : ∀ x, g (c.graft ps x) = g c) : g c' = g c :=
  (congrArg g h.eq_graft).trans (hg c')

theorem view (h : c.SameBut ps c') : c'.view = c.view := h.same (g := Console.view) fun _ => rfl

theorem table (h : c.SameBut ps c') : c'.table = c.table := h.same (g := Console.table) fun _ => rfl

theorem agree (h : c.SameBut ps c') (hp : p ∉ ps) : c.Agree c' p := by
  cases p with
  | inventory => exact h.same (g := Console.inventory) fun _ => if_neg hp
  | query => exact h.same (g := Console.query) fun _ => if_neg hp
  | selection => exact h.same (g := Console.selection) fun _ => if_neg hp
  | session => exact h.same (g := Console.session) fun _ => if_neg hp
  | agent => exact h.same (g := Console.agent) fun _ => if_neg hp
  | login => exact h.same (g := Console.login) fun _ => if_neg hp
  | mode => exact h.same (g := (·.display.mode)) fun _ => if_neg hp
  | overlay => exact h.same (g := (·.display.overlay)) fun _ => if_neg hp
  | line => exact h.same (g := (·.display.menuCursor)) fun _ => if_neg hp
  | cursor => exact h.same (g := (·.display.cursor)) fun _ => if_neg hp
  | message => exact h.same (g := (·.display.notification)) fun _ => if_neg hp

theorem refl (c : Console) (ps : List Part) : c.SameBut ps c where
  eq_graft := by simp [graft, Display.graft]

theorem trans (h : c.SameBut ps c') (h' : c'.SameBut ps c'') : c.SameBut ps c'' where
  eq_graft := by
    have hgraft : (c.graft ps c').graft ps c'' = c.graft ps c'' := by
      simp +contextual [graft, Display.graft]
    rw [← h.eq_graft] at hgraft
    exact h'.eq_graft.trans hgraft

end SameBut

theorem Confined.sameBut (h : Confined ps F) (c : Console) : c.SameBut ps (F c) :=
  ⟨h.eq_graft c c.login⟩

theorem Confined.withLogin (h : Confined ps F) (hl : .login ∉ ps) (c : Console) (f : LoginForm) :
    F (c.withLogin f) = (F c).withLogin f := by
  have hgraft : (c.withLogin f).graft ps (F c) = (c.graft ps (F c)).withLogin f := by
    simp [graft, Console.withLogin, hl]
  rw [h.eq_graft, hgraft, ← (h.sameBut c).eq_graft]

/-! ### Commands -/

theorem graft_ite (c : Console) (ps : List Part) {q : Prop} [Decidable q] (x y : Console) :
    c.graft ps (if q then x else y) = if q then c.graft ps x else c.graft ps y :=
  apply_ite (c.graft ps) q x y

theorem confined_editDisplay {f : Display → Display} (h : ∀ d, f d = d.graft ps (f d))
    (hl : .login ∉ ps) : Confined ps (·.editDisplay f) where
  eq_graft c form := by simp [editDisplay, graft, withLogin, hl, ← h]

theorem confined_dismissError : Confined [.message] dismissError where
  eq_graft c f := by
    simp only [dismissError, graft_ite]
    refine ite_congr rfl (fun _ => ?_) fun _ => rfl
    exact (confined_editDisplay Display.dismiss_eq_graft (by decide)).eq_graft c f

/-- An error that is taken off the screen is of no matter to anything else. -/
theorem sameBut_dismissError (c : Console) : c.SameBut [.message] c.dismissError :=
  confined_dismissError.sameBut c

/-- The console without it, written out. -/
theorem dismissError_eq (c : Console) : ∃ redraw notification,
    c.dismissError = { c with display := { c.display with redraw, notification } } :=
  ⟨_, _, c.sameBut_dismissError.eq_graft⟩

theorem sameBut_expire (c : Console) : c.SameBut [.message] (c.editDisplay (·.expire.1)) :=
  (confined_editDisplay Display.expire_eq_graft (by decide)).sameBut c

theorem confined_tellOutcome (done : String) (o : Session.Outcome) :
    Confined [.message] (·.tellOutcome done o) where
  eq_graft c f := by cases o <;> rfl

theorem confined_stopCollection : Confined [.session, .message] (·.stopCollection.1) where
  eq_graft c f := by
    have hsession : (c.withLogin f).session = c.session := rfl
    simp only [stopCollection, hsession]
    cases (c.session.step .stop).outcome <;> rfl

theorem confined_reloadInventory : Confined [.message] (·.reloadInventory.1) where
  eq_graft c f := by
    simp only [reloadInventory, apply_ite Prod.fst, graft_ite]
    rfl

theorem confined_goToPage (n : Nat) : Confined [.query, .cursor] (·.goToPage n) where
  eq_graft c f := by
    simp only [goToPage, graft_ite]
    rfl

theorem confined_removeChip (label : String) :
    Confined [.query, .cursor] (·.removeChip label) where
  eq_graft c f := by
    simp only [removeChip, graft_ite]
    rfl

theorem confined_removeLastChip : Confined [.query, .cursor] removeLastChip where
  eq_graft c f := by
    simp only [removeLastChip, withLogin]
    split <;> rfl

theorem confined_cyclePageSize : Confined [.query, .cursor, .message] cyclePageSize where
  eq_graft c f := by
    simp only [cyclePageSize, withLogin]
    split <;> rfl

theorem confined_exportReport (x : ExportFormat) :
    Confined [.message] (·.exportReport x) where
  eq_graft c f := by
    simp only [exportReport, graft_ite]
    rfl

theorem confined_inspectDeeply : Confined [.message] inspectDeeply where
  eq_graft c f := by
    simp only [inspectDeeply, graft_ite]
    rfl

theorem confined_toggleCursorRow : Confined [.selection] (·.toggleCursorRow.1) where
  eq_graft c f := by
    have hrow : (c.withLogin f).cursorRecord? = c.cursorRecord? := rfl
    simp only [toggleCursorRow, hrow]
    cases c.cursorRecord? <;> rfl

theorem confined_toggleHelp : Confined [.mode, .overlay, .line] toggleHelp :=
  confined_editDisplay (fun d => by split <;> rfl) (by decide)

theorem confined_menuSelect : Confined [.query, .cursor, .overlay, .message] menuSelect where
  eq_graft c f := by
    simp only [menuSelect, withLogin]
    split
    · split <;> rfl
    · split <;> rfl
    · split
      · simp only [exportReport]
        split <;> rfl
      · rfl
    · rfl
    · rfl

theorem sameBut_submitLogin (c : Console) :
    c.SameBut [.login, .session, .message] c.submitLogin.1 := by
  simp only [submitLogin]
  -- the form is of no matter, and is not to be worked out here
  generalize c.login.submit = form
  split
  · exact ⟨rfl⟩
  · simp only [tellOutcome]
    split <;> split <;> exact ⟨rfl⟩

/-! ### Replies -/

theorem confined_sessionEvent (e : Session.Event) :
    Confined [.session, .message] (·.sessionEvent e |>.1) where
  eq_graft c f := by
    simp only [sessionEvent, graft_ite]
    rfl

theorem confined_takeInventory (result : Except Fault (List Vm)) :
    Confined [.inventory, .message] (·.takeInventory result) where
  eq_graft c f := by
    cases result with
    | error fault => rfl
    | ok batch =>
        simp only [takeInventory, withLogin]
        split <;> rfl

theorem confined_deliver (d : Delivery) :
    Confined (Action.deliver d).reach (·.deliver d |>.1) where
  eq_graft c f := by
    rcases d with ⟨g, fault | r⟩ | ⟨g, fault | r⟩ | ⟨g, fault | r⟩ | ⟨g, fault | r⟩ |
      ⟨g, result⟩ | fault | status
    case stopped.error =>
      have hevent := (confined_sessionEvent (.stopFailed g fault.userMessage)).eq_graft c f
      simp only [deliver, graft_ite, hevent]
      rfl
    case inventory =>
      simp only [deliver, graft_ite, (confined_takeInventory result).eq_graft c f]
      rfl
    case agent.error => rfl
    case agent.ok => rfl
    all_goals exact (confined_sessionEvent _).eq_graft c f

/-! ### All actions -/

/-- **An action that does not reach the login form does not look at it**, and
changes nothing but what it reaches. -/
theorem change_confined {a : Action} (ha : .login ∉ a.reach) :
    Confined a.reach fun c => (c.change a).1 where
  eq_graft c f := by
    cases a with
    | typeLogin | deleteLogin | nextField | prevField | submitLogin => simp [Action.reach] at ha
    | stopCollection => exact confined_stopCollection.eq_graft c f
    | reloadInventory => exact confined_reloadInventory.eq_graft c f
    | removeChip label => exact (confined_removeChip label).eq_graft c f
    | removeLastChip => exact confined_removeLastChip.eq_graft c f
    | nextPage | prevPage | firstPage | lastPage => exact (confined_goToPage _).eq_graft c f
    | cyclePageSize => exact confined_cyclePageSize.eq_graft c f
    | cursorUp => exact (confined_editDisplay Display.cursorUp_eq_graft (by decide)).eq_graft c f
    | cursorDown => exact (confined_editDisplay (·.cursorDown_eq_graft _) (by decide)).eq_graft c f
    | toggleRow => exact confined_toggleCursorRow.eq_graft c f
    | toggleHelp => exact confined_toggleHelp.eq_graft c f
    | menuUp => exact (confined_editDisplay Display.menuUp_eq_graft (by decide)).eq_graft c f
    | menuDown => exact (confined_editDisplay Display.menuDown_eq_graft (by decide)).eq_graft c f
    | menuSelect => exact confined_menuSelect.eq_graft c f
    | exportReport x => exact (confined_exportReport x).eq_graft c f
    | inspectDeeply => exact confined_inspectDeeply.eq_graft c f
    | deliver d => exact (confined_deliver d).eq_graft c f
    | _ => rfl

/-- **An action changes nothing but what it reaches.** -/
theorem change_reach (c : Console) (a : Action) : c.SameBut a.reach (c.change a).1 := by
  by_cases ha : .login ∈ a.reach
  · cases Action.ofForm_of_mem_reach ha with
    | type | delete | next | prev => exact ⟨rfl⟩
    | submit => simpa only [change, withEffects, Action.reach] using c.sameBut_submitLogin
  · exact (change_confined ha).sameBut c

/-- Bringing the shown rows up to date touches the page, the cursor and the
kept rows. -/
theorem agree_refresh (c : Console) (hp : p ∉ [Part.query, Part.cursor]) :
    c.Agree c.refresh.1 p := by
  simp only [refresh, clampPage, clampCursor]
  split <;> cases p <;> first | rfl | simp at hp

/-- Then the screen is marked to be drawn again. -/
theorem agree_refresh_marked (c : Console) (hp : p ∉ [Part.query, Part.cursor]) :
    c.Agree (c.refresh.1.editDisplay (·.requestRedraw .everything)) p := by
  have hmarks : c.refresh.1.SameBut [] (c.refresh.1.editDisplay (·.requestRedraw .everything)) :=
    ⟨rfl⟩
  exact (c.agree_refresh hp).trans (hmarks.agree List.not_mem_nil)

/-! ### Whole actions -/

theorem handle_of_change {a : Action} (hq : a ≠ .quit) (ht : a ≠ .tick) (hi : a ≠ .idle) :
    c.handle a =
      let r := (if a.isUsers then c.dismissError else c).change a
      (r.1.refresh.1.editDisplay (·.requestRedraw .everything), r.2) := by
  simp only [handle]

/-- What the user does is done once an error is off the screen. -/
theorem handle_of_users {a : Action} (hu : a.isUsers = true) (hq : a ≠ .quit) :
    c.handle a =
      let r := c.dismissError.change a
      (r.1.refresh.1.editDisplay (·.requestRedraw .everything), r.2) := by
  have ht : a ≠ .tick := fun h => by simp [h, Action.isUsers] at hu
  have hi : a ≠ .idle := fun h => by simp [h, Action.isUsers] at hu
  rw [handle_of_change hq ht hi, if_pos hu]

theorem agree_handle_of_users {a : Action} (hu : a.isUsers = true) (hq : a ≠ .quit) (c : Console)
    (hp : p ∉ [Part.query, Part.cursor]) : (c.dismissError.change a).1.Agree (c.handle a).1 p := by
  rw [handle_of_users hu hq]
  exact agree_refresh_marked _ hp

/-- An action on the form is the user's. -/
theorem handle_of_login_mem_reach {a : Action} (ha : .login ∈ a.reach) (c : Console) :
    c.handle a =
      let r := c.dismissError.change a
      (r.1.refresh.1.editDisplay (·.requestRedraw .everything), r.2) := by
  have hform := Action.ofForm_of_mem_reach ha
  exact handle_of_users (by cases hform <;> rfl) (by cases hform <;> simp)

/-- **What an action comes to.**  An error is taken off the screen at most; then
the change is made and the rows are brought up to date.  Three actions change
nothing, but for a message whose time is over. -/
theorem handle_cases (c : Console) (a : Action) :
    (a = .quit ∨ a = .tick ∨ a = .idle) ∧ c.SameBut [.message] (c.handle a).1 ∧
        (c.handle a).2.effects = [] ∨
      ∃ c₀, c.SameBut [.message] c₀ ∧
        c.handle a = ((c₀.change a).1.refresh.1.editDisplay (·.requestRedraw .everything),
          (c₀.change a).2) := by
  have hdismissed : c.SameBut [.message] (if a.isUsers then c.dismissError else c) := by
    split
    · exact c.sameBut_dismissError
    · exact .refl c _
  simp only [handle]
  split
  · exact .inl ⟨.inl rfl, hdismissed, rfl⟩
  · exact .inl ⟨.inr (.inl rfl), hdismissed.trans (sameBut_expire _), rfl⟩
  · exact .inl ⟨.inr (.inr rfl), hdismissed, rfl⟩
  · exact .inr ⟨_, hdismissed, rfl⟩

/-- What an action does not reach is the same afterwards, unless any action may
touch it. -/
theorem handle_agree (c : Console) (a : Action) (hp : p ∉ a.reach) (hv : p ∉ Part.volatile) :
    c.Agree (c.handle a).1 p := by
  have hmessage : p ∉ [Part.message] := fun h => hv (by simp_all [Part.volatile])
  have hrows : p ∉ [Part.query, Part.cursor] := fun h => hv (by simp_all [Part.volatile])
  obtain ⟨-, h, -⟩ | ⟨c₀, hc₀, h⟩ := c.handle_cases a
  · exact h.agree hmessage
  · have hchange : c₀.Agree (c₀.change a).1 p := (c₀.change_reach a).agree hp
    rw [h]
    exact ((hc₀.agree hmessage).trans hchange).trans (agree_refresh_marked _ hrows)

end Console

end VmAssessment
