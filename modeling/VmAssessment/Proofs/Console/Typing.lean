/-
VmAssessment/Proofs/Console/Typing.lean

The search text between the keyboard and the table.  Nearly every letter is a
command on the report; while a search text is typed, none is, since each key
leaves the console where it takes the next one in the same way.

Four actions have to do with the search text.  What they make of it and of the
mode is said beside the console (`Action.textAfter`, `Action.modeAfter`), and
that they change nothing else that is not shown is said once for all of them
(`Edited.handle`).  From it follows what a key does (`Edited.takes_key`), and
what all keys do together (`Edited.takes_strokes`).
-/
import VmAssessment.Proofs.Console.Filling

namespace VmAssessment

/-! ### Keys -/

/-- The keys that edit a search text. -/
inductive Stroke
  | char (ch : Char)
  | backspace
deriving DecidableEq, Repr

namespace Stroke

/-- The key is pressed, with nothing held down beside it. -/
def event : Stroke → TerminalEvent
  | .char ch => .pressed (.ofChar ch)
  | .backspace => .pressed { code := .backspace }

/-- What the key means while a search text is typed. -/
def action : Stroke → Action
  | .char ch => .typeSearch ch
  | .backspace => .deleteSearch

/-- What the key makes of a text: a character is added to it, or its last one
dropped, if there is one. -/
def edit (text : List Char) : Stroke → List Char
  | .char ch => text ++ [ch]
  | .backspace => text.dropLast

end Stroke

/-- The key that starts a search on the report. -/
def TerminalEvent.slash : TerminalEvent := .pressed (.ofChar '/')

/-- While a search text is typed, a character is that character. -/
theorem KeyContext.action_stroke (s : Stroke) :
    (⟨.report, .search, .none⟩ : KeyContext).action s.event = s.action := by
  cases s with
  | char ch => simp [Stroke.event, Stroke.action, action, keyAction, Key.ofChar, Key.onSearch]
  | backspace => rfl

/-! ### Actions -/

namespace Action

/-- The actions that have to do with the search text. -/
inductive OfSearch : Action → Prop
  | enter : OfSearch .enterSearch
  | type (ch : Char) : OfSearch (.typeSearch ch)
  | delete : OfSearch .deleteSearch
  | leave : OfSearch .leaveSearch

/-- Where typed characters go after such an action. -/
def modeAfter (mode : InputMode) : Action → InputMode
  | .enterSearch => .search
  | .leaveSearch => .browse
  | _ => mode

/-- The search text after such an action. -/
def textAfter (text : List Char) : Action → List Char
  | .typeSearch ch => text ++ [ch]
  | .deleteSearch => text.dropLast
  | _ => text

theorem OfSearch.not_mem_reach {a : Action} (ha : a.OfSearch) {p : Part}
    (hp : p ∉ .mode :: Part.volatile) : p ∉ a.reach := by
  cases ha <;> simp_all [reach, Part.volatile]

end Action

theorem Stroke.ofSearch_action (s : Stroke) : s.action.OfSearch := by
  cases s with
  | char ch => exact .type ch
  | backspace => exact .delete

theorem Stroke.textAfter_action (s : Stroke) (text : List Char) :
    s.action.textAfter text = s.edit text := by
  cases s <;> rfl

namespace Query

theorem toList_search_pushSearch (q : Query) (ch : Char) :
    (q.pushSearch ch).search.toList = q.search.toList ++ [ch] := String.toList_push ch

theorem toList_search_popSearch (q : Query) :
    q.popSearch.search.toList = q.search.toList.dropLast := by
  unfold popSearch
  split
  · have hnil : q.search.toList = [] := by simpa using ‹q.search.isEmpty = true›
    rw [hnil, List.dropLast_nil]
  · exact String.toList_ofList

end Query

namespace Console

variable {c c' : Console} {a : Action} {mode mode' : InputMode} {text text' : List Char}
  {es es' : List TerminalEvent} {as as' : List Action}

/-! ### Consoles whose search text is edited -/

/-- A console of which the search text is edited.  The filter, the order and the
page size stay, and so does all that is neither asked for nor shown. -/
structure Edited (c : Console) (mode : InputMode) (text : List Char) (c' : Console) : Prop where
  mode : c'.display.mode = mode
  text : c'.query.search.toList = text
  query : c'.query.setSearch "" = c.query.setSearch ""
  agree : ∀ p ∉ .mode :: Part.volatile, c.Agree c' p

theorem edited_self (c : Console) : c.Edited c.display.mode c.query.search.toList c :=
  ⟨rfl, rfl, rfl, fun p _ => .refl c p⟩

theorem Edited.screen (h : c.Edited mode text c') : c'.screen = c.screen :=
  screen_congr (h.agree .session (by decide)) (h.agree .inventory (by decide))

theorem Edited.keyContext (h : c.Edited mode text c') :
    c'.keyContext = ⟨c.screen, mode, c.display.overlay⟩ := by
  have hoverlay : c'.display.overlay = c.display.overlay := h.agree .overlay (by decide)
  rw [Console.keyContext, h.screen, h.mode, hoverlay]

/-- What such an action changes, before the rows are brought up to date. -/
theorem change_ofSearch (ha : a.OfSearch) (c : Console) :
    (c.change a).2 = {} ∧ (c.change a).1.display.mode = a.modeAfter c.display.mode ∧
      (c.change a).1.query.search.toList = a.textAfter c.query.search.toList ∧
      (c.change a).1.query.setSearch "" = c.query.setSearch "" := by
  cases ha with
  | enter | leave => exact ⟨rfl, rfl, rfl, rfl⟩
  | type ch => exact ⟨rfl, rfl, c.query.toList_search_pushSearch ch, rfl⟩
  | delete =>
      refine ⟨rfl, rfl, c.query.toList_search_popSearch, ?_⟩
      show c.query.popSearch.setSearch "" = c.query.setSearch ""
      unfold Query.popSearch
      split <;> rfl

/-- **An action of the search edits the search text.** -/
theorem Edited.handle (h : c.Edited mode text c') (ha : a.OfSearch) :
    c.Edited (a.modeAfter mode) (a.textAfter text) (c'.handle a).1 ∧ (c'.handle a).2 = {} := by
  have hhandle : c'.handle a = ((c'.dismissError.change a).1.refresh.1.editDisplay
      (·.requestRedraw .everything), (c'.dismissError.change a).2) :=
    handle_of_users (by cases ha <;> rfl) (by cases ha <;> simp)
  -- an error may be taken off the screen before, neither mode nor query is touched by it
  have hkept : c'.dismissError.display.mode = c'.display.mode :=
    c'.sameBut_dismissError.agree (p := .mode) (by decide)
  have hquery : c'.dismissError.query = c'.query :=
    c'.sameBut_dismissError.agree (p := .query) (by decide)
  obtain ⟨hnone, hmode, htext, hsame⟩ := change_ofSearch ha c'.dismissError
  rw [hkept, h.mode] at hmode
  rw [hquery, h.text] at htext
  rw [hquery, h.query] at hsame
  refine ⟨?_, by rw [hhandle, hnone]⟩
  constructor
  · rw [hhandle, refresh_eq]
    exact hmode
  · rw [hhandle, refresh_eq]
    exact htext
  · -- settling the page is of no matter
    rw [hhandle, refresh_eq]
    exact hsame
  · intro p hp
    have hv : p ∉ Part.volatile := fun h => hp (List.mem_cons_of_mem _ h)
    exact (h.agree p hp).trans (c'.handle_agree a (ha.not_mem_reach hp) hv)

/-! ### Keys that edit it -/

/-- What each of several events means when it comes. -/
def meanings (c : Console) : List TerminalEvent → List Action
  | [] => []
  | e :: es => c.keyContext.action e :: (c.react e).1.meanings es

theorem meanings_append (c : Console) (es es' : List TerminalEvent) :
    c.meanings (es ++ es') = c.meanings es ++ (c.reactAll es).1.meanings es' := by
  induction es generalizing c with
  | nil => rfl
  | cons e es ih => simp [meanings, reactAll, ih]

/-- A console whose search text is edited takes events as these actions, and
they go on editing the text and leave nothing to do. -/
structure Takes (c c' : Console) (es : List TerminalEvent) (as : List Action)
    (mode : InputMode) (text : List Char) : Prop where
  actions : c'.meanings es = as
  followups : ∀ x ∈ (c'.reactAll es).2, x = {}
  edited : c.Edited mode text (c'.reactAll es).1

theorem Edited.takes_nil (h : c.Edited mode text c') : c.Takes c' [] [] mode text :=
  ⟨rfl, by simp [reactAll], h⟩

theorem Takes.append (h : c.Takes c' es as mode text)
    (h' : c.Takes (c'.reactAll es).1 es' as' mode' text') :
    c.Takes c' (es ++ es') (as ++ as') mode' text' := by
  constructor
  · rw [meanings_append, h.actions, h'.actions]
  · rw [reactAll_append]
    intro x hx
    exact (List.mem_append.1 hx).elim (h.followups x) (h'.followups x)
  · rw [reactAll_append]
    exact h'.edited

theorem Edited.takes_key (h : c.Edited mode text c') (ha : a.OfSearch) {e : TerminalEvent}
    (he : (⟨c.screen, mode, c.display.overlay⟩ : KeyContext).action e = a) :
    c.Takes c' [e] [a] (a.modeAfter mode) (a.textAfter text) := by
  have hmeans : c'.keyContext.action e = a := by rw [h.keyContext, he]
  have hreact : c'.react e = c'.handle a := congrArg c'.handle hmeans
  obtain ⟨hedited, hnone⟩ := h.handle ha
  constructor
  · rw [meanings, meanings, hmeans]
  · simp [reactAll, hreact, hnone]
  · simpa only [reactAll, hreact] using hedited

/-- **What is typed into the search text is in it**, whatever the keys mean
elsewhere. -/
theorem Edited.takes_strokes (hscreen : c.screen = .report) (hoverlay : c.display.overlay = .none)
    (h : c.Edited .search text c') (strokes : List Stroke) :
    c.Takes c' (strokes.map Stroke.event) (strokes.map Stroke.action) .search
      (strokes.foldl Stroke.edit text) := by
  induction strokes generalizing c' text with
  | nil => exact h.takes_nil
  | cons s strokes ih =>
      -- no stroke leaves the mode, so the next one means what this one means
      have hmode : s.action.modeAfter .search = .search := by cases s <;> rfl
      have hkey := h.takes_key s.ofSearch_action (e := s.event)
        (by rw [hscreen, hoverlay, KeyContext.action_stroke])
      rw [hmode, s.textAfter_action] at hkey
      exact hkey.append (ih hkey.edited)

/-- **A search takes everything that is typed.**  On the report, while the table
is browsed and nothing lies over it, a search is started, characters are typed
and taken back in any order, and the search is left.  Each character is then
added to the search text and each backspace drops its last one, if there is one;
no key is a command.  The table is browsed again, nothing is left to do, and
session, inventory, selection, filter, order and page size are as they were. -/
theorem search_takes_all_typed (hscreen : c.screen = .report)
    (hmode : c.display.mode = .browse) (hoverlay : c.display.overlay = .none)
    (strokes : List Stroke) :
    let events := .slash :: strokes.map Stroke.event ++ [.pressed .escape]
    let r := c.reactAll events
    c.meanings events = .enterSearch :: strokes.map Stroke.action ++ [.leaveSearch] ∧
      (∀ x ∈ r.2, x = {}) ∧
      r.1.query.search.toList = strokes.foldl Stroke.edit c.query.search.toList ∧
      r.1.screen = .report ∧ r.1.display.mode = .browse ∧ r.1.display.overlay = .none ∧
      r.1.session = c.session ∧ r.1.inventory = c.inventory ∧ r.1.selection = c.selection ∧
      r.1.agent = c.agent ∧ r.1.login = c.login ∧
      r.1.query.statuses = c.query.statuses ∧ r.1.query.column = c.query.column ∧
      r.1.query.direction = c.query.direction ∧ r.1.query.pageSize = c.query.pageSize := by
  intro events r
  have hslash := c.edited_self.takes_key .enter (e := .slash)
    (by rw [hscreen, hmode, hoverlay]; rfl)
  have hstrokes := hslash.append (hslash.edited.takes_strokes hscreen hoverlay strokes)
  have hescape := hstrokes.edited.takes_key .leave (e := .pressed .escape)
    (by rw [hscreen, hoverlay]; rfl)
  have htakes : c.Takes c events (.enterSearch :: strokes.map Stroke.action ++ [.leaveSearch])
      .browse (strokes.foldl Stroke.edit c.query.search.toList) := hstrokes.append hescape
  have hedited : c.Edited .browse _ r.1 := htakes.edited
  have hagree := hedited.agree
  obtain ⟨hstatuses, hcolumn, hdirection, hsize⟩ : r.1.query.statuses = c.query.statuses ∧
      r.1.query.column = c.query.column ∧ r.1.query.direction = c.query.direction ∧
      r.1.query.pageSize = c.query.pageSize := by
    simpa [Query.setSearch, Query.resetPage] using hedited.query
  exact ⟨htakes.actions, htakes.followups, hedited.text, hedited.screen.trans hscreen,
    hedited.mode, Eq.trans (hagree .overlay (by decide)) hoverlay, hagree .session (by decide),
    hagree .inventory (by decide), hagree .selection (by decide), hagree .agent (by decide),
    hagree .login (by decide), hstatuses, hcolumn, hdirection, hsize⟩

/-- Letters that elsewhere leave the program, stop the collection and start a
search, on a report on no machines. -/
theorem shortcuts_searched_for :
    let report := ((Console.start {}).handle
      (.deliver (.synced {} (.ok { phase := .collected })))).1
    let c := (report.handle (.deliver (.inventory {} (.ok [])))).1
    let strokes : List Stroke := [.backspace, .char 'q', .char 'S', .backspace, .char '/']
    let r := c.reactAll (.slash :: strokes.map Stroke.event ++ [.pressed .escape])
    Reached {} c ∧ c.screen = .report ∧ c.display.mode = .browse ∧ c.display.overlay = .none ∧
      (∀ x ∈ r.2, x = {}) ∧ r.1.query.search.toList = ['q', '/'] ∧ r.1.screen = .report ∧
      r.1.display.mode = .browse ∧ r.1.session = c.session := by
  intro report c strokes r
  have hreached : Reached {} c := (Reached.start.handle _).handle _
  have hscreen : c.screen = .report := by decide +kernel
  have hmode : c.display.mode = .browse := by decide +kernel
  have hoverlay : c.display.overlay = .none := by decide +kernel
  have hempty : c.query.search.toList = [] := by decide +kernel
  obtain ⟨-, hnone, htext, hreport, hbrowse, -, hsession, -⟩ :=
    search_takes_all_typed hscreen hmode hoverlay strokes
  rw [hempty] at htext
  exact ⟨hreached, hscreen, hmode, hoverlay, hnone, htext, hreport, hbrowse, hsession⟩

end Console

end VmAssessment
