/-
VmAssessment/Proofs/Console/Shown.lean

What the console shows, whatever has happened to it.  The rows on the screen
are worked out from a view that may be older than the inventory and the query;
page and cursor are moved by some forty actions.  One statement covers them
all (`Shown`): the view is sound and keeps the positions of the current query,
the page is one that there is, and the cursor is on it.

No action has to be looked at for this but the answer that brings an
inventory: an action leaves the view alone (`change_reach`), so the view is
sound before the rows are brought up to date, and `refresh` restores the rest
from soundness alone (`shown_refresh`).

Two results follow for every console that is reached.  Its rows are a page of
`orderedRows` (`Reached.rows_shown`); and a reply of another generation leaves
all of it as it was (`Reached.stale_reply_inert`), since bringing rows up to
date that are up to date changes nothing.
-/
import VmAssessment.Proofs.Console.SessionEvents
import VmAssessment.Proofs.Report.Caching
import VmAssessment.Screen.Frame

namespace VmAssessment

theorem Display.clampCursor_of_le {d : Display} {rows : Nat} (h : d.cursor ≤ rows - 1) :
    d.clampCursor rows = d := by
  rw [clampCursor, Nat.min_eq_left h]

theorem Query.setPage_val (q : Query) : q.setPage q.page.val = q := by
  have hpage : Number.Positive.ofNat q.page.val = q.page := by
    simp [Number.Positive.ofNat, Number.Positive.ofNat?, q.page.pos]
  rw [setPage, hpage]

namespace Console

open Report

variable {c c' : Console}

/-! ### Bringing rows up to date -/

theorem clampPage_eq (c : Console) :
    c.clampPage = { c with query := c.query.setPage (min c.query.page.val c.pageCount) } := by
  unfold clampPage
  split
  · rw [Nat.min_eq_right (by omega)]
  · rw [Nat.min_eq_left (by omega), Query.setPage_val]

/-- The view is worked out for the query, the page is one that there is, and
the cursor is put on it. -/
theorem refresh_eq (c : Console) :
    c.refresh.1 =
      let view := (c.view.refresh c.inventory c.query).1
      let query := c.query.setPage (min c.query.page.val (view.pageCount c.query))
      { c with
        view, query
        display := c.display.clampCursor (view.pageRows c.inventory query).length } := by
  have h : c.refresh.1
      = { c with view := (c.view.refresh c.inventory c.query).1 }.clampPage.clampCursor := rfl
  rw [h, clampPage_eq]
  rfl

/-- The view keeps the rows of the moment, the page is one that there is, and
the cursor is on it.  A view that was never worked out keeps no rows, and
there are none then. -/
structure Shown (c : Console) : Prop where
  sound : c.view.Sound c.inventory
  order : c.view.order = View.positions c.inventory.records c.query
  key : c.view.key ≠ none → c.view.fits c.inventory c.query = true
  page : c.query.page.val ≤ c.pageCount
  cursor : c.display.cursor ≤ c.pageRows.length - 1

theorem shown_start (table : TableSettings) : (start table).Shown where
  sound := View.sound_new _
  order := (List.eq_nil_of_length_eq_zero (View.length_positions [] _)).symm
  key h := absurd rfl h
  page := Report.pageCount_pos _ _
  cursor := Nat.zero_le _

/-- **Bringing the rows up to date shows them**, whatever the query has become,
if only the view is sound. -/
theorem shown_refresh (h : c.view.Sound c.inventory) : c.refresh.1.Shown := by
  have horder := h.order_refresh c.query
  rw [refresh_eq]
  refine ⟨h.refresh c.query, ?_, fun _ => ?_, ?_, Nat.min_le_right _ _⟩
  · -- another page is of the same basis
    exact horder.trans (positions_congr (n := 0) rfl _)
  · exact (View.fits_iff _ _ _).2 (View.key_refresh _ _ _)
  · refine (Number.Positive.ofNat_val _).trans_le ?_
    exact Nat.max_le.2 ⟨Nat.min_le_right _ _, Report.pageCount_pos _ _⟩

/-! ### Rows that are up to date -/

theorem Shown.order_refresh (h : c.Shown) :
    (c.view.refresh c.inventory c.query).1.order = c.view.order :=
  (h.sound.order_refresh c.query).trans h.order.symm

theorem Shown.pageCount_refresh (h : c.Shown) :
    (c.view.refresh c.inventory c.query).1.pageCount c.query = c.pageCount := by
  rw [View.pageCount, View.size, h.order_refresh]
  rfl

theorem Shown.pageRows_refresh (h : c.Shown) :
    (c.view.refresh c.inventory c.query).1.pageRows c.inventory c.query = c.pageRows := by
  rw [View.pageRows, h.order_refresh]
  rfl

/-- The page need not be put back among those there are. -/
theorem Shown.setPage_min (h : c.Shown) :
    c.query.setPage (min c.query.page.val c.pageCount) = c.query := by
  rw [Nat.min_eq_left h.page, Query.setPage_val]

/-- Rows that are up to date are brought up to date by nothing. -/
theorem Shown.refresh (h : c.Shown) : ∃ view, c.refresh.1 = { c with view } ∧
    view.order = c.view.order ∧ (c.view.key ≠ none → view = c.view) := by
  refine ⟨(c.view.refresh c.inventory c.query).1, ?_, h.order_refresh, fun hk => ?_⟩
  · simp only [refresh_eq, h.pageCount_refresh, h.setPage_min, h.pageRows_refresh,
      Display.clampCursor_of_le h.cursor]
  · rw [View.refresh_of_fits (h.key hk)]

/-! ### What is shown -/

theorem Shown.pageRows_eq (h : c.Shown) : c.pageRows
    = paginate (orderedRows c.inventory.records c.query) c.query.page.val c.query.pageSize.val :=
  View.pageRows_eq h.order

theorem Shown.size_eq (h : c.Shown) :
    c.view.size = (matching id c.query c.inventory.records).length := by
  rw [View.size, h.order, View.length_positions]

/-- While there are rows, none of the pages is empty. -/
theorem Shown.pageRows_ne_nil (h : c.Shown)
    (hword : c.inventory.records.length < Number.wordLimit)
    (hmatch : matching id c.query c.inventory.records ≠ []) : c.pageRows ≠ [] := by
  have hlen := length_orderedRows c.inventory.records c.query
  have hfew : (matching id c.query c.inventory.records).length ≤ c.inventory.records.length :=
    (matching_sublist id c.query c.inventory.records).length_le
  rw [h.pageRows_eq]
  refine paginate_ne_nil ?_ ?_ c.query.pageSize.pos ?_
  · exact List.ne_nil_of_length_pos (hlen ▸ List.length_pos_iff.2 hmatch)
  · rw [hlen, maxWord]
    omega
  · rw [hlen, ← h.size_eq]
    exact h.page

/-! ### What keeps the rows shown -/

/-- The display is of no matter, but for the cursor. -/
theorem Shown.setDisplay (h : c.Shown) {d : Display} (hd : d.cursor = c.display.cursor) :
    { c with display := d }.Shown :=
  ⟨h.sound, h.order, h.key, h.page, hd.trans_le h.cursor⟩

/-- So is the message. -/
theorem Shown.of_sameBut_message (h : c.Shown) (hm : c.SameBut [.message] c') : c'.Shown := by
  rw [hm.eq_graft]
  exact h.setDisplay rfl

theorem Shown.dismissError (h : c.Shown) : c.dismissError.Shown :=
  h.of_sameBut_message c.sameBut_dismissError

/-- The session is of no matter. -/
theorem Shown.attach (h : c.Shown) : c.attach.1.Shown :=
  ⟨h.sound, h.order, h.key, h.page, h.cursor⟩

/-- A batch that is taken or refused, or the failure to get one, makes no view
unsound. -/
theorem sound_takeInventory {view : View} (h : view.Sound c.inventory)
    (result : Except Fault (List Vm)) : view.Sound (c.takeInventory result).inventory := by
  cases result with
  | error fault => exact h.of_same rfl rfl
  | ok batch =>
      have hbatch : (c.takeInventory (.ok batch)).inventory = (c.inventory.replace batch).1 := by
        simp only [takeInventory]
        split <;> rfl
      rw [hbatch]
      exact h.replace batch

/-- **An action leaves the view sound.**  It leaves the view as it is, and only
an answer can bring another inventory. -/
theorem sound_change (h : c.view.Sound c.inventory) (a : Action) :
    (c.change a).1.view.Sound (c.change a).1.inventory := by
  rw [(c.change_reach a).view]
  by_cases hr : .inventory ∈ a.reach
  · obtain ⟨g, result, rfl⟩ := Action.inventory_mem_reach hr
    simp only [change, withEffects, deliver]
    split
    · exact sound_takeInventory h result
    · exact h
  · have hinventory : (c.change a).1.inventory = c.inventory := (c.change_reach a).agree hr
    rw [hinventory]
    exact h

theorem Shown.handle (h : c.Shown) (a : Action) : (c.handle a).1.Shown := by
  obtain ⟨-, hsame, -⟩ | ⟨c₀, hc₀, hhandle⟩ := c.handle_cases a
  · exact h.of_sameBut_message hsame
  · rw [hhandle]
    exact (shown_refresh (sound_change (h.of_sameBut_message hc₀).sound a)).setDisplay rfl

/-! ### Consoles that are reached -/

/-- What the console can come to: it may ask for the agent's status at its
start, anything can happen to it in any order, replies of every kind and tag
included, time passes for its message, and frames are drawn. -/
inductive Reached (table : TableSettings) : Console → Prop
  | start : Reached table (.start table)
  | attach {c : Console} : Reached table c → Reached table c.attach.1
  | handle {c : Console} (a : Action) : Reached table c → Reached table (c.handle a).1
  | elapse {c : Console} (ms : Nat) :
      Reached table c → Reached table (c.editDisplay (·.elapse ms))
  | draw {c : Console} : Reached table c → Reached table c.drawn

namespace Reached

variable {table : TableSettings}

theorem shown (h : Reached table c) : c.Shown := by
  induction h with
  | start => exact shown_start table
  | attach _ ih => exact ih.attach
  | handle a _ ih => exact ih.handle a
  | elapse ms _ ih => exact ih.setDisplay rfl
  | draw _ ih => exact ih.setDisplay rfl

/-- **The rows on the screen are a page of the rows of the query.**  The page is
one of those there are, of which there are as many as the matching machines
take.  It is not empty if any machine matches; machines are counted by a
machine word.  The cursor is on the page, and at its top if it is empty. -/
theorem rows_shown (h : Reached table c) :
    let q := c.query
    let records := c.inventory.records
    c.pageRows = paginate (orderedRows records q) q.page.val q.pageSize.val ∧
      1 ≤ q.page.val ∧ q.page.val ≤ c.pageCount ∧
      c.pageCount = max 1 ((matching id q records).length ⌈/⌉ q.pageSize.val) ∧
      (records.length < Number.wordLimit →
        (∃ vm ∈ records, (Criteria.of q).admits vm = true) → c.pageRows ≠ []) ∧
      (c.pageRows = [] → c.display.cursor = 0) ∧
      (c.pageRows ≠ [] → c.display.cursor < c.pageRows.length) := by
  intro q records
  have hs := h.shown
  have hcursor := hs.cursor
  refine ⟨hs.pageRows_eq, q.page.pos, hs.page, ?_, fun hword hsome => ?_, fun hnil => ?_,
    fun hne => ?_⟩
  · rw [← hs.size_eq]
    exact pageCount_eq _ q.pageSize.pos
  · obtain ⟨vm, hvm, hadmits⟩ := hsome
    have hmatch : vm ∈ matching id q records := mem_matching.2 ⟨hvm, hadmits⟩
    exact hs.pageRows_ne_nil hword (List.ne_nil_of_mem hmatch)
  · rw [hnil] at hcursor
    exact Nat.le_zero.1 hcursor
  · have hpos := List.length_pos_iff.2 hne
    omega

/-- A status is asked for while the cursor is on the second of two machines:
the first machine alone matches, and the cursor is on it. -/
theorem rows_shown_after_filter :
    let batch : List Vm :=
      [{ (default : Vm) with id := "vm-1", status := .notMigratable },
        { (default : Vm) with id := "vm-2", status := .migratable }]
    let loaded := ((Console.start {}).handle (.deliver (.inventory {} (.ok batch)))).1
    let c := ((loaded.handle .cursorDown).1.handle (.toggleStatus .notMigratable)).1
    Reached {} c ∧ c.inventory.records.length < Number.wordLimit ∧
      (∃ vm ∈ c.inventory.records, (Criteria.of c.query).admits vm = true) ∧
      c.pageRows ≠ [] ∧ c.display.cursor < c.pageRows.length := by
  intro batch loaded c
  have hreached : Reached {} c := ((Reached.start.handle _).handle _).handle _
  have hword : c.inventory.records.length < Number.wordLimit := by decide +kernel
  have hsome : ∃ vm ∈ c.inventory.records, (Criteria.of c.query).admits vm = true := by
    decide +kernel
  obtain ⟨-, -, -, -, hfull, -, hcursor⟩ := rows_shown hreached
  have hne := hfull hword hsome
  exact ⟨hreached, hword, hsome, hne, hcursor hne⟩

/-- **A reply of another generation is inert**, whatever it says: it leaves
nothing to do, and of the console only the screen is to be drawn again.  If the
rows were never worked out before, they are now, and they are the same. -/
theorem stale_reply_inert (h : Reached table c) {d : Delivery} {g : Generation}
    (ht : d.tag? = some g) (hg : g ≠ c.session.generation) :
    ∃ view, c.handle (.deliver d)
        = ({ c with view, display := c.display.requestRedraw .everything }, {}) ∧
      view.order = c.view.order ∧ (c.view.key ≠ none → view = c.view) ∧
      (c.handle (.deliver d)).1.pageRows = c.pageRows := by
  obtain ⟨view, hrefresh, horder, hview⟩ := h.shown.refresh
  have hhandle : c.handle (.deliver d)
      = ({ c with view, display := c.display.requestRedraw .everything }, {}) := by
    rw [handle_of_stale ht hg, hrefresh]
    rfl
  refine ⟨view, hhandle, horder, hview, ?_⟩
  rw [hhandle, pageRows, View.pageRows, horder]
  rfl

/-- A collection that a poll could not follow is stopped before the poll's
failure arrives: no error is shown. -/
theorem late_poll_inert :
    let report : StatusReport := { phase := .collecting }
    let c := (((Console.start {}).handle (.deliver (.synced {} (.ok report)))).1.handle
      .stopCollection).1
    let d : Delivery := .polled {} (.error (.network "timeout"))
    Reached {} c ∧ d.tag? = some {} ∧ {} ≠ c.session.generation ∧
      ∃ view, c.handle (.deliver d)
          = ({ c with view, display := c.display.requestRedraw .everything }, {}) ∧
        view.order = c.view.order ∧ (c.view.key ≠ none → view = c.view) ∧
        (c.handle (.deliver d)).1.pageRows = c.pageRows := by
  intro report c d
  have hreached : Reached {} c := (Reached.start.handle _).handle _
  have hstale : {} ≠ c.session.generation := by decide +kernel
  exact ⟨hreached, rfl, hstale, stale_reply_inert hreached rfl hstale⟩

end Reached

end Console

end VmAssessment
