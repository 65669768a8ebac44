/-
VmAssessment/Proofs/Console/Spots.lean

Where the user is in the report: the query with its page, and the row under
the cursor.  Bringing the shown rows up to date settles the spot, that is, it
puts page and cursor on what there is (`spot_refresh`); how far, depends on
the number of matching machines only.

The edits of the query come in two kinds (`edit_cases`).  Most go home, to the
first row of the first page, wherever they started.  The rest keep the number
of matching machines, and it is the same whether the spot is settled before
them or after.
-/
import VmAssessment.Proofs.Console.Shown

namespace VmAssessment

open Number (Positive)
open Report (matching pageCount pageLength)

/-- The query with its page, and the row under the cursor. -/
structure Spot where
  query : Query
  cursor : Nat
deriving DecidableEq, Repr

/-- The edits of the query that keep to the report: search text, statuses, sort
column and page size. -/
inductive Action.IsViewEdit : Action → Prop
  | typeSearch (ch : Char) : IsViewEdit (.typeSearch ch)
  | deleteSearch : IsViewEdit .deleteSearch
  | clearSearch : IsViewEdit .clearSearch
  | toggleStatus (status : VmStatus) : IsViewEdit (.toggleStatus status)
  | removeChip (label : String) : IsViewEdit (.removeChip label)
  | removeLastChip : IsViewEdit .removeLastChip
  | removeAllChips : IsViewEdit .removeAllChips
  | sortBy (column : Column) : IsViewEdit (.sortBy column)
  | cyclePageSize : IsViewEdit .cyclePageSize

namespace Action.IsViewEdit

variable {a : Action}

theorem isUsers (ha : a.IsViewEdit) : a.isUsers = true := by
  cases ha <;> rfl

theorem ne_quit (ha : a.IsViewEdit) : a ≠ .quit := by
  cases ha <;> exact nofun

/-- An edit reaches no more than any action may touch. -/
theorem not_mem_reach (ha : a.IsViewEdit) {p : Part} (hv : p ∉ Part.volatile) : p ∉ a.reach := by
  cases ha <;> simp_all [reach, Part.volatile]

end Action.IsViewEdit

namespace Spot

variable {s : Spot} {records : List Vm}

/-- The first row of the first page. -/
def IsHome (s : Spot) : Prop := s.query.page = .one ∧ s.cursor = 0

/-- The spot with page and cursor on what there is. -/
def settle (s : Spot) (records : List Vm) : Spot :=
  let count := (matching id s.query records).length
  let query := s.query.setPage (min s.query.page.val (pageCount count s.query.pageSize.val))
  ⟨query, min s.cursor (pageLength count query.page.val query.pageSize.val - 1)⟩

/-- A settled page is one that there is. -/
theorem page_settle (s : Spot) (records : List Vm) :
    (s.settle records).query.page.val
      = min s.query.page.val
          (pageCount (matching id s.query records).length s.query.pageSize.val) := by
  have hpage := s.query.page.pos
  have hcount := Report.pageCount_pos (matching id s.query records).length s.query.pageSize.val
  simp only [settle, Query.setPage, Positive.ofNat_val]
  omega

theorem IsHome.settle (h : s.IsHome) (records : List Vm) : s.settle records = s := by
  have hquery : (s.settle records).query = s.query := by
    -- there is always a first page
    have hcount := Report.pageCount_pos (matching id s.query records).length s.query.pageSize.val
    simp only [Spot.settle]
    rw [h.1, Nat.min_eq_left (by exact hcount), ← h.1, Query.setPage_val]
  have hcursor : (s.settle records).cursor = s.cursor := by
    simp only [Spot.settle, h.2, Nat.zero_min]
  exact congrArg₂ Spot.mk hquery hcursor

/-- A spot is settled once. -/
theorem settle_settle (s : Spot) (records : List Vm) :
    (s.settle records).settle records = s.settle records := by
  have hquery : ((s.settle records).settle records).query = (s.settle records).query := by
    have hpage := page_settle s records
    have hle : (s.settle records).query.page.val
        ≤ pageCount (matching id s.query records).length s.query.pageSize.val := by
      rw [hpage]
      exact Nat.min_le_right _ _
    -- settling keeps filters and page size, so there are as many pages as before
    have hagain : ((s.settle records).settle records).query
        = (s.settle records).query.setPage (min (s.settle records).query.page.val
            (pageCount (matching id s.query records).length s.query.pageSize.val)) := rfl
    rw [hagain, Nat.min_eq_left hle, Query.setPage_val]
  have hcursor : ((s.settle records).settle records).cursor = (s.settle records).cursor := by
    have hagain : ((s.settle records).settle records).cursor
        = min (s.settle records).cursor
            (pageLength (matching id s.query records).length
              ((s.settle records).settle records).query.page.val s.query.pageSize.val - 1) := rfl
    rw [hagain, hquery]
    exact Nat.min_eq_left (Nat.min_le_right _ _)
  exact congrArg₂ Spot.mk hquery hcursor

/-- The spot after an edit of the query. -/
def edit (table : TableSettings) (s : Spot) : Action → Spot
  | .typeSearch ch => ⟨s.query.pushSearch ch, 0⟩
  | .deleteSearch => ⟨s.query.popSearch, 0⟩
  | .clearSearch => ⟨s.query.setSearch "", 0⟩
  | .toggleStatus status => ⟨s.query.toggleStatus status, 0⟩
  | .removeChip label =>
    if (s.query.deleteChip label).2 then ⟨(s.query.deleteChip label).1, 0⟩ else s
  | .removeLastChip =>
    match s.query.chips.getLast? with
    | some chip => ⟨(s.query.deleteChip chip.label).1, 0⟩
    | none => s
  | .removeAllChips => ⟨s.query.deleteChips, 0⟩
  | .sortBy column => ⟨s.query.toggleSort column, s.cursor⟩
  | .cyclePageSize =>
    match Positive.ofNat? (table.nextPageSize (.ofNat s.query.pageSize.val)).toNat with
    | some size => ⟨s.query.setPageSize size, 0⟩
    | none => s
  | _ => s

/-- What a change of the spot is to its page and cursor: it goes home from
wherever they are, or it is the same before they are settled and after. -/
inductive Follows (f : Spot → Spot) (s : Spot) : Prop
  | home (hhome : (f s).IsHome) (hfrom : ∀ page cursor, f ⟨s.query.setPage page, cursor⟩ = f s)
  | keep (hkeep : ∀ records, f (s.settle records) = (f s).settle records)

/-- What an edit of a query is to its page: it goes back to the first one from
whatever page, or it leaves the query as it is. -/
inductive Returns (f : Query → Query) (q : Query) : Prop
  | first (p : Query) (hone : p.page = .one) (hfrom : ∀ page, f (q.setPage page) = p)
  | same (hsame : ∀ page, f (q.setPage page) = q.setPage page)

/-- An edit of the query goes home if it goes back to the first page, and the
cursor with it. -/
theorem Returns.follows {f : Query → Query} (h : Returns f s.query) :
    Follows (fun s => ⟨f s.query, 0⟩) s := by
  have hself : s.query.setPage s.query.page.val = s.query := Query.setPage_val s.query
  cases h with
  | first p hone hfrom =>
      have hp : f s.query = p := hself ▸ hfrom s.query.page.val
      refine .home ⟨?_, rfl⟩ fun page _ => ?_
      · exact (congrArg Query.page hp).trans hone
      · exact congrArg (Spot.mk · 0) ((hfrom page).trans hp.symm)
  | same hsame =>
      have hq : f s.query = s.query := hself ▸ hsame s.query.page.val
      refine .keep fun records => ?_
      have hsettled : f (s.settle records).query = (s.settle records).query := hsame _
      simp only [hq, hsettled]
      simp [settle]

theorem returns_popSearch (q : Query) : Returns Query.popSearch q := by
  by_cases he : q.search.isEmpty = true
  · exact .same fun page => if_pos he
  · exact .first (q.setSearch (String.ofList q.search.toList.dropLast)) rfl fun page => if_neg he

/-- Removing a chip goes back to the first page, or there is no such chip. -/
theorem deleteChip_cases (q : Query) (label : String) :
    (∃ p : Query, p.page = .one ∧ ∀ page, (q.setPage page).deleteChip label = (p, true)) ∨
      ∀ page, (q.setPage page).deleteChip label = (q.setPage page, false) := by
  cases hs : VmStatus.ofLabel? label with
  | none => exact .inr fun page => by simp only [Query.deleteChip, hs]
  | some status =>
      simp only [Query.deleteChip, hs]
      by_cases hc : q.statuses.contains status = true
      · refine .inl ⟨{ q with statuses := q.statuses.erase status, page := .one }, rfl, ?_⟩
        exact fun page => if_pos hc
      · exact .inr fun page => if_neg hc

theorem returns_deleteChip (q : Query) (label : String) :
    Returns (fun q => (q.deleteChip label).1) q := by
  rcases deleteChip_cases q label with ⟨p, hone, hp⟩ | hnone
  · exact .first p hone fun page => congrArg Prod.fst (hp page)
  · exact .same fun page => congrArg Prod.fst (hnone page)

theorem follows_removeChip (table : TableSettings) (s : Spot) (label : String) :
    Follows (fun s => s.edit table (.removeChip label)) s := by
  have hself : s.query.setPage s.query.page.val = s.query := Query.setPage_val s.query
  rcases deleteChip_cases s.query label with ⟨p, hone, hp⟩ | hnone
  · have hs : s.query.deleteChip label = (p, true) := hself ▸ hp s.query.page.val
    refine .home ?_ fun page cursor => ?_
    · simp only [edit, hs, if_true]
      exact ⟨hone, rfl⟩
    · simp only [edit, hs, hp page, if_true]
  · have hs : s.query.deleteChip label = (s.query, false) := hself ▸ hnone s.query.page.val
    refine .keep fun records => ?_
    have hsettled : (s.settle records).query.deleteChip label = ((s.settle records).query, false) :=
      hnone _
    simp only [edit, hs, hsettled, Bool.false_eq_true, if_false]

theorem follows_removeLastChip (table : TableSettings) (s : Spot) :
    Follows (fun s => s.edit table .removeLastChip) s := by
  -- the chips are the same on every page
  cases hchip : s.query.chips.getLast? with
  | none =>
      have hedit : ∀ s' : Spot, s'.query.chips = s.query.chips →
          s'.edit table .removeLastChip = s' := fun s' hs' => by simp only [edit, hs', hchip]
      refine .keep fun records => ?_
      rw [hedit s rfl, hedit (s.settle records) rfl]
  | some chip =>
      have hedit : ∀ s' : Spot, s'.query.chips = s.query.chips →
          s'.edit table .removeLastChip = ⟨(s'.query.deleteChip chip.label).1, 0⟩ :=
        fun s' hs' => by simp only [edit, hs', hchip]
      cases (returns_deleteChip s.query chip.label).follows with
      | home hhome hfrom =>
          refine .home (hedit s rfl ▸ hhome) fun page cursor => ?_
          rw [hedit s rfl, hedit ⟨s.query.setPage page, cursor⟩ rfl]
          exact hfrom page cursor
      | keep hkeep =>
          refine .keep fun records => ?_
          rw [hedit s rfl, hedit (s.settle records) rfl]
          exact hkeep records

theorem follows_cyclePageSize (table : TableSettings) (s : Spot) :
    Follows (fun s => s.edit table .cyclePageSize) s := by
  cases hsize : Positive.ofNat? (table.nextPageSize (.ofNat s.query.pageSize.val)).toNat with
  | none =>
      have hedit : ∀ s' : Spot, s'.query.pageSize = s.query.pageSize →
          s'.edit table .cyclePageSize = s' := fun s' hs' => by simp only [edit, hs', hsize]
      refine .keep fun records => ?_
      rw [hedit s rfl, hedit (s.settle records) rfl]
  | some size =>
      have hedit : ∀ s' : Spot, s'.query.pageSize = s.query.pageSize →
          s'.edit table .cyclePageSize = ⟨s'.query.setPageSize size, 0⟩ :=
        fun s' hs' => by simp only [edit, hs', hsize]
      refine .home ?_ fun page cursor => ?_
      · rw [hedit s rfl]
        exact ⟨rfl, rfl⟩
      · rw [hedit s rfl, hedit ⟨s.query.setPage page, cursor⟩ rfl]
        rfl

/-- Sorting shows as many machines as before. -/
theorem follows_sortBy (table : TableSettings) (s : Spot) (column : Column) :
    Follows (fun s => s.edit table (.sortBy column)) s := by
  -- which way is sorted depends on the column, not on the page
  have hsort : ∃ direction, ∀ page, (s.query.setPage page).toggleSort column
      = { s.query.setPage page with column := some column, direction } := by
    by_cases hcolumn : s.query.column = some column
    · refine ⟨s.query.direction.flipped, fun page => ?_⟩
      rw [← hcolumn]
      exact if_pos hcolumn
    · exact ⟨.asc, fun page => if_neg hcolumn⟩
  obtain ⟨direction, hsort⟩ := hsort
  have hs : s.query.toggleSort column = { s.query with column := some column, direction } := by
    simpa only [Query.setPage_val] using hsort s.query.page.val
  have hsettled : ∀ records, (s.settle records).query.toggleSort column
      = { (s.settle records).query with column := some column, direction } := fun _ => hsort _
  refine .keep fun records => ?_
  simp only [edit, hs, hsettled]
  rfl

/-- **An edit goes home, or keeps to what there is.** -/
theorem edit_cases (table : TableSettings) {a : Action} (ha : a.IsViewEdit) (s : Spot) :
    Follows (fun s => s.edit table a) s := by
  cases ha with
  | typeSearch ch => exact .home ⟨rfl, rfl⟩ fun _ _ => rfl
  | deleteSearch => exact (returns_popSearch s.query).follows
  | clearSearch => exact .home ⟨rfl, rfl⟩ fun _ _ => rfl
  | toggleStatus status => exact .home ⟨rfl, rfl⟩ fun _ _ => rfl
  | removeChip label => exact follows_removeChip table s label
  | removeLastChip => exact follows_removeLastChip table s
  | removeAllChips => exact .home ⟨rfl, rfl⟩ fun _ _ => rfl
  | sortBy column => exact follows_sortBy table s column
  | cyclePageSize => exact follows_cyclePageSize table s

/-- **Settling and an edit can be exchanged**: where a spot was settled on one
batch, it is the same to edit and settle it, on that batch and on another, as to
settle it on the other batch first. -/
theorem settle_edit_comm (table : TableSettings) {a : Action} (ha : a.IsViewEdit)
    (hs : s.settle records = s) (others : List Vm) :
    ((s.edit table a).settle records).settle others
      = ((s.settle others).edit table a).settle others := by
  cases edit_cases table ha s with
  | home hhome hfrom =>
      -- the edit forgets where it started, and home is settled
      have hothers : (s.settle others).edit table a = s.edit table a := hfrom _ _
      rw [hothers, hhome.settle records]
  | keep hkeep =>
      -- the edit leaves the spot settled, so only the other batch counts
      have hrecords : (s.edit table a).settle records = s.edit table a := by
        rw [← hkeep records, hs]
      have hothers : (s.settle others).edit table a = (s.edit table a).settle others := hkeep others
      rw [hrecords, hothers, settle_settle]

end Spot

/-! ### The spot of a console -/

namespace Console

open Report (View positions_congr)

variable {c : Console}

/-- Where the user is. -/
def spot (c : Console) : Spot := ⟨c.query, c.display.cursor⟩

/-- **Bringing the shown rows up to date settles the spot.** -/
theorem spot_refresh (h : c.view.Sound c.inventory) :
    c.refresh.1.spot = c.spot.settle c.inventory.records := by
  have horder := h.order_refresh c.query
  have hcount : (c.view.refresh c.inventory c.query).1.pageCount c.query
      = Report.pageCount (matching id c.query c.inventory.records).length c.query.pageSize.val := by
    rw [View.pageCount, View.size, horder, View.length_positions]
  have hrows : ∀ page, ((c.view.refresh c.inventory c.query).1.pageRows c.inventory
      (c.query.setPage page)).length
        = pageLength (matching id c.query c.inventory.records).length
            (c.query.setPage page).page.val c.query.pageSize.val := by
    intro page
    -- another page is of the same basis
    have hpage : (c.view.refresh c.inventory c.query).1.order
        = View.positions c.inventory.records (c.query.setPage page) :=
      horder.trans (positions_congr (n := 0) rfl _)
    rw [View.pageRows_eq hpage, Report.length_paginate, Report.length_orderedRows]
    rfl
  simp only [refresh_eq, spot, Spot.settle, Display.clampCursor, hrows, hcount]
  rfl

/-- Rows that are shown leave the spot settled. -/
theorem Shown.settle_spot (h : c.Shown) : c.spot.settle c.inventory.records = c.spot := by
  obtain ⟨view, hrefresh, -, -⟩ := h.refresh
  rw [← spot_refresh h.sound, hrefresh]
  rfl

/-- A reply does not move the user, until the rows are brought up to date. -/
theorem spot_deliver (c : Console) (d : Delivery) : (c.deliver d).1.spot = c.spot := by
  have hreach := (confined_deliver d).sameBut c
  have hquery : .query ∉ (Action.deliver d).reach := by cases d <;> simp [Action.reach]
  have hcursor : .cursor ∉ (Action.deliver d).reach := by cases d <;> simp [Action.reach]
  exact congrArg₂ Spot.mk (hreach.agree hquery) (hreach.agree hcursor)

/-- What an edit does to the spot. -/
theorem spot_change_of_edit (c : Console) {a : Action} (ha : a.IsViewEdit) :
    (c.change a).1.spot = c.spot.edit c.table a := by
  cases ha with
  | removeChip label =>
      cases hremoved : (c.query.deleteChip label).2 <;>
        simp [change, removeChip, Spot.edit, spot, hremoved, homeCursor]
  | removeLastChip =>
      cases hchip : c.query.chips.getLast? <;>
        simp [change, removeLastChip, Spot.edit, spot, hchip, editQuery, homeCursor]
  | cyclePageSize =>
      cases hsize : Positive.ofNat? (c.table.nextPageSize (.ofNat c.query.pageSize.val)).toNat <;>
        simp only [change, cyclePageSize, Spot.edit, spot, hsize]
      all_goals rfl
  | _ => rfl

/-- The settings are never changed. -/
theorem table_handle (c : Console) (a : Action) : (c.handle a).1.table = c.table := by
  obtain ⟨-, hsame, -⟩ | ⟨c₀, hc₀, hhandle⟩ := c.handle_cases a
  · exact hsame.table
  · rw [hhandle, refresh_eq]
    exact (c₀.change_reach a).table.trans hc₀.table

/-- A reply settles the spot on the machines that there are then. -/
theorem Shown.spot_handle_deliver (h : c.Shown) (d : Delivery) :
    (c.handle (.deliver d)).1.spot
      = c.spot.settle (c.handle (.deliver d)).1.inventory.records := by
  have hsound := sound_change h.sound (.deliver d)
  have hhandle : (c.handle (.deliver d)).1.spot = (c.change (.deliver d)).1.refresh.1.spot := rfl
  have hinventory : (c.handle (.deliver d)).1.inventory = (c.change (.deliver d)).1.inventory :=
    agree_refresh (p := .inventory) _ (by decide)
  rw [hhandle, spot_refresh hsound, hinventory]
  exact congrArg (Spot.settle · _) (c.spot_deliver d)

/-- An edit is made, and the spot is settled on the machines there are. -/
theorem Shown.spot_handle_edit (h : c.Shown) {a : Action} (ha : a.IsViewEdit) :
    (c.handle a).1.spot = (c.spot.edit c.table a).settle c.inventory.records := by
  have hinventory : (c.dismissError.change a).1.inventory = c.inventory :=
    Agree.trans (p := .inventory) (c.sameBut_dismissError.agree (by decide))
      ((c.dismissError.change_reach a).agree (ha.not_mem_reach (by decide)))
  have hspot : c.dismissError.spot = c.spot :=
    c.sameBut_dismissError.same (g := spot) fun _ => rfl
  rw [handle_of_users ha.isUsers ha.ne_quit]
  have hrefresh := spot_refresh (sound_change h.dismissError.sound a)
  rw [spot_change_of_edit _ ha, hinventory, c.sameBut_dismissError.table, hspot] at hrefresh
  exact hrefresh

end Console

end VmAssessment
