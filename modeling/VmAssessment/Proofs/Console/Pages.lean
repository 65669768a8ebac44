/-
VmAssessment/Proofs/Console/Pages.lean

Which page is shown after an action.  There are three things that an action can
do to the page and the cursor (`Spot.Move`): it takes them back to the first row,
it goes to a page, or it leaves the page alone and sorts at most.  Every action
does one of them (`move_change`), whatever way it comes to the query, and then
the spot is settled on what there is.

The first is done by the edits of the filters and of the page size, and by
nothing else; so wherever one of these has changed, the first row of the first
page is shown (`Reached.page_discipline`).
-/
import VmAssessment.Proofs.Console.Places
import VmAssessment.Proofs.Console.Spots

namespace VmAssessment

open Report (matching)

/-! ### What actions are to the page -/

namespace Action

/-- The page that an action goes to, before it is put among those there are. -/
def target? (page count : Nat) : Action → Option Nat
  | .nextPage => some (page + 1)
  | .prevPage => some (page - 1)
  | .firstPage => some 1
  | .lastPage => some count
  | _ => none

/-- The edits of the search text, the statuses and the page size.  A line of a
menu is one if the menu is that of the filters. -/
def editsFilters (overlay : Overlay) : Action → Bool
  | .typeSearch _ | .deleteSearch | .clearSearch | .toggleStatus _ | .removeChip _
  | .removeLastChip | .removeAllChips | .cyclePageSize => true
  | .menuSelect => overlay = .filterMenu
  | _ => false

variable {a : Action} {page count n : Nat}

theorem target?_of_editsFilters {overlay : Overlay} (h : a.editsFilters overlay = true) :
    a.target? page count = none := by
  cases a <;> first | rfl | simp [editsFilters] at h

theorem not_mem_reach_of_target? (h : a.target? page count = some n) : .inventory ∉ a.reach := by
  cases a with
  | deliver d => cases h
  | _ => simp [reach]

end Action

namespace Spot

/-- Goes to the nearest page there is; the cursor stays if that is the current
one. -/
def goTo (s : Spot) (n count : Nat) : Spot :=
  let page := min (max n 1) count
  if page = s.query.page.val then s else ⟨s.query.setPage page, 0⟩

theorem query_goTo (s : Spot) (n count : Nat) :
    ∃ page, (s.goTo n count).query = s.query.setPage page := by
  by_cases h : min (max n 1) count = s.query.page.val
  · refine ⟨s.query.page.val, ?_⟩
    simp [goTo, h, Query.setPage_val]
  · exact ⟨_, congrArg Spot.query (if_neg h)⟩

theorem page_goTo (s : Spot) {n count : Nat} (hcount : 1 ≤ count) :
    (s.goTo n count).query.page.val = min (max n 1) count := by
  by_cases h : min (max n 1) count = s.query.page.val
  · simp [goTo, h]
  · have hpage : (s.goTo n count).query.page.val = max (min (max n 1) count) 1 := by
      simp [goTo, h, Query.setPage, Number.Positive.ofNat_val]
    omega

theorem cursor_goTo (s : Spot) {n count : Nat} (hcount : 1 ≤ count) : (s.goTo n count).cursor
    = if (s.goTo n count).query.page = s.query.page then s.cursor else 0 := by
  have hpage := s.page_goTo (n := n) hcount
  by_cases h : min (max n 1) count = s.query.page.val
  · simp [goTo, h]
  · have hother : (s.goTo n count).query.page ≠ s.query.page := by
      intro hsame
      rw [← hpage, hsame] at h
      exact h rfl
    rw [if_neg hother]
    simp [goTo, h]

/-- Going to one of the pages there are leaves the spot on what there is. -/
theorem settle_goTo {s : Spot} {records : List Vm} (hs : s.settle records = s) {count : Nat}
    (hcount : count = Report.pageCount (matching id s.query records).length s.query.pageSize.val)
    (n : Nat) : (s.goTo n count).settle records = s.goTo n count := by
  by_cases h : min (max n 1) count = s.query.page.val
  · simp only [goTo, h, if_true, hs]
  · have hgoto : s.goTo n count = ⟨s.query.setPage (min (max n 1) count), 0⟩ := if_neg h
    have hpage : (s.goTo n count).query.page.val = min (max n 1) count :=
      s.page_goTo (hcount ▸ Report.pageCount_pos _ _)
    -- another page is of the same machines
    have hsettle : (s.goTo n count).settle records
        = ⟨(s.goTo n count).query.setPage (min (s.goTo n count).query.page.val count), 0⟩ := by
      rw [hgoto, hcount]
      exact congrArg (Spot.mk _) (Nat.zero_min _)
    rw [hsettle, hpage, Nat.min_eq_left (Nat.min_le_right _ _), hgoto]
    rfl

/-- What an action does to a spot, before the rows are brought up to date. -/
inductive Move (overlay : Overlay) (count : Nat) (a : Action) (s s' : Spot) : Prop
  /-- The filters or the page size are edited. -/
  | home (edits : a.editsFilters overlay = true) (home : s'.IsHome)
  /-- Another page is asked for. -/
  | goes {n : Nat} (target : a.target? s.query.page.val count = some n)
      (spot : s' = s.goTo n count)
  /-- The page stays, and the order is another at most. -/
  | stays (target : a.target? s.query.page.val count = none) (column : Option Column)
      (direction : Direction) (query : s'.query = s.query.setSort column direction)

namespace Move

variable {overlay : Overlay} {count : Nat} {a : Action} {s s' : Spot}

theorem of_query_eq (target : a.target? s.query.page.val count = none)
    (query : s'.query = s.query) : Move overlay count a s s' :=
  .stays target s.query.column s.query.direction query

theorem toggleSort (target : a.target? s.query.page.val count = none) {column : Column}
    (query : s'.query = s.query.toggleSort column) : Move overlay count a s s' := by
  unfold Query.toggleSort at query
  split at query
  · exact .stays target s.query.column _ query
  · exact .stays target _ _ query

/-- A chip that is not there is not removed, and the page stays. -/
theorem deleteChip (target : a.target? s.query.page.val count = none)
    (edits : a.editsFilters overlay = true) (label : String) :
    Move overlay count a s ⟨(s.query.deleteChip label).1, 0⟩ := by
  have hself : s.query.setPage s.query.page.val = s.query := Query.setPage_val s.query
  rcases deleteChip_cases s.query label with ⟨p, hone, hp⟩ | hnone
  · rw [← hself, hp]
    exact .home edits ⟨hone, rfl⟩
  · have hsame : (s.query.deleteChip label).1 = s.query := by rw [← hself, hnone]
    exact .of_query_eq target hsame

/-- The filters and the page size change on the way home only. -/
theorem isHome_or_same (h : Move overlay count a s s') : s'.IsHome ∨
    s'.query.search = s.query.search ∧ s'.query.statuses = s.query.statuses ∧
      s'.query.pageSize = s.query.pageSize := by
  cases h with
  | home _ home => exact .inl home
  | goes _ spot =>
      obtain ⟨page, hquery⟩ := s.query_goTo _ count
      rw [spot, hquery]
      exact .inr ⟨rfl, rfl, rfl⟩
  | stays _ column direction query =>
      rw [query]
      exact .inr ⟨rfl, rfl, rfl⟩

end Move

/-- An edit of the query goes home, unless there is nothing to edit. -/
theorem move_edit (table : TableSettings) (overlay : Overlay) (count : Nat) {a : Action}
    (ha : a.IsViewEdit) (s : Spot) : Move overlay count a s (s.edit table a) := by
  cases ha with
  | typeSearch | clearSearch | toggleStatus | removeAllChips => exact .home rfl ⟨rfl, rfl⟩
  | deleteSearch =>
      by_cases hempty : s.query.search.isEmpty = true
      · exact .of_query_eq rfl (if_pos hempty)
      · refine .home rfl ⟨?_, rfl⟩
        exact congrArg Query.page (if_neg hempty)
  | removeChip label =>
      simp only [edit]
      split
      · exact .deleteChip rfl rfl label
      · exact .of_query_eq rfl rfl
  | removeLastChip =>
      simp only [edit]
      split
      · exact .deleteChip rfl rfl _
      · exact .of_query_eq rfl rfl
  | sortBy column => exact .toggleSort rfl rfl
  | cyclePageSize =>
      simp only [edit]
      split
      · exact .home rfl ⟨rfl, rfl⟩
      · exact .of_query_eq rfl rfl

end Spot

namespace Console

variable {c : Console}

theorem spot_goToPage (c : Console) (n : Nat) :
    (c.goToPage n).spot = c.spot.goTo n c.pageCount := by
  by_cases h : min (max n 1) c.pageCount = c.query.page.val <;>
    simp [goToPage, Spot.goTo, spot, h, homeCursor]

/-- A line of a menu edits the filters, or the order at most. -/
theorem move_menuSelect (c : Console) :
    Spot.Move c.display.overlay c.pageCount .menuSelect c.spot c.menuSelect.spot := by
  cases ho : c.display.overlay with
  | filterMenu =>
      simp only [menuSelect, ho]
      split
      · exact .home rfl ⟨rfl, rfl⟩
      · exact .of_query_eq rfl rfl
  | sortMenu =>
      simp only [menuSelect, ho]
      split
      · exact .toggleSort rfl rfl
      · exact .of_query_eq rfl rfl
  | exportMenu =>
      have hexport : ∀ format, (c.exportReport format).query = c.query := fun format =>
        ((confined_exportReport format).sameBut c).agree (p := .query) (by decide)
      simp only [menuSelect, ho]
      refine .of_query_eq rfl ?_
      split
      · exact hexport _
      · rfl
  | help | none =>
      simp only [menuSelect, ho]
      exact .of_query_eq rfl rfl

/-- **Every action makes one of the three moves.** -/
theorem move_change (c : Console) (a : Action) :
    Spot.Move c.display.overlay c.pageCount a c.spot (c.change a).1.spot := by
  have edit : ∀ {a : Action}, a.IsViewEdit →
      Spot.Move c.display.overlay c.pageCount a c.spot (c.change a).1.spot := by
    intro a ha
    rw [spot_change_of_edit c ha]
    exact Spot.move_edit c.table _ _ ha c.spot
  -- the others do not reach the query
  have rest : ∀ {a : Action}, .query ∉ a.reach → a.target? c.query.page.val c.pageCount = none →
      Spot.Move c.display.overlay c.pageCount a c.spot (c.change a).1.spot :=
    fun hreach htarget => .of_query_eq htarget ((c.change_reach _).agree hreach)
  cases a with
  | typeSearch ch => exact edit (.typeSearch ch)
  | deleteSearch => exact edit .deleteSearch
  | clearSearch => exact edit .clearSearch
  | toggleStatus status => exact edit (.toggleStatus status)
  | removeChip label => exact edit (.removeChip label)
  | removeLastChip => exact edit .removeLastChip
  | removeAllChips => exact edit .removeAllChips
  | sortBy column => exact edit (.sortBy column)
  | cyclePageSize => exact edit .cyclePageSize
  | nextPage | prevPage | firstPage | lastPage => exact .goes rfl (c.spot_goToPage _)
  | menuSelect => exact c.move_menuSelect
  | deliver d => exact rest (by cases d <;> simp [Action.reach]) rfl
  | _ => exact rest (by simp [Action.reach]) rfl

/-! ### Pages after an action -/

/-- There are as many pages as the matching machines take. -/
theorem Shown.pageCount_eq (h : c.Shown) : c.pageCount
    = Report.pageCount (matching id c.query c.inventory.records).length c.query.pageSize.val :=
  congrArg (Report.pageCount · c.query.pageSize.val) h.size_eq

/-- A page is put among those there are. -/
theorem Shown.page_eq (h : c.Shown) {s : Spot} (hs : c.spot = s.settle c.inventory.records) :
    c.query.page.val = min s.query.page.val c.pageCount := by
  have hquery : c.query = (s.settle c.inventory.records).query := congrArg Spot.query hs
  -- another page is of the same machines
  have hcount : c.pageCount = Report.pageCount (matching id s.query c.inventory.records).length
      s.query.pageSize.val := by
    rw [h.pageCount_eq, hquery]
    rfl
  rw [hcount, hquery, Spot.page_settle]

/-- A message is of no matter to the moves. -/
theorem move_change_of_sameBut {c₀ : Console} (h : c.SameBut [.message] c₀) (a : Action) :
    Spot.Move c.display.overlay c.pageCount a c.spot (c₀.change a).1.spot := by
  have hoverlay : c₀.display.overlay = c.display.overlay := h.agree (p := .overlay) (by decide)
  have hcount : c₀.pageCount = c.pageCount := h.same (g := pageCount) fun _ => rfl
  have hspot : c₀.spot = c.spot := h.same (g := spot) fun _ => rfl
  have hmove := c₀.move_change a
  rwa [hoverlay, hcount, hspot] at hmove

/-- **What an action comes to.**  One of the three moves is made, and the spot is
settled on the machines that there are then. -/
theorem Shown.move_handle (h : c.Shown) (a : Action) :
    ∃ s, Spot.Move c.display.overlay c.pageCount a c.spot s ∧
      (c.handle a).1.spot = s.settle (c.handle a).1.inventory.records := by
  obtain ⟨ha, hsame, -⟩ | ⟨c₀, hc₀, hhandle⟩ := c.handle_cases a
  · -- the spot stays, and it is settled already
    have htarget : a.target? c.query.page.val c.pageCount = none := by
      rcases ha with rfl | rfl | rfl <;> rfl
    have hspot : (c.handle a).1.spot = c.spot := hsame.same (g := spot) fun _ => rfl
    have hinventory : (c.handle a).1.inventory = c.inventory :=
      hsame.agree (p := .inventory) (by decide)
    exact ⟨c.spot, .of_query_eq htarget rfl, by rw [hspot, hinventory, h.settle_spot]⟩
  · refine ⟨_, move_change_of_sameBut hc₀ a, ?_⟩
    have hinventory : (c.handle a).1.inventory = (c₀.change a).1.inventory := by
      rw [hhandle]
      exact agree_refresh_marked (p := .inventory) _ (by decide)
    rw [hinventory, ← spot_refresh (sound_change (h.of_sameBut_message hc₀).sound a), hhandle]
    rfl

/-- **Going to a page** ends there: the page is one that there is already. -/
theorem Shown.spot_handle_of_target (h : c.Shown) {a : Action} {n : Nat}
    (hn : a.target? c.query.page.val c.pageCount = some n) :
    (c.handle a).1.spot = c.spot.goTo n c.pageCount ∧ (c.handle a).1.inventory = c.inventory := by
  have hinventory : (c.handle a).1.inventory = c.inventory :=
    c.handle_agree (p := .inventory) a (Action.not_mem_reach_of_target? hn) (by decide)
  obtain ⟨s, hmove, hs⟩ := h.move_handle a
  refine ⟨?_, hinventory⟩
  cases hmove with
  | home hedits =>
      rw [Action.target?_of_editsFilters hedits] at hn
      cases hn
  | stays hnone => exact absurd (hnone.symm.trans hn) nofun
  | @goes m hgoes hspot =>
      have hm : m = n := Option.some.inj (hgoes.symm.trans hn)
      rw [hm] at hspot
      rw [hs, hspot, hinventory, Spot.settle_goTo h.settle_spot h.pageCount_eq]

/-- Where the filters or the page size have changed, the first row of the first page
is shown. -/
theorem Shown.home_of_edited (h : c.Shown) {a : Action}
    (hedited : (c.handle a).1.query.search ≠ c.query.search ∨
      (c.handle a).1.query.statuses ≠ c.query.statuses ∨
        (c.handle a).1.query.pageSize ≠ c.query.pageSize) :
    (c.handle a).1.query.page.val = 1 ∧ (c.handle a).1.display.cursor = 0 := by
  obtain ⟨s, hmove, hs⟩ := h.move_handle a
  rcases hmove.isHome_or_same with hhome | ⟨hsearch, hstatuses, hsize⟩
  · have hspot : (c.handle a).1.spot = s := hs.trans (hhome.settle _)
    have hpage : (c.handle a).1.query.page = .one :=
      (congrArg (·.query.page) hspot).trans hhome.1
    exact ⟨by rw [hpage]; rfl, (congrArg Spot.cursor hspot).trans hhome.2⟩
  · -- settling keeps the filters
    have hquery : (c.handle a).1.query = (s.settle (c.handle a).1.inventory.records).query :=
      congrArg Spot.query hs
    rw [hquery] at hedited
    rcases hedited with hne | hne | hne
    · exact absurd hsearch hne
    · exact absurd hstatuses hne
    · exact absurd hsize hne

/-- Who goes to a page gets to the nearest one there is. -/
theorem Shown.page_of_target (h : c.Shown) {a : Action} {n : Nat}
    (hn : a.target? c.query.page.val c.pageCount = some n) :
    (c.handle a).1.pageCount = c.pageCount ∧
      (c.handle a).1.query.page.val = min (max n 1) c.pageCount ∧
      (c.handle a).1.display.cursor
        = if (c.handle a).1.query.page = c.query.page then c.display.cursor else 0 := by
  obtain ⟨hspot, hinventory⟩ := h.spot_handle_of_target hn
  have hcount : 1 ≤ c.pageCount := Report.pageCount_pos _ _
  refine ⟨?_, (congrArg (·.query.page.val) hspot).trans (c.spot.page_goTo hcount), ?_⟩
  · obtain ⟨page, hpage⟩ := c.spot.query_goTo n c.pageCount
    have hquery : (c.handle a).1.query = c.query.setPage page :=
      (congrArg Spot.query hspot).trans hpage
    rw [(h.handle a).pageCount_eq, h.pageCount_eq, hinventory, hquery]
    rfl
  · have hcursor := c.spot.cursor_goTo (n := n) hcount
    rw [← hspot] at hcursor
    exact hcursor

/-- Whatever else happens, the page stays if there are as many. -/
theorem Shown.page_of_rest (h : c.Shown) {a : Action}
    (hnone : a.target? c.query.page.val c.pageCount = none)
    (hedits : a.editsFilters c.display.overlay = false) :
    (c.handle a).1.query.page.val = min c.query.page.val (c.handle a).1.pageCount := by
  obtain ⟨s, hmove, hs⟩ := h.move_handle a
  rw [(h.handle a).page_eq hs]
  cases hmove with
  | home hhome =>
      rw [hhome] at hedits
      cases hedits
  | goes hgoes => exact absurd (hnone.symm.trans hgoes) nofun
  | stays _ column direction hsort =>
      rw [hsort]
      rfl

namespace Reached

variable {table : TableSettings}

/-- **The page after an action.**  Where the search text, the statuses or the page
size have changed, the first row of the first page is shown.  Who goes to a page
gets to the nearest one there is; the cursor stays if that is the current one,
and goes to the first row otherwise.  Whatever else happens, the page stays, as
long as there are as many. -/
theorem page_discipline (h : Reached table c) (a : Action) :
    let c' := (c.handle a).1
    (c'.query.search ≠ c.query.search ∨ c'.query.statuses ≠ c.query.statuses ∨
        c'.query.pageSize ≠ c.query.pageSize →
      c'.query.page.val = 1 ∧ c'.display.cursor = 0) ∧
      (∀ n, a.target? c.query.page.val c.pageCount = some n →
        c'.pageCount = c.pageCount ∧ c'.query.page.val = min (max n 1) c.pageCount ∧
          c'.display.cursor = if c'.query.page = c.query.page then c.display.cursor else 0) ∧
      (a.target? c.query.page.val c.pageCount = none → a.editsFilters c.display.overlay = false →
        c'.query.page.val = min c.query.page.val c'.pageCount) := by
  intro c'
  refine ⟨?_, ?_, ?_⟩
  · exact h.shown.home_of_edited
  · intro n hn
    exact h.shown.page_of_target hn
  · exact h.shown.page_of_rest

/-- On the second of two pages, a search goes back to the first, and so does a
batch with one machine. -/
theorem second_page_left :
    let vm : Vm := { (default : Vm) with id := "vm-1" }
    let batch : List Vm := [vm, { vm with id := "vm-2" }]
    let fewer : Action := .deliver (.inventory {} (.ok [vm]))
    let loaded := ((Console.start { pageSize := 1 }).handle
      (.deliver (.inventory {} (.ok batch)))).1
    let c := (loaded.handle .nextPage).1
    Reached { pageSize := 1 } c ∧ c.query.page.val = 2 ∧
      ((c.handle (.typeSearch 'v')).1.query.page.val = 1 ∧
        (c.handle (.typeSearch 'v')).1.display.cursor = 0) ∧
      (c.handle fewer).1.pageCount = 1 ∧
      (c.handle fewer).1.query.page.val = min 2 (c.handle fewer).1.pageCount := by
  intro vm batch fewer loaded c
  have hreached : Reached { pageSize := 1 } c := (Reached.start.handle _).handle _
  have hpage : c.query.page.val = 2 := by decide +kernel
  have htext : (c.handle (.typeSearch 'v')).1.query.search ≠ c.query.search := by decide +kernel
  have hcount : (c.handle fewer).1.pageCount = 1 := by decide +kernel
  obtain ⟨hedited, -, -⟩ := hreached.page_discipline (.typeSearch 'v')
  obtain ⟨-, -, hrest⟩ := hreached.page_discipline fewer
  exact ⟨hreached, hpage, hedited (.inl htext), hcount, hpage ▸ hrest rfl rfl⟩

end Reached

end Console

end VmAssessment
