/-
VmAssessment/Proofs/Console/Selecting.lean

What becomes of the selection.  It is a set of ids that knows nothing of what
is shown: only three actions reach it (`Action.selection_mem_reach`), and two
of them go by the current page.  What they do is said id by id: `contains` of
the selection afterwards is `contains` of the one before with the row under the
cursor changed over, or with the page set to one value (`contains_togglePage`).

The page is the one on the screen, which is kept in a view; in every console
that is reached it is a page of the rows of the query, and pressing the box in
the table's header leaves it the page that it was (`Shown.same_page`).  So the
box can be pressed twice and be read off again.
-/
import VmAssessment.Proofs.Console.Shown

namespace VmAssessment

namespace Selection

variable {s s' : Selection} {page : List VmId}

/-! ### Id by id -/

theorem contains_select (s : Selection) (id : VmId) (selected : Bool) (x : VmId) :
    (s.select id selected).contains x = if x = id then selected else s.contains x := by
  by_cases hx : x = id
  · subst hx
    cases selected with
    | false => simp [select, contains]
    | true => cases hs : s.contains x <;> simp_all [select, contains]
  · cases selected with
    | false => simp [select, contains, hx]
    | true => cases hs : s.contains id <;> simp [select, hs] <;> simp [contains, hx]

theorem contains_toggle (s : Selection) (id x : VmId) :
    (s.toggle id).1.contains x = if x = id then !s.contains id else s.contains x :=
  s.contains_select id _ x

theorem contains_selectAll (s : Selection) (page : List VmId) (selected : Bool) (x : VmId) :
    (s.selectAll page selected).contains x = if x ∈ page then selected else s.contains x := by
  induction page generalizing s with
  | nil => simp [selectAll]
  | cons id rest ih =>
      have hcons : s.selectAll (id :: rest) selected
          = (s.select id selected).selectAll rest selected := rfl
      rw [hcons, ih, contains_select]
      by_cases hrest : x ∈ rest <;> by_cases hx : x = id <;> simp [hrest, hx]

theorem contains_togglePage (s : Selection) (page : List VmId) (x : VmId) :
    (s.togglePage page).contains x = if x ∈ page then !s.hasAll page else s.contains x :=
  s.contains_selectAll page _ x

/-! ### The box in the header -/

theorem hasAll_iff : s.hasAll page = true ↔ page ≠ [] ∧ ∀ id ∈ page, s.contains id = true := by
  simp [hasAll]

theorem header_eq_checked_iff :
    s.header page = .checked ↔ page ≠ [] ∧ ∀ id ∈ page, s.contains id = true := by
  rw [← hasAll_iff, header]
  split
  · simp_all
  · split <;> simp_all

theorem header_eq_unchecked_iff :
    s.header page = .unchecked ↔ ∀ id ∈ page, s.contains id = false := by
  have hany : s.hasAny page = false ↔ ∀ id ∈ page, s.contains id = false := by simp [hasAny]
  rw [← hany, header]
  split
  · rename_i hall
    -- a page of which all is selected has an id that is
    obtain ⟨hne, hall⟩ := hasAll_iff.1 hall
    obtain ⟨id, hid⟩ := List.exists_mem_of_ne_nil page hne
    have hsome : s.hasAny page = true := List.any_eq_true.2 ⟨id, hid, hall id hid⟩
    simp [hsome]
  · split <;> simp_all

theorem header_togglePage_of_ne_checked (hne : page ≠ []) (h : s.header page ≠ .checked) :
    (s.togglePage page).header page = .checked := by
  have hall : s.hasAll page = false := by
    rw [← Bool.not_eq_true, hasAll_iff, ← header_eq_checked_iff]
    exact h
  refine header_eq_checked_iff.2 ⟨hne, fun id hid => ?_⟩
  rw [contains_togglePage, if_pos hid, hall]
  rfl

theorem header_togglePage_of_checked (h : s.header page = .checked) :
    (s.togglePage page).header page = .unchecked := by
  have hall : s.hasAll page = true := hasAll_iff.2 (header_eq_checked_iff.1 h)
  refine header_eq_unchecked_iff.2 fun id hid => ?_
  rw [contains_togglePage, if_pos hid, hall]
  rfl

/-- A page of which all or nothing is selected comes back when the box is
pressed twice. -/
theorem contains_togglePage_togglePage (h : s.header page ≠ .indeterminate) (x : VmId) :
    ((s.togglePage page).togglePage page).contains x = s.contains x := by
  by_cases hx : x ∈ page
  · have hne : page ≠ [] := List.ne_nil_of_mem hx
    rw [contains_togglePage, if_pos hx]
    cases hs : s.header page with
    | indeterminate => exact absurd hs h
    | checked =>
        have hafter : (s.togglePage page).hasAll page = false := by
          rw [← Bool.not_eq_true, hasAll_iff, ← header_eq_checked_iff,
            header_togglePage_of_checked hs]
          simp
        rw [hafter, (header_eq_checked_iff.1 hs).2 x hx]
        rfl
    | unchecked =>
        have hbefore : s.header page ≠ .checked := by simp [hs]
        have hafter := hasAll_iff.2
          (header_eq_checked_iff.1 (header_togglePage_of_ne_checked hne hbefore))
        rw [hafter, header_eq_unchecked_iff.1 hs x hx]
        rfl
  · simp [contains_togglePage, hx]

/-! ### Ids as a list -/

theorem nodup_select (h : s.members.Nodup) (id : VmId) (selected : Bool) :
    (s.select id selected).members.Nodup := by
  cases selected with
  | false => exact h.filter _
  | true =>
      cases hs : s.contains id with
      | true => simpa [select, hs] using h
      | false =>
          have hid : id ∉ s.members := by simpa [contains] using hs
          simpa [select, hs] using ⟨hid, h⟩

theorem nodup_selectAll (h : s.members.Nodup) (page : List VmId) (selected : Bool) :
    (s.selectAll page selected).members.Nodup := by
  induction page generalizing s with
  | nil => exact h
  | cons id rest ih => exact ih (nodup_select h id selected)

/-- Selections without repetitions that contain the same ids list the same
ids. -/
theorem ids_congr (h : s.members.Nodup) (h' : s'.members.Nodup)
    (hc : ∀ x, s'.contains x = s.contains x) : s'.ids = s.ids := by
  have hmem : ∀ x, x ∈ s'.members ↔ x ∈ s.members := fun x => by
    simpa [contains] using congrArg (· = true) (hc x)
  have hperm : s'.ids.Perm s.ids :=
    (List.mergeSort_perm _ _).trans
      (((List.perm_ext_iff_of_nodup h' h).2 hmem).trans (List.mergeSort_perm _ _).symm)
  have hsorted : ∀ t : Selection, t.ids.Pairwise (· ≤ ·) := fun t => by
    have hle : t.ids.Pairwise (fun a b => decide (a ≤ b) = true) :=
      List.pairwise_mergeSort (by simpa using fun a b c => String.le_trans)
        (by simpa using String.le_total) t.members
    exact hle.imp of_decide_eq_true
  exact hperm.eq_of_pairwise (fun _ _ _ _ => String.le_antisymm) (hsorted s') (hsorted s)

end Selection

/-- Three actions reach the selection. -/
theorem Action.selection_mem_reach {a : Action} (h : .selection ∈ a.reach) :
    a = .toggleRow ∨ a = .togglePage ∨ a = .clearSelection := by
  cases a with
  | toggleRow => exact .inl rfl
  | togglePage => exact .inr (.inl rfl)
  | clearSelection => exact .inr (.inr rfl)
  | deliver d => cases d <;> simp [reach] at h
  | _ => simp [reach] at h

namespace Console

open Report

variable {c c' : Console}

/-! ### The page on the screen -/

/-- Rows that are up to date stay the same when something else than the
inventory, the query and the view has changed. -/
theorem Shown.same_page (h : c.Shown) (hview : c'.view = c.view)
    (hinventory : c'.inventory = c.inventory) (hquery : c'.query = c.query) :
    c'.refresh.1.query = c.query ∧ c'.refresh.1.pageRows = c.pageRows := by
  simp only [refresh_eq, hview, hinventory, hquery, h.pageCount_refresh, h.setPage_min, true_and]
  exact h.pageRows_refresh

/-- An action that reaches neither the inventory nor the query leaves the page
as it was. -/
theorem Shown.same_page_handle (h : c.Shown) {a : Action} (hi : .inventory ∉ a.reach)
    (hq : .query ∉ a.reach) :
    (c.handle a).1.query = c.query ∧ (c.handle a).1.pageRows = c.pageRows := by
  obtain ⟨-, hsame, -⟩ | ⟨c₀, hc₀, hhandle⟩ := c.handle_cases a
  · exact ⟨hsame.agree (p := .query) (by decide), hsame.same (g := pageRows) fun _ => rfl⟩
  · have hchange := c₀.change_reach a
    have hinventory : (c₀.change a).1.inventory = c.inventory :=
      (hc₀.agree (p := .inventory) (by decide)).trans (hchange.agree hi)
    have hquery : (c₀.change a).1.query = c.query :=
      (hc₀.agree (p := .query) (by decide)).trans (hchange.agree hq)
    rw [hhandle]
    exact h.same_page (hchange.view.trans hc₀.view) hinventory hquery

/-! ### Actions on the selection -/

theorem selection_handle_of_ne {a : Action} (hrow : a ≠ .toggleRow) (hpage : a ≠ .togglePage)
    (hclear : a ≠ .clearSelection) : (c.handle a).1.selection = c.selection := by
  refine c.handle_agree (p := .selection) a (fun hmem => ?_) (by decide)
  rcases Action.selection_mem_reach hmem with rfl | rfl | rfl
  · exact hrow rfl
  · exact hpage rfl
  · exact hclear rfl

/-- An action on the selection alone, once the rows are brought up to date. -/
theorem selection_handle {a : Action} (hu : a.isUsers = true) (hq : a ≠ .quit) :
    (c.handle a).1.selection = (c.dismissError.change a).1.selection :=
  agree_handle_of_users (p := .selection) hu hq c (by decide)

theorem selection_toggleRow (c : Console) : (c.handle .toggleRow).1.selection
    = (c.cursorRecord?.map fun vm => (c.selection.toggle vm.id).1).getD c.selection := by
  have hrow : c.dismissError.cursorRecord? = c.cursorRecord? :=
    c.sameBut_dismissError.same (g := cursorRecord?) fun _ => rfl
  have hselection : c.dismissError.selection = c.selection :=
    c.sameBut_dismissError.agree (p := .selection) (by decide)
  rw [selection_handle rfl (by simp)]
  simp only [change, toggleCursorRow, hrow]
  cases c.cursorRecord? <;> simp [hselection]

theorem contains_toggleRow {vm : Vm} (hvm : c.cursorRecord? = some vm) (id : VmId) :
    (c.handle .toggleRow).1.selection.contains id
      = if id = vm.id then !c.selection.contains id else c.selection.contains id := by
  rw [selection_toggleRow, hvm]
  refine (c.selection.contains_toggle vm.id id).trans ?_
  split
  · rename_i heq
    rw [heq]
  · rfl

/-- The cursor is on a machine while the page has any. -/
theorem Shown.cursorRecord (h : c.Shown) (hne : c.pageRows ≠ []) :
    ∃ vm, c.cursorRecord? = some vm := by
  have hpos := List.length_pos_iff.2 hne
  have hcursor := h.cursor
  have hlt : c.display.cursor < c.pageRows.length := by omega
  exact ⟨c.pageRows[c.display.cursor], List.getElem?_eq_getElem hlt⟩

theorem selection_togglePage (c : Console) :
    (c.handle .togglePage).1.selection = c.selection.togglePage c.visibleIds := by
  rw [selection_handle rfl (by simp)]
  exact c.sameBut_dismissError.same (g := fun c => c.selection.togglePage c.visibleIds) fun _ => rfl

theorem Shown.visibleIds_togglePage (h : c.Shown) :
    (c.handle .togglePage).1.visibleIds = c.visibleIds := by
  have hpage := (h.same_page_handle (a := .togglePage) (by simp [Action.reach])
    (by simp [Action.reach])).2
  exact congrArg (List.map Vm.id) hpage

/-- The box can be read off after it was pressed. -/
theorem Shown.header_togglePage (h : c.Shown) : (c.handle .togglePage).1.header
    = (c.selection.togglePage c.visibleIds).header c.visibleIds := by
  rw [header, h.visibleIds_togglePage, selection_togglePage]

/-- The box can be pressed again. -/
theorem Shown.ids_togglePage_togglePage (h : c.Shown) (hd : c.selection.members.Nodup)
    (hc : c.header ≠ .indeterminate) :
    ((c.handle .togglePage).1.handle .togglePage).1.selection.ids = c.selection.ids := by
  rw [selection_togglePage, h.visibleIds_togglePage, selection_togglePage]
  refine Selection.ids_congr hd ?_ (Selection.contains_togglePage_togglePage hc)
  exact Selection.nodup_selectAll (Selection.nodup_selectAll hd _ _) _ _

theorem nodup_handle (h : c.selection.members.Nodup) (a : Action) :
    (c.handle a).1.selection.members.Nodup := by
  by_cases hrow : a = .toggleRow
  · subst hrow
    rw [selection_toggleRow]
    cases c.cursorRecord? with
    | none => exact h
    | some vm => exact Selection.nodup_select h vm.id _
  by_cases hpage : a = .togglePage
  · subst hpage
    rw [selection_togglePage]
    exact Selection.nodup_selectAll h _ _
  by_cases hclear : a = .clearSelection
  · subst hclear
    rw [selection_handle rfl (by simp)]
    exact List.nodup_nil
  rw [selection_handle_of_ne hrow hpage hclear]
  exact h

/-! ### Consoles that are reached -/

namespace Reached

variable {table : TableSettings}

theorem nodup_selection (h : Reached table c) : c.selection.members.Nodup := by
  induction h with
  | start => exact List.nodup_nil
  | attach _ ih => exact ih
  | handle a _ ih => exact nodup_handle ih a
  | elapse _ _ ih => exact ih
  | draw _ ih => exact ih

/-- **The selection sticks.**  Whatever happens, answers that bring another
inventory included, the same ids stay selected, but for three commands.  One of
them changes over the machine under the cursor, if the page has any.  Another
selects the page, or takes it back if all of it was selected, and touches no id
beside the page; the box in the header shows which it was, and pressed again it
gives back the selection unless only part of the page was selected. -/
theorem selection_sticks (h : Reached table c) :
    let rows := paginate (orderedRows c.inventory.records c.query) c.query.page.val
      c.query.pageSize.val
    let page := rows.map (·.id)
    let pressed := (c.handle .togglePage).1
    (∀ a, a ≠ .toggleRow → a ≠ .togglePage → a ≠ .clearSelection →
        (c.handle a).1.selection = c.selection) ∧
      (rows = [] → (c.handle .toggleRow).1.selection = c.selection) ∧
      (rows ≠ [] → ∃ vm, rows[c.display.cursor]? = some vm ∧
        ∀ id, (c.handle .toggleRow).1.selection.contains id
          = if id = vm.id then !c.selection.contains id else c.selection.contains id) ∧
      (∀ id, pressed.selection.contains id
        = if id ∈ page then !page.all c.selection.contains else c.selection.contains id) ∧
      (page ≠ [] → c.header ≠ .checked → pressed.header = .checked) ∧
      (c.header = .checked → pressed.header = .unchecked) ∧
      (c.header ≠ .indeterminate →
        (pressed.handle .togglePage).1.selection.ids = c.selection.ids) := by
  intro rows page pressed
  have hs := h.shown
  have hrows : c.pageRows = rows := hs.pageRows_eq
  have hpage : c.visibleIds = page := congrArg (List.map Vm.id) hrows
  have hheader : pressed.header = (c.selection.togglePage c.visibleIds).header c.visibleIds :=
    hs.header_togglePage
  refine ⟨fun a => selection_handle_of_ne, fun hnil => ?_, fun hne => ?_, fun id => ?_,
    fun hne hc => ?_, fun hc => ?_, hs.ids_togglePage_togglePage h.nodup_selection⟩
  · have hnone : c.cursorRecord? = none := by rw [cursorRecord?, hrows, hnil]; rfl
    rw [selection_toggleRow, hnone]
    rfl
  · rw [← hrows] at hne ⊢
    obtain ⟨vm, hvm⟩ := hs.cursorRecord hne
    exact ⟨vm, hvm, contains_toggleRow hvm⟩
  · rw [selection_togglePage, Selection.contains_togglePage, hpage]
    by_cases hid : id ∈ page
    · have hne : page.isEmpty = false := by simp [List.ne_nil_of_mem hid]
      simp [hid, Selection.hasAll, hne]
    · simp [hid]
  · rw [hheader]
    exact Selection.header_togglePage_of_ne_checked (hpage ▸ hne) hc
  · rw [hheader]
    exact Selection.header_togglePage_of_checked hc

/-- Two machines are selected and one of them is filtered out.  The box in the
header then takes the other one back, and gives it back. -/
theorem hidden_machine_stays_selected :
    let batch : List Vm :=
      [{ (default : Vm) with id := "vm-1", status := .migratable },
        { (default : Vm) with id := "vm-2", status := .notMigratable }]
    let loaded := ((Console.start {}).handle (.deliver (.inventory {} (.ok batch)))).1
    let c := ((loaded.handle .togglePage).1.handle (.toggleStatus .notMigratable)).1
    let pressed := (c.handle .togglePage).1
    Reached {} c ∧ c.header = .checked ∧ pressed.header = .unchecked ∧
      pressed.selection.contains "vm-1" = true ∧ pressed.selection.contains "vm-2" = false ∧
      (pressed.handle .togglePage).1.selection.ids = c.selection.ids := by
  intro batch loaded c pressed
  have hreached : Reached {} c := ((Reached.start.handle _).handle _).handle _
  have hchecked : c.header = .checked := by decide +kernel
  obtain ⟨-, -, -, hids, -, hunchecked, htwice⟩ := selection_sticks hreached
  refine ⟨hreached, hchecked, hunchecked hchecked, (hids "vm-1").trans ?_,
    (hids "vm-2").trans ?_, htwice ?_⟩ <;> decide +kernel

end Reached

end Console

end VmAssessment
