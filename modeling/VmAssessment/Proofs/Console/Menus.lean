/-
VmAssessment/Proofs/Console/Menus.lean

What a menu shows is what it acts on.  A menu's length, its lines and what is
done on each of them are given by separate tables that know nothing of each
other, and one cursor serves all menus.  They agree: the lines are as many as
the cursor is told (`length_menu`), and whatever was opened, closed and moved
before, the cursor is on one of them (`Reached.fits`), since a menu opens with
the cursor on its first line and nothing but the two keys moves it.

Lines and actions go through the same lists, which name nothing twice; so the
line that is chosen changes, and no other does (`map_eq_modify`).
-/
import VmAssessment.Proofs.Console.Dismissing
import VmAssessment.Proofs.Console.Failing

namespace VmAssessment

/-! ### The cursor of the open menu -/

/-- The cursor is on a line of the menu, if one is open. -/
def Place.Fits (p : Place) : Prop := p.overlay.isMenu = true → p.line < p.overlay.menuLength

theorem Overlay.menuLength_pos {o : Overlay} (h : o.isMenu = true) : 0 < o.menuLength := by
  cases o <;> simp_all [isMenu, menuLength]

/-- **An action leaves the cursor on the menu.** -/
theorem Place.Fits.after {p : Place} (h : p.Fits) (a : Action) : (p.after a).Fits := by
  have hnone : ∀ line, (⟨.none, line⟩ : Place).Fits := fun line ho => by cases ho
  cases a with
  | toggleHelp =>
      simp only [Place.after]
      split
      · exact hnone p.line
      · exact fun ho => by cases ho
  | openOverlay overlay => exact fun ho => Overlay.menuLength_pos ho
  | closeOverlay => exact hnone p.line
  | menuUp => exact fun ho => Nat.lt_of_le_of_lt (Nat.sub_le _ _) (h ho)
  | menuDown =>
      simp only [Place.after]
      split
      · exact fun _ => ‹_›
      · exact h
  | menuSelect =>
      simp only [Place.after]
      split
      · exact hnone p.line
      · exact h
  | _ => exact h

namespace StatusFilter

theorem mem_toggle (f : StatusFilter) (s t : VmStatus) :
    t ∈ (f.toggle s).statuses ↔ if t = s then t ∉ f.statuses else t ∈ f.statuses := by
  unfold toggle
  split
  · have hs : s ∈ f.statuses := List.contains_iff_mem.1 ‹_›
    rw [erase, f.nodup.mem_erase_iff]
    by_cases ht : t = s <;> simp [ht, hs]
  · have hs : s ∉ f.statuses := fun hmem => ‹¬ _› (List.contains_iff_mem.2 hmem)
    rw [insert, dif_neg hs]
    by_cases ht : t = s <;> simp [ht, hs]

/-- Toggling a status changes whether that one is asked for. -/
theorem contains_toggle (f : StatusFilter) (s t : VmStatus) :
    (f.toggle s).contains t = if t = s then !f.contains t else f.contains t := by
  rw [Bool.eq_iff_iff, contains, List.contains_iff_mem, mem_toggle]
  by_cases ht : t = s <;> simp [ht, contains]

end StatusFilter

namespace Console

variable {c : Console} {table : TableSettings}

theorem Reached.fits (h : Reached table c) : c.place.Fits := by
  induction h with
  | start => exact fun ho => by cases ho
  | attach _ ih => exact ih
  | handle a _ ih =>
      rw [place_handle]
      exact ih.after a
  | elapse _ _ ih => exact ih
  | draw _ ih => exact ih

/-! ### Lines -/

/-- Every menu has as many lines as its cursor is told. -/
theorem length_menu (c : Console) (o : Overlay) : (c.menu o).length = o.menuLength := by
  cases o <;> rfl

/-- Lines that name nothing twice change where one of them does. -/
theorem map_eq_modify {α β : Type} {names : List α} (hnames : names.Nodup) {i : Nat} {a : α}
    (ha : names[i]? = some a) {line line' : α → β} {g : β → β} (hself : line' a = g (line a))
    (hother : ∀ b, b ≠ a → line' b = line b) :
    names.map line' = (names.map line).modify i g := by
  apply List.ext_getElem?
  intro j
  rw [List.getElem?_modify, List.getElem?_map, List.getElem?_map]
  cases hb : names[j]? with
  | none => rfl
  | some b =>
      by_cases hij : i = j
      · obtain rfl : a = b := Option.some.inj (ha.symm.trans (hij ▸ hb))
        simp [hij, hself]
      · have hne : b ≠ a := fun hba => by
          obtain ⟨hi, -⟩ := List.getElem?_eq_some_iff.1 ha
          exact hij ((List.getElem?_inj hi hnames).1 (ha.trans (hba ▸ hb.symm)))
        simp [hij, hother b hne]

/-! ### Choosing a line -/

/-- After a line is chosen, the rows are brought up to date; page and redraw
flags aside, that leaves what the line did. -/
theorem handle_menuSelect (c : Console) :
    (∃ page, (c.handle .menuSelect).1.query = c.dismissError.menuSelect.query.setPage page) ∧
      (c.handle .menuSelect).1.display.notification
        = c.dismissError.menuSelect.display.notification := by
  have hhandle : (c.handle .menuSelect).1
      = c.dismissError.menuSelect.refresh.1.editDisplay (·.requestRedraw .everything) := rfl
  rw [hhandle]
  exact ⟨⟨_, congrArg Console.query (refresh_eq c.dismissError.menuSelect)⟩,
    notification_refresh c.dismissError.menuSelect⟩

/-- The menu of statuses stays open when a line is chosen; the others close. -/
theorem overlay_menuSelect (c : Console) : (c.handle .menuSelect).1.display.overlay
    = if c.display.overlay = .sortMenu ∨ c.display.overlay = .exportMenu then .none
      else c.display.overlay := by
  have hplace := congrArg Place.overlay (c.place_handle .menuSelect)
  exact hplace.trans (apply_ite Place.overlay _ _ _)

variable {line : MenuLine}

/-- The line of a status has its mark changed over; the menu stays open. -/
theorem filterMenu_menuSelect (ho : c.display.overlay = .filterMenu)
    (hline : (c.menu .filterMenu)[c.display.menuCursor]? = some line) :
    (c.handle .menuSelect).1.menu .filterMenu
      = (c.menu .filterMenu).modify c.display.menuCursor
          (fun line => { line with checked := !line.checked }) ∧
      (c.handle .menuSelect).1.display.overlay = .filterMenu := by
  obtain ⟨_, _, hdismissed⟩ := c.dismissError_eq
  obtain ⟨⟨page, hpage⟩, -⟩ := c.handle_menuSelect
  obtain ⟨status, hstatus⟩ : ∃ s, VmStatus.all[c.display.menuCursor]? = some s := by
    simp only [menu, Query.statusChoices, List.map_map, List.getElem?_map] at hline
    obtain ⟨s, hs, -⟩ := Option.map_eq_some_iff.1 hline
    exact ⟨s, hs⟩
  have hselect : c.dismissError.menuSelect.query = c.query.toggleStatus status := by
    simp [menuSelect, hdismissed, ho, hstatus, editQuery, homeCursor]
  have hshown : ∀ t, (c.handle .menuSelect).1.query.statuses.contains t
      = if t = status then !c.query.statuses.contains t else c.query.statuses.contains t := by
    intro t
    rw [hpage, hselect]
    exact c.query.statuses.contains_toggle status t
  refine ⟨?_, ?_⟩
  · simp only [menu, Query.statusChoices, List.map_map]
    refine map_eq_modify (by decide) hstatus ?_ fun t ht => ?_
    · simp [hshown]
    · simp [hshown, ht]
  · simp [overlay_menuSelect, ho]

theorem checked_sortLine (q : Query) (column : Column) :
    (sortLine q column).checked = true ↔ q.column = some column := by
  unfold sortLine
  split <;> simp_all

/-- The line of a column is the one that is sorted by, the other way round if it
was before; the menu closes. -/
theorem sortMenu_menuSelect (ho : c.display.overlay = .sortMenu)
    (hline : (c.menu .sortMenu)[c.display.menuCursor]? = some line) :
    (∀ j, ((c.handle .menuSelect).1.menu .sortMenu)[j]?.any (·.checked) = true
        ↔ j = c.display.menuCursor) ∧
      (c.handle .menuSelect).1.query.direction
        = (if line.checked then c.query.direction.flipped else .asc) ∧
      (c.handle .menuSelect).1.display.overlay = .none := by
  obtain ⟨_, _, hdismissed⟩ := c.dismissError_eq
  obtain ⟨⟨page, hpage⟩, -⟩ := c.handle_menuSelect
  simp only [menu, List.getElem?_map] at hline
  obtain ⟨column, hcolumn, rfl⟩ := Option.map_eq_some_iff.1 hline
  have hselect : c.dismissError.menuSelect.query = c.query.toggleSort column := by
    simp [menuSelect, hdismissed, ho, hcolumn, editDisplay]
  have hsorted : (c.query.toggleSort column).column = some column := by
    unfold Query.toggleSort
    split
    · assumption
    · rfl
  refine ⟨fun j => ?_, ?_, ?_⟩
  · -- the marked line is that of the column, which is in one place only
    have hmark : ∀ x, (sortLine (c.handle .menuSelect).1.query x).checked = true ↔ x = column := by
      intro x
      rw [checked_sortLine, hpage, hselect, Query.setPage, hsorted, Option.some.injEq, eq_comm]
    have hsame : Column.all[j]? = some column ↔ j = c.display.menuCursor := by
      obtain ⟨hi, -⟩ := List.getElem?_eq_some_iff.1 hcolumn
      rw [← hcolumn, eq_comm, List.getElem?_inj hi (by decide), eq_comm]
    rw [← hsame]
    simp only [menu, List.getElem?_map, Option.any_map, Option.any_eq_true, hmark]
    constructor
    · rintro ⟨x, hx, rfl⟩
      exact hx
    · exact fun hx => ⟨column, hx, rfl⟩
  · simp only [hpage, hselect, Query.setPage, Query.toggleSort, checked_sortLine]
    split <;> rfl
  · simp [overlay_menuSelect, ho]

/-- The formats are offered together or not at all. -/
theorem exports_iff_enabled {inventory : Inventory} {choice : ExportChoice}
    (h : choice ∈ inventory.exportChoices) :
    (inventory.exportChoices.any fun e => e.format == choice.format && e.enabled) = true
      ↔ choice.enabled = true := by
  constructor
  · intro hany
    obtain ⟨e, he, hexports⟩ := List.any_eq_true.1 hany
    obtain ⟨f, -, rfl⟩ := List.mem_map.1 h
    obtain ⟨f', -, rfl⟩ := List.mem_map.1 he
    exact (Bool.and_eq_true_iff.1 hexports).2
  · exact fun henabled => List.any_eq_true.2 ⟨choice, h, by simp [henabled]⟩

/-- The line of a format says whether there is something to export; the menu
closes. -/
theorem exportMenu_menuSelect (ho : c.display.overlay = .exportMenu)
    (hline : (c.menu .exportMenu)[c.display.menuCursor]? = some line) :
    (∃ n, (c.handle .menuSelect).1.display.notification = some n ∧
        n.level = if line.enabled then .info else .warning) ∧
      (c.handle .menuSelect).1.display.overlay = .none := by
  obtain ⟨_, _, hdismissed⟩ := c.dismissError_eq
  obtain ⟨-, hnote⟩ := c.handle_menuSelect
  simp only [menu, List.getElem?_map] at hline
  obtain ⟨choice, hchoice, rfl⟩ := Option.map_eq_some_iff.1 hline
  have hselect : c.dismissError.menuSelect
      = (c.dismissError.exportReport choice.format).editDisplay (·.closeOverlay) := by
    simp [menuSelect, hdismissed, ho, hchoice]
  have henabled := exports_iff_enabled (List.mem_of_getElem? hchoice)
  have hinventory : c.dismissError.inventory = c.inventory := by rw [hdismissed]
  rw [← hinventory] at henabled
  refine ⟨?_, ?_⟩
  · rw [hnote, hselect]
    by_cases he : choice.enabled = true
    · rw [exportReport, if_pos (henabled.2 he), if_pos he]
      exact ⟨_, rfl, rfl⟩
    · rw [exportReport, if_neg (he ∘ henabled.1), if_neg he]
      exact ⟨_, rfl, rfl⟩
  · simp [overlay_menuSelect, ho]

/-- **A menu acts on what it shows.**  An open menu has as many lines as its
cursor is told, and the cursor is on one of them.  Choosing that line changes
its mark over in the menu of statuses, and leaves the menu open; in the menu of
columns it becomes the one marked line, sorted the other way round if it was
marked before and in ascending order if not; in the export menu it is
acknowledged if it is enabled, and warned of if not.  These two menus close. -/
theorem Reached.menu_acts_on_shown_line (h : Reached table c)
    (ho : c.display.overlay.isMenu = true) :
    let lines := c.menu c.display.overlay
    let i := c.display.menuCursor
    let c' := (c.handle .menuSelect).1
    lines.length = c.display.overlay.menuLength ∧ i < lines.length ∧
      ∃ line, lines[i]? = some line ∧
        (c.display.overlay = .filterMenu →
          c'.menu .filterMenu = lines.modify i (fun l => { l with checked := !l.checked }) ∧
            c'.display.overlay = .filterMenu) ∧
        (c.display.overlay = .sortMenu →
          (∀ j, (c'.menu .sortMenu)[j]?.any (·.checked) = true ↔ j = i) ∧
            c'.query.direction = (if line.checked then c.query.direction.flipped else .asc) ∧
            c'.display.overlay = .none) ∧
        (c.display.overlay = .exportMenu →
          (∃ n, c'.display.notification = some n ∧
              n.level = if line.enabled then .info else .warning) ∧
            c'.display.overlay = .none) := by
  intro lines i c'
  have hlength : lines.length = c.display.overlay.menuLength := c.length_menu _
  have hi : i < lines.length := hlength ▸ h.fits ho
  obtain ⟨line, hline⟩ : ∃ line, lines[i]? = some line := ⟨_, List.getElem?_eq_getElem hi⟩
  refine ⟨hlength, hi, line, hline, fun hm => ?_, fun hm => ?_, fun hm => ?_⟩
  · simp only [lines, hm] at hline ⊢
    exact filterMenu_menuSelect hm hline
  · simp only [lines, hm] at hline
    exact sortMenu_menuSelect hm hline
  · simp only [lines, hm] at hline
    exact exportMenu_menuSelect hm hline

/-- The cursor stood on the last status when the menu of columns was opened over
it.  The second column is chosen, and chosen again: it is sorted in descending
order then, and no other line is marked. -/
theorem Reached.status_column_chosen_again :
    let down (c : Console) : Console := (c.handle .menuDown).1
    let sortMenu (c : Console) : Console := down (c.handle (.openOverlay .sortMenu)).1
    let statuses := down (down ((Console.start {}).handle (.openOverlay .filterMenu)).1)
    let c := sortMenu ((sortMenu statuses).handle .menuSelect).1
    let c' := (c.handle .menuSelect).1
    Reached {} c ∧ c.display.overlay = .sortMenu ∧ c.display.menuCursor = 1 ∧
      (∀ j, (c'.menu .sortMenu)[j]?.any (·.checked) = true ↔ j = 1) ∧
      c'.query.direction = .desc ∧ c'.display.overlay = .none := by
  intro down sortMenu statuses c c'
  have hopened : ∀ {c}, Reached {} c → Reached {} (sortMenu c) := fun h => (h.handle _).handle _
  have hstatuses : Reached {} statuses := ((Reached.start.handle _).handle _).handle _
  have hreached : Reached {} c := hopened ((hopened hstatuses).handle _)
  have hmenu : c.display.overlay = .sortMenu := by decide +kernel
  have hcursor : c.display.menuCursor = 1 := by decide +kernel
  have hmarked : (c.menu .sortMenu)[1]? = some ⟨"Status ▲", true, true⟩ := by decide +kernel
  have hasc : c.query.direction = .asc := by decide +kernel
  obtain ⟨-, -, line, hline, -, hsort, -⟩ :=
    hreached.menu_acts_on_shown_line (by rw [hmenu]; rfl)
  obtain ⟨hone, hdirection, hclosed⟩ := hsort hmenu
  rw [hmenu, hcursor, hmarked] at hline
  obtain rfl := Option.some.inj hline
  rw [hasc] at hdirection
  rw [hcursor] at hone
  exact ⟨hreached, hmenu, hcursor, hone, hdirection, hclosed⟩

end Console

end VmAssessment
