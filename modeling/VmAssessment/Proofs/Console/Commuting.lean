/-
VmAssessment/Proofs/Console/Commuting.lean

Edits of the query and replies of the agent commute.  A reply acts on the
session, the inventory and the agent, and on nothing that an edit reaches
(`deliver_congr`); so only the page and the cursor are moved by both, and for
these the order does not matter either (`Spot.settle_edit_comm`).
-/
import VmAssessment.Proofs.Console.Spots

namespace VmAssessment

namespace Console

variable {c c' : Console}

/-- Two consoles with the same data, which show the same rows and have the
cursor on the same one. -/
structure SameData (c c' : Console) : Prop where
  session : c.session = c'.session
  inventory : c.inventory = c'.inventory
  agent : c.agent = c'.agent
  query : c.query = c'.query
  selection : c.selection = c'.selection
  cursor : c.display.cursor = c'.display.cursor
  pageRows : c.pageRows = c'.pageRows

/-! ### What replies act on -/

/-- The parts that replies act on. -/
structure SameCore (c c' : Console) : Prop where
  session : c.session = c'.session
  inventory : c.inventory = c'.inventory
  agent : c.agent = c'.agent

theorem SameCore.takeInventory (h : c.SameCore c') (result : Except Fault (List Vm)) :
    (c.takeInventory result).SameCore (c'.takeInventory result) := by
  obtain ⟨hs, hi, ha⟩ := h
  cases result with
  | error fault => exact ⟨hs, congrArg (·.recordFailure fault.userMessage) hi, ha⟩
  | ok batch =>
      simp only [Console.takeInventory, hi]
      split <;> exact ⟨hs, rfl, ha⟩

theorem SameCore.sessionEvent (h : c.SameCore c') (e : Session.Event) :
    (c.sessionEvent e).1.SameCore (c'.sessionEvent e).1 ∧
      (c.sessionEvent e).2 = (c'.sessionEvent e).2 := by
  obtain ⟨hs, hi, ha⟩ := h
  simp only [Console.sessionEvent, hs, and_true]
  split <;> exact ⟨rfl, hi, ha⟩

/-- **A reply does the same to consoles whose session, inventory and agent are
the same**, and leaves the same to do. -/
theorem SameCore.deliver (h : c.SameCore c') (d : Delivery) :
    (c.deliver d).1.SameCore (c'.deliver d).1 ∧ (c.deliver d).2 = (c'.deliver d).2 := by
  have event : ∀ e, (dropOutcome (c.sessionEvent e)).1.SameCore
      (dropOutcome (c'.sessionEvent e)).1 ∧
        (dropOutcome (c.sessionEvent e)).2 = (dropOutcome (c'.sessionEvent e)).2 :=
    fun e => ⟨(h.sessionEvent e).1, congrArg Prod.fst (h.sessionEvent e).2⟩
  rcases d with ⟨g, fault | r⟩ | ⟨g, fault | r⟩ | ⟨g, fault | r⟩ | ⟨g, fault | r⟩ |
    ⟨g, result⟩ | fault | status
  case stopped.error =>
    obtain ⟨hcore, heffects⟩ := h.sessionEvent (.stopFailed g fault.userMessage)
    simp only [Console.deliver, heffects, and_true]
    split
    · exact ⟨hcore.session, hcore.inventory, hcore.agent⟩
    · exact hcore
  case inventory =>
    simp only [Console.deliver, h.session, and_true]
    split
    · exact h.takeInventory result
    · exact h
  case agent.error =>
    exact ⟨⟨h.session, h.inventory, congrArg (·.recordFailure fault.userMessage) h.agent⟩, rfl⟩
  case agent.ok =>
    exact ⟨⟨h.session, h.inventory, congrArg (·.applyStatus status) h.agent⟩, rfl⟩
  all_goals exact event _

theorem sameCore_refresh (c : Console) : c.refresh.1.SameCore c :=
  ⟨agree_refresh (p := .session) c (by decide), agree_refresh (p := .inventory) c (by decide),
    agree_refresh (p := .agent) c (by decide)⟩

theorem SameCore.trans {c'' : Console} (h : c.SameCore c') (h' : c'.SameCore c'') :
    c.SameCore c'' :=
  ⟨h.session.trans h'.session, h.inventory.trans h'.inventory, h.agent.trans h'.agent⟩

theorem SameCore.symm (h : c.SameCore c') : c'.SameCore c :=
  ⟨h.session.symm, h.inventory.symm, h.agent.symm⟩

theorem SameCore.handle_deliver (h : c.SameCore c') (d : Delivery) :
    (c.handle (.deliver d)).1.SameCore (c'.handle (.deliver d)).1 ∧
      (c.handle (.deliver d)).2 = (c'.handle (.deliver d)).2 := by
  obtain ⟨hcore, heffects⟩ := h.deliver d
  have hrefreshed := ((c.deliver d).1.sameCore_refresh.trans hcore).trans
    (c'.deliver d).1.sameCore_refresh.symm
  refine ⟨⟨hrefreshed.session, hrefreshed.inventory, hrefreshed.agent⟩, ?_⟩
  exact congrArg (fun effects => ({ effects } : Followups)) heffects

/-- An edit of the query touches none of this, and leaves nothing to do. -/
theorem sameCore_handle_edit (c : Console) {a : Action} (ha : a.IsViewEdit) :
    (c.handle a).1.SameCore c where
  session := handle_agree (p := .session) c a (ha.not_mem_reach (by decide)) (by decide)
  inventory := handle_agree (p := .inventory) c a (ha.not_mem_reach (by decide)) (by decide)
  agent := handle_agree (p := .agent) c a (ha.not_mem_reach (by decide)) (by decide)

theorem selection_handle_edit (c : Console) {a : Action} (ha : a.IsViewEdit) :
    (c.handle a).1.selection = c.selection :=
  handle_agree (p := .selection) c a (ha.not_mem_reach (by decide)) (by decide)

theorem selection_handle_deliver (c : Console) (d : Delivery) :
    (c.handle (.deliver d)).1.selection = c.selection :=
  handle_agree (p := .selection) c _ (by cases d <;> simp [Action.reach]) (by decide)

theorem followups_of_edit (c : Console) {a : Action} (ha : a.IsViewEdit) : (c.handle a).2 = {} := by
  rw [handle_of_users ha.isUsers ha.ne_quit]
  cases ha <;> rfl

/-! ### The two orders -/

namespace Reached

variable {table : TableSettings}

/-- **Edits of the query and replies of the agent commute.**  In whichever order
they come, the data are the same afterwards, and so are the shown rows and the
row under the cursor.  The reply leaves the same to do in both orders, and the
edit leaves nothing. -/
theorem edit_reply_commute (h : Reached table c) {u : Action} (hu : u.IsViewEdit) (d : Delivery) :
    let edited := c.handle u
    let replied := c.handle (.deliver d)
    (edited.1.handle (.deliver d)).1.SameData (replied.1.handle u).1 ∧
      (edited.1.handle (.deliver d)).2 = replied.2 ∧
      edited.2 = {} ∧ (replied.1.handle u).2 = {} := by
  intro edited replied
  have hedited : Reached table edited.1 := h.handle u
  have hreplied : Reached table replied.1 := h.handle (.deliver d)
  obtain ⟨hcore, heffects⟩ := (sameCore_handle_edit c hu).handle_deliver d
  have hsame : (edited.1.handle (.deliver d)).1.SameCore (replied.1.handle u).1 :=
    hcore.trans (sameCore_handle_edit replied.1 hu).symm
  have hselection :
      (edited.1.handle (.deliver d)).1.selection = (replied.1.handle u).1.selection := by
    rw [selection_handle_deliver, selection_handle_edit c hu, selection_handle_edit replied.1 hu,
      selection_handle_deliver]
  -- the edit is settled on the machines before and after the reply, or on those after it only
  have hspot : (edited.1.handle (.deliver d)).1.spot = (replied.1.handle u).1.spot := by
    have hbefore : edited.1.spot = (c.spot.edit c.table u).settle c.inventory.records :=
      h.shown.spot_handle_edit hu
    have hafter : replied.1.spot = c.spot.settle replied.1.inventory.records :=
      h.shown.spot_handle_deliver d
    rw [hedited.shown.spot_handle_deliver d, hreplied.shown.spot_handle_edit hu, hbefore, hafter,
      hcore.inventory, table_handle]
    exact Spot.settle_edit_comm c.table hu h.shown.settle_spot replied.1.inventory.records
  have hquery := congrArg Spot.query hspot
  have hpage : (edited.1.handle (.deliver d)).1.pageRows = (replied.1.handle u).1.pageRows := by
    have hquery' : (edited.1.handle (.deliver d)).1.query = (replied.1.handle u).1.query := hquery
    rw [(hedited.handle (.deliver d)).shown.pageRows_eq, (hreplied.handle u).shown.pageRows_eq,
      hsame.inventory, hquery']
  exact ⟨⟨hsame.session, hsame.inventory, hsame.agent, hquery, hselection,
    congrArg Spot.cursor hspot, hpage⟩, heffects, followups_of_edit c hu,
    followups_of_edit replied.1 hu⟩

/-- The first page is sorted while a batch of one machine is on its way to a
report on two, of which the second is under the cursor. -/
theorem sorted_while_batch_arrives :
    let vm (id : VmId) : Vm := { (default : Vm) with id }
    let arrives (batch : List Vm) : Delivery := .inventory {} (.ok batch)
    let c := ((Console.start {}).handle (.deliver (arrives [vm "vm-1", vm "vm-2"]))).1
    let c := (c.handle .cursorDown).1
    Reached {} c ∧ (Action.sortBy .name).IsViewEdit ∧ c.display.cursor = 1 ∧
      ((c.handle (.sortBy .name)).1.handle (.deliver (arrives [vm "vm-3"]))).1.SameData
        ((c.handle (.deliver (arrives [vm "vm-3"]))).1.handle (.sortBy .name)).1 := by
  intro vm arrives c₀ c
  have hreached : Reached {} c := (Reached.start.handle _).handle _
  have hedit : (Action.sortBy .name).IsViewEdit := .sortBy .name
  exact ⟨hreached, hedit, by decide +kernel,
    (edit_reply_commute hreached hedit (arrives [vm "vm-3"])).1⟩

end Reached

end Console

end VmAssessment
