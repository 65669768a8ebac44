/-
VmAssessment/Proofs/Desk/Polling.lean

The pollers of a desk.  A desk is *tidy* if the poller it holds on to is the
only one that is not cancelled; cancelling, starting a poller and letting time
pass keep it so.  Hence at most one poller is live (`Tidy.live_length_le`),
and what the effects of a transition do to polling depends on the last of
them only: `watched_performAll` follows the generation that is watched
through a list of effects, and `errands_performAll` lists the requests that
it leads to.
-/
import VmAssessment.Dispatch.Basic
import VmAssessment.Proofs.Session.Turn

namespace VmAssessment

namespace Session.Effect

/-- The requests to the agent that an effect is. -/
def errands : Effect → List Errand
  | .connect g credentials => [.start g credentials]
  | .disconnect g => [.stop g]
  | .syncStatus g => [.sync g]
  | .fetchInventory g => [.inventory g]
  | .startPolling _ | .stopPolling => []

end Session.Effect

namespace Desk

variable {d : Desk} {g : Generation}

/-! ### Live pollers -/

/-- The pollers that are not cancelled. -/
def live (d : Desk) : List Poller := d.pollers.filter (!·.cancelled)

/-- The generations that are watched. -/
def watched (d : Desk) : List Generation := d.live.map (·.generation)

/-- The poller that the desk holds on to. -/
def heldPoller? (d : Desk) : Option Poller := d.held.bind (d.pollers[·]?)

/-- The only poller that is not cancelled is the one that the desk holds on
to. -/
structure Tidy (d : Desk) : Prop where
  cancelled : ∀ {i p}, d.pollers[i]? = some p → d.held ≠ some i → p.cancelled = true
  live_eq : d.live = d.heldPoller?.toList

theorem Tidy.live_length_le (h : d.Tidy) : d.live.length ≤ 1 := by
  rw [h.live_eq]
  cases d.heldPoller? <;> simp

theorem tidy_ofSettings (s : Settings) : (ofSettings s).Tidy :=
  ⟨fun h _ => by simp [ofSettings] at h, rfl⟩

/-! ### Cancelling and starting -/

/-- After cancelling, every poller is cancelled. -/
theorem Tidy.cancelled_cancel (h : d.Tidy) {i : Nat} {p : Poller}
    (hp : d.cancel.pollers[i]? = some p) : p.cancelled = true := by
  cases hd : d.held with
  | none =>
      rw [cancel, hd] at hp
      exact h.cancelled hp (by simp [hd])
  | some j =>
      simp only [cancel, hd, List.getElem?_modify] at hp
      by_cases hij : j = i
      · simp only [hij, if_true] at hp
        obtain ⟨q, -, rfl⟩ := Option.map_eq_some_iff.1 hp
        rfl
      · simp only [hij, if_false] at hp
        exact h.cancelled (by simpa using hp) (by simpa [hd] using hij)

@[simp] theorem held_cancel (d : Desk) : d.cancel.held = none := by
  unfold cancel
  split <;> simp_all

theorem Tidy.live_cancel (h : d.Tidy) : d.cancel.live = [] := by
  refine List.filter_eq_nil_iff.2 fun p hp => ?_
  obtain ⟨i, hi⟩ := List.getElem?_of_mem hp
  simp [h.cancelled_cancel hi]

theorem Tidy.cancel (h : d.Tidy) : d.cancel.Tidy where
  cancelled hp _ := h.cancelled_cancel hp
  live_eq := by simp [h.live_cancel, heldPoller?]

/-- The poller that the desk starts is the only live one. -/
theorem Tidy.live_watch (h : d.Tidy) (g : Generation) :
    (d.watch g).live = [{ generation := g, deadline := d.cancel.now + d.cancel.interval }] := by
  have hc : d.cancel.pollers.filter (!·.cancelled) = [] := h.live_cancel
  simp [live, watch, hc]

theorem Tidy.watch (h : d.Tidy) (g : Generation) : (d.watch g).Tidy where
  cancelled {i p} hp hne := by
    -- the new poller is the last of the list, and it is the one held
    have hi : i ≠ d.cancel.pollers.length := fun hi => hne (by simp [Desk.watch, hi])
    rcases Nat.lt_or_ge i d.cancel.pollers.length with hlt | hge
    · refine h.cancelled_cancel (i := i) ?_
      rwa [Desk.watch, List.getElem?_append_left hlt] at hp
    · rw [Desk.watch, List.getElem?_append_right hge] at hp
      have : i - d.cancel.pollers.length ≠ 0 := by omega
      simp [this] at hp
  live_eq := by
    rw [h.live_watch]
    simp [heldPoller?, Desk.watch]

theorem Tidy.watched_cancel (h : d.Tidy) : d.cancel.watched = [] := by
  simp [watched, h.live_cancel]

theorem Tidy.watched_watch (h : d.Tidy) (g : Generation) : (d.watch g).watched = [g] := by
  simp [watched, h.live_watch]

/-! ### What an action leaves to do -/

theorem Tidy.perform (h : d.Tidy) (e : Session.Effect) : (d.perform e).1.Tidy := by
  cases e with
  | startPolling g => exact h.watch g
  | stopPolling => exact h.cancel
  | _ => exact h

theorem Tidy.watched_perform (h : d.Tidy) (e : Session.Effect) :
    (d.perform e).1.watched = e.watched d.watched := by
  cases e with
  | startPolling g => exact h.watched_watch g
  | stopPolling => exact h.watched_cancel
  | _ => rfl

theorem errands_perform (d : Desk) (e : Session.Effect) : (d.perform e).2 = e.errands := by
  cases e <;> rfl

theorem Tidy.performAll {es : List Session.Effect} {d : Desk} (h : d.Tidy) :
    (d.performAll es).1.Tidy := by
  induction es generalizing d with
  | nil => exact h
  | cons e rest ih => exact ih (h.perform e)

/-- Only the effects say what is watched after them. -/
theorem Tidy.watched_performAll {es : List Session.Effect} {d : Desk} (h : d.Tidy) :
    (d.performAll es).1.watched = es.foldl Session.Effect.watched d.watched := by
  induction es generalizing d with
  | nil => rfl
  | cons e rest ih =>
      rw [List.foldl_cons, ← h.watched_perform e]
      exact ih (h.perform e)

theorem errands_performAll (es : List Session.Effect) (d : Desk) :
    (d.performAll es).2 = es.flatMap (·.errands) := by
  induction es generalizing d with
  | nil => rfl
  | cons e rest ih =>
      rw [List.flatMap_cons, ← ih (d.perform e).1, ← d.errands_perform e]
      rfl

@[simp] theorem console_cancel (d : Desk) : d.cancel.console = d.console := by
  unfold cancel
  split <;> rfl

@[simp] theorem console_watch (d : Desk) (g : Generation) : (d.watch g).console = d.console :=
  d.console_cancel

theorem console_performAll (es : List Session.Effect) (d : Desk) :
    (d.performAll es).1.console = d.console := by
  induction es generalizing d with
  | nil => rfl
  | cons e rest ih =>
      refine (ih (d.perform e).1).trans ?_
      cases e with
      | startPolling g => exact d.console_watch g
      | stopPolling => exact d.console_cancel
      | _ => rfl

/-- The desk after an action: the console's answer to it, then the effects. -/
theorem handle_eq (d : Desk) (a : Action) :
    (d.handle a).1
      = (({ d with console := (d.console.handle a).1 } : Desk).performAll
          (d.console.handle a).2.effects).1 := rfl

theorem errands_handle (d : Desk) (a : Action) :
    (d.handle a).2.1
      = (d.console.handle a).2.effects.flatMap (·.errands)
        ++ agentErrand (d.console.handle a).2 := by
  rw [← errands_performAll _ { d with console := (d.console.handle a).1 }]
  rfl

theorem console_handle (d : Desk) (a : Action) :
    (d.handle a).1.console = (d.console.handle a).1 := by
  rw [handle_eq, console_performAll]

theorem Tidy.handle (h : d.Tidy) (a : Action) : (d.handle a).1.Tidy := by
  rw [handle_eq]
  exact Tidy.performAll ⟨h.cancelled, h.live_eq⟩

theorem Tidy.watched_handle (h : d.Tidy) (a : Action) :
    (d.handle a).1.watched
      = (d.console.handle a).2.effects.foldl Session.Effect.watched d.watched := by
  rw [handle_eq]
  exact Tidy.watched_performAll ⟨h.cancelled, h.live_eq⟩

/-- At its start the console only asks the agent. -/
theorem attach_eq (d : Desk) :
    d.attach = (d, [.sync d.console.session.generation, .agent]) := rfl

theorem Tidy.attach (h : d.Tidy) : d.attach.1.Tidy := by
  rw [attach_eq]
  exact h

/-! ### Time -/

/-- Time passes: the clock moves, and with it the pollers' deadlines. -/
def pass (d : Desk) (now : Nat) (deadline : Poller → Nat) : Desk :=
  { d with now, pollers := d.pollers.map fun p => { p with deadline := deadline p } }

theorem live_pass (d : Desk) (now : Nat) (deadline : Poller → Nat) :
    (d.pass now deadline).live = d.live.map fun p => { p with deadline := deadline p } := by
  simp [live, pass, List.filter_map, Function.comp_def]

theorem watched_pass (d : Desk) (now : Nat) (deadline : Poller → Nat) :
    (d.pass now deadline).watched = d.watched := by
  simp [watched, live_pass]

theorem Tidy.pass (h : d.Tidy) (now : Nat) (deadline : Poller → Nat) :
    (d.pass now deadline).Tidy where
  cancelled {i p} hp hne := by
    simp only [Desk.pass, List.getElem?_map] at hp
    obtain ⟨q, hq, rfl⟩ := Option.map_eq_some_iff.1 hp
    exact (h.cancelled hq hne : q.cancelled = true)
  live_eq := by
    rw [live_pass, h.live_eq]
    cases hd : d.held with
    | none => simp [heldPoller?, Desk.pass, hd]
    | some i => cases hi : d.pollers[i]? <;> simp [heldPoller?, Desk.pass, hd, hi]

end Desk

end VmAssessment
