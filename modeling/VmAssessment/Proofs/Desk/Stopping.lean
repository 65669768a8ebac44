/-
VmAssessment/Proofs/Desk/Stopping.lean

A collection that was stopped stays stopped.  Whatever was asked before the
stop, and however late and often it is answered, nothing starts again by
itself: the session rests until the user starts a collection or asks for the
agent's status (`Echoing.stop_sticks`).

The stop opens a new generation, which nothing that was asked before carries,
and asks for nothing but the stop itself.  So while the session rests, an
answer is of another generation, or it is the answer to the stop, or it is
about the agent (`Stopped.rests`); and to none of them is there anything left
to do (`Console.Rests`).
-/
import Mathlib.Logic.Relation
import VmAssessment.Proofs.Console.Parts
import VmAssessment.Proofs.Desk.Echoing

namespace VmAssessment

open Relation (ReflTransGen)

/-! ### Consoles at rest -/

/-- A stop that is accepted stops polling, and tells the agent at most. -/
theorem Session.mem_effects_stop {s : Session} (h : s.phase ≠ .ready) {f : Session.Effect}
    (hf : f ∈ s.stop.effects) : f = .stopPolling ∨ f = .disconnect s.generation.next := by
  rw [stop_of_ne_ready h] at hf
  rcases List.mem_cons.1 hf with rfl | hf
  · exact .inl rfl
  · split at hf
    · exact .inr (List.mem_singleton.1 hf)
    · cases hf

theorem Session.outcome_start_of_ready {s : Session} (h : s.phase = .ready) (c : Credentials) :
    (s.step (.start c)).outcome = .applied := by
  have hinactive : s.phase.isActive = false := by rw [h]; rfl
  rw [step_of_current rfl, apply, start_of_inactive hinactive]

namespace Console

variable {c : Console} {a : Action}

/-- Sending the form is to start a collection, if it is anything. -/
theorem start_of_submitLogin {e : Session.Event} (he : c.event? .submitLogin = some e) :
    ∃ credentials, e = .start credentials := by
  simp only [event?] at he
  split at he
  · exact ⟨_, (Option.some.inj he).symm⟩
  · cases he

/-- An action leaves nothing to do, and of the session and the inventory it
changes at most whether a request is in flight. -/
structure Rests (c : Console) (a : Action) : Prop where
  effects : (c.handle a).2.effects = []
  inventory : (c.handle a).1.inventory = c.inventory
  session : ∃ busy, (c.handle a).1.session = { c.session with busy }

theorem inventory_handle (h : .inventory ∉ a.reach) : (c.handle a).1.inventory = c.inventory :=
  c.handle_agree a h (by decide)

/-- Without an event. -/
theorem rests_of_idle (he : c.event? a = none) (hp : c.session.phase ≠ .collected)
    (hi : .inventory ∉ a.reach) : c.Rests a where
  effects := handle_effects_of_idle he hp
  inventory := inventory_handle hi
  session := ⟨_, session_of_no_event he⟩

/-- At a reply of another generation. -/
theorem rests_of_stale {d : Delivery} {g : Generation} (ht : d.tag? = some g)
    (hg : g ≠ c.session.generation) : c.Rests (.deliver d) := by
  refine ⟨?_, ?_, c.session.busy, ?_⟩ <;> rw [handle_of_stale ht hg]
  · exact c.agree_refresh (p := .inventory) (by decide)
  · exact c.agree_refresh (p := .session) (by decide)

/-- At a reply that is about the agent. -/
theorem rests_of_agent (hp : c.session.phase ≠ .collected) (result : Except Fault AgentStatus) :
    c.Rests (.deliver (.agent result)) :=
  rests_of_idle rfl hp (by simp [Action.reach])

/-- At a stop when there is nothing to stop. -/
theorem rests_of_nothingToStop (hp : c.session.phase = .ready) : c.Rests .stopCollection := by
  obtain ⟨hsession, heffects⟩ := c.handle_session .stopCollection
  rw [Session.step_of_current rfl, Session.apply, Session.stop_of_ready hp] at hsession heffects
  exact ⟨heffects, inventory_handle (by decide), _, hsession⟩

/-- At the answer to the stop of this generation, or at the failure to tell
the agent. -/
theorem rests_of_stopped (result : Except Fault (Option StatusReport)) :
    c.Rests (.deliver (.stopped c.session.generation result)) := by
  obtain ⟨e, he, hstep⟩ : ∃ e, c.event? (.deliver (.stopped c.session.generation result)) = some e ∧
      c.session.step e = c.session.stopAnswered := by
    cases result with
    | ok report =>
        exact ⟨_, rfl, Session.step_of_current (by simp [Session.isStale, Session.Event.tag?])⟩
    | error fault =>
        exact ⟨_, rfl, Session.step_of_current (by simp [Session.isStale, Session.Event.tag?])⟩
  have hs := c.handle_session (.deliver (.stopped c.session.generation result))
  rw [he] at hs
  obtain ⟨hsession, heffects⟩ := hs
  rw [hstep] at hsession heffects
  exact ⟨heffects.trans c.session.stopAnswered_effects, inventory_handle (by simp [Action.reach]),
    false, hsession.trans c.session.stopAnswered_next⟩

end Console

namespace Situation

variable {w w' : Situation} {g : Generation} {inventory : Inventory}

/-! ### At rest -/

/-- The user asks for the agent's status, or starts a collection and it is
accepted. -/
def Resumes (w : Situation) : Occurrence → Prop
  | .act .syncStatus => True
  | .act .submitLogin => ∃ c, w.desk.console.event? .submitLogin = some (.start c) ∧
      (w.session.step (.start c)).outcome = .applied
  | _ => False

/-- What happens to the console while the user does not resume: something
occurs, or an open request is open once more. -/
inductive Idles (w : Situation) : Situation → Prop
  | step {x : Occurrence} : w.Possible x → ¬ w.Resumes x → Idles w (w.after x)
  | again {e : Errand} : e ∈ w.pending → Idles w (w.again e)

/-- Replies alone do not resume. -/
theorem idles_run {xs : List Occurrence} (hxs : ∀ x ∈ xs, ∀ a, x ≠ .act a)
    (hr : w.run? xs = some w') : ReflTransGen Idles w w' := by
  induction xs generalizing w with
  | nil => exact Option.some.inj hr ▸ .refl
  | cons x rest ih =>
      by_cases hx : w.Possible x
      · rw [Situation.run?, if_pos hx] at hr
        have hresumes : ¬ w.Resumes x := by
          cases x with
          | act a => exact absurd rfl (hxs _ List.mem_cons_self a)
          | _ => exact id
        exact .head (.step hx hresumes) (ih (fun y hy => hxs y (List.mem_cons_of_mem _ hy)) hr)
      · rw [Situation.run?, if_neg hx] at hr
        cases hr

/-- What an occurrence leaves to do for the session. -/
def effects (w : Situation) (x : Occurrence) : List Session.Effect :=
  match x.action? with
  | some a => (w.desk.console.handle a).2.effects
  | none => []

/-- The session is ready under a generation.  Of this generation only the stop
was asked, and no poller was started. -/
structure Stopped (g : Generation) (inventory : Inventory) (w : Situation) : Prop where
  phase : w.session.phase = .ready
  error : w.session.error = none
  generation : w.session.generation = g
  inventory : w.desk.console.inventory = inventory
  pending : ∀ e ∈ w.pending, e.tag? = some g → e = .stop g
  started : g ∉ w.desk.started

theorem Stopped.of_subset (h : w.Stopped g inventory) {ps : List Errand} (hps : ps ⊆ w.pending) :
    { w with pending := ps }.Stopped g inventory :=
  { h with pending := fun e he => h.pending e (hps he) }

/-- **While the session is stopped, the console rests** at whatever occurs, the
user's resuming apart. -/
theorem Stopped.rests (h : w.Stopped g inventory) {x : Occurrence} (hx : w.Possible x)
    (hr : ¬ w.Resumes x) {a : Action} (ha : x.action? = some a) : w.desk.console.Rests a := by
  have hcollected : w.desk.console.session.phase ≠ .collected := by
    rw [show w.desk.console.session.phase = _ from h.phase]
    decide
  cases x with
  | pass now deadline => cases ha
  | act a' =>
      obtain rfl := Option.some.inj ha
      cases a' with
      | deliver d => exact hx.elim
      | syncStatus => exact (hr trivial).elim
      | stopCollection => exact Console.rests_of_nothingToStop h.phase
      | submitLogin =>
          cases he : w.desk.console.event? .submitLogin with
          | none => exact Console.rests_of_idle he hcollected (by decide)
          | some e =>
              -- a form in order starts a collection, and a ready session accepts it
              obtain ⟨c, rfl⟩ := Console.start_of_submitLogin he
              exact (hr ⟨c, he, Session.outcome_start_of_ready h.phase c⟩).elim
      | _ => exact Console.rests_of_idle rfl hcollected (by simp [Action.reach])
  | report g' result =>
      obtain rfl := Option.some.inj ha
      obtain ⟨p, hp, rfl⟩ := hx
      -- the poller was started before the stop
      have hg : p.generation ≠ g := fun hg => h.started (hg ▸ List.mem_map_of_mem hp)
      exact Console.rests_of_stale rfl (h.generation ▸ hg)
  | answer q result =>
      obtain rfl := Option.some.inj ha
      cases hq : q.tag? with
      | none =>
          cases q with
          | agent | setMode mode => exact Console.rests_of_agent hcollected result
          | _ => cases hq
      | some g' =>
          by_cases hg : g' = g
          · subst hg
            obtain rfl := h.pending q hx hq
            have := Console.rests_of_stopped (c := w.desk.console) result
            rwa [show w.desk.console.session.generation = g' from h.generation] at this
          · exact Console.rests_of_stale ((q.tag?_delivery result).trans hq) (h.generation ▸ hg)

/-- An action at which the console rests leaves the session stopped. -/
theorem Stopped.handle (h : w.Stopped g inventory) {a : Action} (hr : w.desk.console.Rests a) :
    (w.handle a).Stopped g inventory := by
  obtain ⟨busy, hsession⟩ := hr.session
  have hs : (w.handle a).session = { w.session with busy } := (w.session_handle a).trans hsession
  refine ⟨?_, ?_, ?_, ?_, ?_, ?_⟩
  · exact (congrArg Session.phase hs).trans h.phase
  · exact (congrArg Session.error hs).trans h.error
  · exact (congrArg Session.generation hs).trans h.generation
  · rw [console_handle]
    exact hr.inventory.trans h.inventory
  · intro e he hg
    rcases mem_pending_handle he hg with he | ⟨f, hf, -⟩
    · exact h.pending e he hg
    · rw [hr.effects] at hf
      cases hf
  · intro hg
    rcases Desk.mem_started_handle hg with hg | hf
    · exact h.started hg
    · rw [hr.effects] at hf
      cases hf

theorem Stopped.after (h : w.Stopped g inventory) {x : Occurrence} (hx : w.Possible x)
    (hr : ¬ w.Resumes x) : (w.after x).Stopped g inventory := by
  rcases w.after_cases x with ⟨a, ha, ps, hps, hafter⟩ | ⟨-, now, deadline, hafter⟩ <;> rw [hafter]
  · exact (h.of_subset hps).handle (h.rests hx hr ha)
  · exact { h with started := (w.desk.started_pass now deadline).symm ▸ h.started }

/-- **A stopped session stays stopped.** -/
theorem Stopped.idles (h : w.Stopped g inventory) (hi : w.Idles w') : w'.Stopped g inventory := by
  cases hi with
  | step hx hr => exact h.after hx hr
  | again he => exact h.of_subset (List.cons_subset.2 ⟨he, List.Subset.refl _⟩)

theorem Stopped.run (h : w.Stopped g inventory) (hr : ReflTransGen Idles w w') :
    w'.Stopped g inventory := by
  induction hr with
  | refl => exact h
  | tail _ hi ih => exact ih.idles hi

end Situation

namespace Echoing

variable {s : Settings} {w w' : Situation}

/-- An accepted stop opens a generation of its own, under which it asks for
nothing but the stop. -/
theorem stopped (h : Echoing s w) (hc : w.commands + 1 < UInt64.size)
    (ho : (w.session.step .stop).outcome = .applied) :
    (w.after (.act .stopCollection)).Stopped w.session.generation.next
      w.desk.console.inventory := by
  have hnext := h.numbered.toNat_next hc
  have hstep : w.session.step .stop = w.session.stop := Session.step_of_current rfl
  have hready : w.session.phase ≠ .ready := by
    intro hp
    rw [hstep, Session.stop_of_ready hp] at ho
    cases ho
  have ht : w.Takes .stop (w.after (.act .stopCollection)) :=
    Situation.takes_after (x := .act .stopCollection) h.tidy trivial rfl
  have hsession := ht.session
  rw [hstep, Session.stop_of_ne_ready hready] at hsession
  have heffects : (w.desk.console.handle .stopCollection).2.effects = w.session.stop.effects :=
    hstep ▸ (w.desk.console.handle_session .stopCollection).2
  have hstops : ∀ f ∈ (w.desk.console.handle .stopCollection).2.effects,
      f = .stopPolling ∨ f = .disconnect w.session.generation.next := fun f hf =>
    Session.mem_effects_stop hready (heffects ▸ hf)
  refine ⟨?_, ?_, ?_, ?_, ?_, ?_⟩
  · exact congrArg Session.phase hsession
  · exact congrArg Session.error hsession
  · exact congrArg Session.generation hsession
  · rw [Situation.after, Situation.console_handle]
    exact Console.inventory_handle (by decide)
  · intro e he hg
    rcases Situation.mem_pending_handle he hg with he | ⟨f, hf, hfg, hef⟩
    · have := h.traced.pending e he _ hg
      omega
    · rcases hstops f hf with rfl | rfl
      · cases hfg
      · exact List.mem_singleton.1 hef
  · intro hg
    rcases Desk.mem_started_handle (d := w.desk) (a := .stopCollection) hg with hg | hf
    · have := h.traced.started _ hg
      omega
    · rcases hstops _ hf with hf | hf <;> cases hf

/-- **A stop sticks.**  Until the user asks for the agent's status or starts a
collection, whatever else the user does, and whatever is answered, in whatever
order and number: the session stays ready, without an error and under the
generation that the stop opened; the inventory stays as it was; and nothing is
left to do for the session.  Generations come round after so many commands as
a machine word can count; there have to be fewer. -/
theorem stop_sticks (h : Echoing s w) (hc : w.commands + 1 < UInt64.size)
    (ho : (w.session.step .stop).outcome = .applied)
    (hr : ReflTransGen Situation.Idles (w.after (.act .stopCollection)) w') :
    w'.session.phase = .ready ∧ w'.session.error = none ∧
      w'.session.generation = w.session.generation.next ∧
      w'.desk.console.inventory = w.desk.console.inventory ∧
      ∀ x, w'.Possible x → ¬ w'.Resumes x → w'.effects x = [] := by
  have hs := (h.stopped hc ho).run hr
  refine ⟨hs.phase, hs.error, hs.generation, hs.inventory, fun x hx hresumes => ?_⟩
  cases ha : x.action? with
  | none => rw [Situation.effects, ha]
  | some a =>
      rw [Situation.effects, ha]
      exact (hs.rests hx hresumes ha).effects

/-- What was asked before the stop, and the stop itself, answered late: the
status twice, the poll, and the failure to tell the agent. -/
def lateCourse : List Occurrence :=
  [.answer (.sync ⟨1⟩) (.ok { phase := .collecting }),
    .answer (.sync ⟨1⟩) (.error (.network "timeout")),
    .report ⟨1⟩ (.ok { phase := .collected }),
    .answer (.stop ⟨2⟩) (.error (.network "timeout"))]

/-- A watched collection is stopped while its status is asked for, and stays
stopped after all the late answers; another poll leaves nothing to do. -/
theorem stopped_despite_late_answers :
    ∃ w w', Echoing {} w ∧ w.commands + 1 < UInt64.size ∧
      (w.session.step .stop).outcome = .applied ∧
      ReflTransGen Situation.Idles (w.after (.act .stopCollection)) w' ∧
      w'.session.phase = .ready ∧ w'.session.error = none ∧
      ∃ x, w'.Possible x ∧ ¬ w'.Resumes x ∧ w'.effects x = [] := by
  obtain ⟨w, hw, hc, ho, hsync, hrun⟩ := Reachable.start.exists_of_run (s := {})
    (P := fun w => w.commands + 1 < UInt64.size ∧ (w.session.step .stop).outcome = .applied ∧
      .sync ⟨1⟩ ∈ (w.after (.act .stopCollection)).pending ∧
      (((w.after (.act .stopCollection)).again (.sync ⟨1⟩)).run? lateCourse).any
        (·.Possible (.report ⟨1⟩ (.error (.network "timeout")))) = true)
    (Situation.loginCourse ++ [.act .syncStatus,
      .answer (.start ⟨1⟩ ⟨"http://h", "u", "p"⟩) (.ok { phase := .connecting })])
    (by decide +kernel)
  obtain ⟨w', hw', hx⟩ := (Option.any_eq_true _ _).1 hrun
  have hlate : ∀ x ∈ lateCourse, ∀ a, x ≠ .act a := by simp [lateCourse]
  have hidles : ReflTransGen Situation.Idles (w.after (.act .stopCollection)) w' :=
    .head (.again hsync) (Situation.idles_run hlate hw')
  obtain ⟨hphase, herror, -, -, heffects⟩ := stop_sticks hw.echoing hc ho hidles
  have hpossible := of_decide_eq_true hx
  exact ⟨w, w', hw.echoing, hc, ho, hidles, hphase, herror, _, hpossible, id,
    heffects _ hpossible id⟩

end Echoing

end VmAssessment
