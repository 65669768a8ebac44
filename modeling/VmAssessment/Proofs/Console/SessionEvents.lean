/-
VmAssessment/Proofs/Console/SessionEvents.lean

What an action of the console is to its session.  `Console.event?` names the
event that an action feeds to the session, if it feeds one at all; the
dispatcher's whole table is then one statement (`handle_session`): the session
takes the step of that event, and what is left to do are the effects of that
step.  Without an event the session stays, and at most the inventory is asked
for.
-/
import VmAssessment.Proofs.Console.Parts
import VmAssessment.Proofs.Session.Step

namespace VmAssessment

/-! ### The event of an action -/

/-- What a reply of the agent is to the session. -/
def Delivery.event? : Delivery → Option Session.Event
  | .started g (.ok report) => some (.startResolved g report)
  | .started g (.error fault) => some (.startFailed g fault.userMessage)
  | .stopped g (.ok _) => some (.stopResolved g)
  | .stopped g (.error fault) => some (.stopFailed g fault.userMessage)
  | .polled g (.ok report) => some (.pollResolved g report)
  | .synced g (.ok report) => some (.statusSynced g report)
  | .polled g (.error fault) | .synced g (.error fault) =>
    some (.statusFetchFailed g fault.userMessage)
  | .inventory _ _ | .agent _ => none

namespace Console

/-- What an action is to the session.  The login form starts a collection
only if it is in order. -/
def event? (c : Console) : Action → Option Session.Event
  | .submitLogin =>
    match c.login.credentials with
    | .ok credentials => some (.start credentials)
    | .error _ => none
  | .stopCollection => some .stop
  | .syncStatus => some .attach
  | .deliver delivery => delivery.event?
  | _ => none

variable {c : Console}

/-! ### The session's step -/

/-- A session event makes the session take its step. -/
theorem sessionEvent_spec (c : Console) (e : Session.Event) :
    (c.sessionEvent e).1.session = (c.session.step e).next ∧
      (c.sessionEvent e).2 = ((c.session.step e).effects, (c.session.step e).outcome) := by
  refine ⟨?_, rfl⟩
  simp only [sessionEvent]
  split <;> rfl

/-- A result in which the session has taken the step of an event, and the
step's effects are what is left to do.  Without an event the session is as it
was, and at most the inventory is asked for. -/
def Obeys (c : Console) (e : Option Session.Event) (r : Console × Followups) : Prop :=
  match e with
  | some e => r.1.session = (c.session.step e).next ∧ r.2.effects = (c.session.step e).effects
  | none =>
    r.1.session = c.session ∧
      (r.2.effects = [] ∨ r.2.effects = [.fetchInventory c.session.generation])

theorem session_tellOutcome (c : Console) (done : String) (o : Session.Outcome) :
    (c.tellOutcome done o).session = c.session :=
  ((confined_tellOutcome done o).sameBut c).agree (p := .session) (by decide)

theorem submitLogin_spec (c : Console) :
    c.Obeys (c.event? .submitLogin) (withEffects c.submitLogin) := by
  cases h : c.login.credentials with
  | error fault =>
      simp only [event?, h, submitLogin, LoginForm.submit]
      exact ⟨rfl, .inl rfl⟩
  | ok credentials =>
      simp only [event?, h, submitLogin, LoginForm.submit]
      refine ⟨(session_tellOutcome _ _ _).trans ?_, rfl⟩
      split <;> rfl

theorem deliver_spec (c : Console) (d : Delivery) :
    c.Obeys d.event? (withEffects (c.deliver d)) := by
  have steps : ∀ e, c.Obeys (some e) (withEffects (dropOutcome (c.sessionEvent e))) :=
    fun e => ⟨(c.sessionEvent_spec e).1, rfl⟩
  have hreach := (confined_deliver d).sameBut c
  rcases d with ⟨g, fault | r⟩ | ⟨g, fault | r⟩ | ⟨g, fault | r⟩ | ⟨g, fault | r⟩ |
    ⟨g, result⟩ | fault | status
  case stopped.error =>
    refine ⟨?_, rfl⟩
    simp only [withEffects, deliver]
    split
    · exact (c.sessionEvent_spec _).1
    · exact (c.sessionEvent_spec _).1
  case inventory => exact ⟨hreach.agree (p := .session) (by simp [Action.reach]), .inl rfl⟩
  case agent.error => exact ⟨rfl, .inl rfl⟩
  case agent.ok => exact ⟨rfl, .inl rfl⟩
  all_goals exact steps _

/-- Before the shown rows are brought up to date, an action has done all that
it does to the session. -/
theorem change_spec (c : Console) (a : Action) : c.Obeys (c.event? a) (c.change a) := by
  have unreached : .session ∉ a.reach → (c.change a).1.session = c.session :=
    (c.change_reach a).agree
  cases a with
  | submitLogin => simpa only [change] using c.submitLogin_spec
  | stopCollection => exact ⟨session_tellOutcome _ _ _, rfl⟩
  | syncStatus => exact ⟨rfl, rfl⟩
  | reloadInventory =>
      refine ⟨unreached (by simp [Action.reach]), ?_⟩
      simp only [change, withEffects, reloadInventory]
      split
      · exact .inr rfl
      · exact .inl rfl
  | deliver d => exact c.deliver_spec d
  | _ => exact ⟨unreached (by simp [Action.reach]), .inl rfl⟩

/-- What an action is to the session does not depend on the error that it
takes off the screen. -/
theorem event?_of_sameBut_message {c₀ : Console} (h : c.SameBut [.message] c₀) (a : Action) :
    c₀.event? a = c.event? a :=
  h.same (g := (·.event? a)) fun _ => by cases a <;> rfl

/-- **What an action does to the session.**  With an event the session takes
that event's step and the step's effects are left to do; without one the
session stays. -/
theorem handle_session (c : Console) (a : Action) : c.Obeys (c.event? a) (c.handle a) := by
  obtain ⟨ha, hsame, heffects⟩ | ⟨c₀, hc₀, hhandle⟩ := c.handle_cases a
  · have he : c.event? a = none := by rcases ha with rfl | rfl | rfl <;> rfl
    rw [he]
    exact ⟨hsame.agree (p := .session) (by decide), .inl heffects⟩
  · have hs : c₀.session = c.session := hc₀.agree (p := .session) (by decide)
    have hsession : (c.handle a).1.session = (c₀.change a).1.session := by
      rw [hhandle]
      exact agree_refresh (p := .session) _ (by decide)
    have hfollowups : (c.handle a).2 = (c₀.change a).2 := by rw [hhandle]
    have hc := c₀.change_spec a
    simpa only [Obeys, event?_of_sameBut_message hc₀, hs, hsession, hfollowups] using hc

theorem effects_of_event {a : Action} {e : Session.Event} (he : c.event? a = some e) :
    (c.handle a).2.effects = (c.session.step e).effects := by
  have hs := c.handle_session a
  rw [he] at hs
  exact hs.2

theorem session_of_no_event {a : Action} (he : c.event? a = none) :
    (c.handle a).1.session = c.session := by
  have hs := c.handle_session a
  rw [he] at hs
  exact hs.1

/-! ### Effects -/

/-- Without an event, only a collected session is asked for its inventory. -/
theorem change_effects_of_idle {a : Action} (he : c.event? a = none)
    (hp : c.session.phase ≠ .collected) : (c.change a).2.effects = [] := by
  cases a with
  | submitLogin =>
      cases h : c.login.credentials with
      | error fault => simp [change, withEffects, submitLogin, LoginForm.submit, h]
      | ok credentials => simp [event?, h] at he
  | stopCollection | syncStatus => cases he
  | reloadInventory => simp [change, withEffects, reloadInventory, hp]
  | deliver d =>
      rcases d with ⟨g, fault | r⟩ | ⟨g, fault | r⟩ | ⟨g, fault | r⟩ | ⟨g, fault | r⟩ |
        ⟨g, result⟩ | fault | status <;> first | rfl | cases he
  | _ => rfl

theorem handle_effects_of_idle {a : Action} (he : c.event? a = none)
    (hp : c.session.phase ≠ .collected) : (c.handle a).2.effects = [] := by
  obtain ⟨-, -, h⟩ | ⟨c₀, hc₀, h⟩ := c.handle_cases a
  · exact h
  · have hs : c₀.session = c.session := hc₀.agree (p := .session) (by decide)
    rw [h]
    exact change_effects_of_idle ((event?_of_sameBut_message hc₀ a).trans he) (hs ▸ hp)

/-- Whatever is left to do is tagged with the session's generation. -/
theorem handle_tag (c : Console) (a : Action) {f : Session.Effect}
    (hf : f ∈ (c.handle a).2.effects) {g : Generation} (hg : f.tag? = some g) :
    g = (c.handle a).1.session.generation := by
  have hs := c.handle_session a
  cases he : c.event? a with
  | none =>
      rw [he] at hs
      obtain ⟨hsession, heffects | heffects⟩ := hs <;> rw [heffects] at hf
      · cases hf
      · rw [List.mem_singleton.1 hf] at hg
        rw [hsession]
        exact (Option.some.inj hg).symm
  | some e =>
      rw [he] at hs
      obtain ⟨hsession, heffects⟩ := hs
      rw [heffects] at hf
      rw [hsession]
      exact c.session.tagged_step e f hf g hg

/-! ### Stale replies -/

theorem sessionEvent_of_stale {e : Session.Event} (h : c.session.isStale e = true) :
    c.sessionEvent e = (c, [], .stale) := by
  simp [sessionEvent, Session.step_of_stale h, Session.unchanged]

/-- The event of a reply carries the tag of the reply. -/
theorem tag?_of_event {d : Delivery} {e : Session.Event} (he : d.event? = some e) :
    e.tag? = d.tag? := by
  rcases d with ⟨g, fault | r⟩ | ⟨g, fault | r⟩ | ⟨g, fault | r⟩ | ⟨g, fault | r⟩ |
    ⟨g, result⟩ | fault | status <;> cases he <;> rfl

/-- **A reply of another generation changes nothing.** -/
theorem deliver_of_stale {d : Delivery} {g : Generation} (ht : d.tag? = some g)
    (hg : g ≠ c.session.generation) : c.deliver d = (c, []) := by
  have hstale : ∀ {e}, d.event? = some e → c.session.isStale e = true := fun he =>
    Session.isStale_eq_true_iff.2 ⟨g, (tag?_of_event he).trans ht, hg⟩
  rcases d with ⟨g', fault | r⟩ | ⟨g', fault | r⟩ | ⟨g', fault | r⟩ | ⟨g', fault | r⟩ |
    ⟨g', result⟩ | fault | status
  case inventory =>
    obtain rfl := Option.some.inj ht
    simp [deliver, hg]
  case agent.error => cases ht
  case agent.ok => cases ht
  all_goals simp [deliver, dropOutcome, sessionEvent_of_stale (hstale rfl)]

/-- Such a reply only has the rows brought up to date, and the screen drawn
again. -/
theorem handle_of_stale {d : Delivery} {g : Generation} (ht : d.tag? = some g)
    (hg : g ≠ c.session.generation) :
    c.handle (.deliver d) = (c.refresh.1.editDisplay (·.requestRedraw .everything), {}) := by
  have hchange : c.change (.deliver d) = (c, {}) := by
    rw [change, deliver_of_stale ht hg]
    rfl
  have hhandle : c.handle (.deliver d)
      = ((c.change (.deliver d)).1.refresh.1.editDisplay (·.requestRedraw .everything),
          (c.change (.deliver d)).2) := rfl
  rw [hhandle, hchange]

end Console

end VmAssessment
