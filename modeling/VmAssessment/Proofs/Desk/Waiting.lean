/-
VmAssessment/Proofs/Desk/Waiting.lean

What the session knows of a command that the agent has not answered.

* The session is busy while a command of its generation is open, until
  something fails under that generation: then the command stays open and the
  session has forgotten it (`Reachable.busy_unless_failed`).
* A start that the agent accepts goes on as reported, unless the status was
  taken over in the meantime and is not active: then the reply is lost on the
  session (`Reachable.start_unless_overruled`).
-/
import VmAssessment.Proofs.Desk.Numbering

namespace VmAssessment

/-! ### What a transition does to the wait for a reply -/

namespace Session

variable {s : Session} {e : Event}

/-- What a transition does to the wait for the reply to a command. -/
inductive Waiting (s : Session) (e : Event) (t : Transition) : Prop
  /-- A command is accepted; the session waits if the agent is told. -/
  | opens (command : e.isCommand = true) (outcome : t.outcome = .applied)
      (generation : t.next.generation = s.generation.next)
      (busy : t.next.busy = true ↔
        ∃ k, 0 < t.effects.countP (·.command? = some (k, s.generation.next)))
  /-- The reply is there. -/
  | ends (k : Command) (answers : e.answers? = some (k, s.generation))
      (busy : t.next.busy = false) (generation : t.next.generation = s.generation)
      (effects : ∀ f ∈ t.effects, f.command? = none)
  /-- Something fails, and the session waits no more. -/
  | breaks (failure : e.isFailure = true) (outcome : t.outcome = .applied)
      (busy : t.next.busy = false)
  /-- The session waits if it did. -/
  | goesOn (busy : t.next.busy = s.busy) (generation : t.next.generation = s.generation)
      (effects : ∀ f ∈ t.effects, f.command? = none)
      (command : e.isCommand = true → t.outcome ≠ .applied)
      (answers : ∀ k, e.answers? ≠ some (k, s.generation))
      (failure : t.outcome = .applied → e.isFailure = false)

theorem Turn.waiting {t : Transition} (h : Turn s e t) : Waiting s e t := by
  have hstays := h.stays
  cases h with
  | quiet active busy generation effects command answers applied =>
      exact .goesOn busy generation (fun f hf => (effects f hf).2) command answers
        (fun ho => (applied ho).1)
  | started c hs =>
      rw [start_of_inactive hs]
      exact .opens rfl rfl rfl ⟨fun _ => ⟨.start, by simp [Effect.command?]⟩, fun _ => rfl⟩
  | stopped hs =>
      rw [stop_of_ne_ready hs]
      refine .opens rfl rfl rfl ?_
      cases s.phase.isActive || s.busy with
      | true => exact ⟨fun _ => ⟨.stop, by simp [Effect.command?]⟩, fun _ => rfl⟩
      | false => simp [Effect.command?]
  | startAnswered r =>
      obtain ⟨generation, effects⟩ := hstays rfl
      exact .ends .start rfl (s.startResolved_cases r).1 generation effects
  | stopAnswered ha =>
      obtain ⟨generation, effects⟩ := hstays (Event.isCommand_of_answers ha)
      exact .ends .stop ha (by rw [stopAnswered_next]) generation effects
  | failed hf tag hasCredentials message => exact .breaks hf rfl rfl
  | collected hs hr hasCredentials =>
      obtain ⟨generation, effects⟩ := hstays rfl
      exact .goesOn rfl generation effects (by simp [Event.isCommand])
        (by simp [Event.answers?]) (by simp [Event.isFailure, hr])
  | synced r =>
      obtain ⟨generation, effects⟩ := hstays rfl
      exact .goesOn rfl generation effects (by simp [Event.isCommand])
        (by simp [Event.answers?]) (by simp [Event.isFailure])

/-- What a transition does to a collection whose start is open. -/
inductive Standing (s : Session) (e : Event) (t : Transition) : Prop
  /-- A command is accepted; a start makes the session active. -/
  | opens (command : e.isCommand = true) (outcome : t.outcome = .applied)
      (generation : t.next.generation = s.generation.next)
      (active : 0 < t.effects.countP (·.command? = some (.start, s.generation.next)) →
        t.next.phase.isActive = true)
  /-- The start is open no more. -/
  | ends (answers : e.answers? = some (.start, s.generation))
      (generation : t.next.generation = s.generation)
      (effects : ∀ f ∈ t.effects, f.command? = none)
  /-- The session is put into a phase, whatever it was in. -/
  | ruled (verdict : e.verdict? = some t.next.phase) (outcome : t.outcome = .applied)
  /-- A report says that the collection is over. -/
  | finished (r : StatusReport) (report : e.report? = some r)
      (phase : r.phase = .error ∨ r.phase = .collected) (outcome : t.outcome = .applied)
  /-- The session is as active as it was. -/
  | goesOn (active : t.next.phase.isActive = s.phase.isActive)
      (generation : t.next.generation = s.generation)
      (effects : ∀ f ∈ t.effects, f.command? = none)
      (command : e.isCommand = true → t.outcome ≠ .applied)
      (verdict : t.outcome = .applied → e.verdict? = none)

theorem Turn.standing {t : Transition} (h : Turn s e t) : Standing s e t := by
  have hstays := h.stays
  cases h with
  | quiet active busy generation effects command answers applied =>
      exact .goesOn active generation (fun f hf => (effects f hf).2) command
        (fun ho => (applied ho).2)
  | started c hs =>
      rw [start_of_inactive hs]
      exact .opens rfl rfl rfl fun _ => rfl
  | stopped hs =>
      rw [stop_of_ne_ready hs]
      refine .opens rfl rfl rfl fun hpos => ?_
      cases hf : s.phase.isActive || s.busy <;> simp [hf, Effect.command?] at hpos
  | startAnswered r =>
      obtain ⟨generation, effects⟩ := hstays rfl
      exact .ends rfl generation effects
  | stopAnswered ha =>
      have hc := Event.isCommand_of_answers ha
      obtain ⟨generation, effects⟩ := hstays hc
      exact .goesOn (by rw [stopAnswered_next]) generation effects (by simp [hc])
        (fun _ => Event.verdict?_of_answers_stop ha)
  | failed hf tag hasCredentials message =>
      obtain ⟨generation, effects⟩ := hstays (Event.isCommand_of_isFailure hf)
      cases e with
      | startResolved g r =>
          obtain rfl := Option.some.inj tag
          exact .ends rfl generation effects
      | startFailed g m =>
          obtain rfl := Option.some.inj tag
          exact .ends rfl generation effects
      | pollResolved g r => exact .finished r rfl (.inl (of_decide_eq_true hf)) rfl
      | statusFetchFailed g m => exact .ruled rfl rfl
      | _ => cases hf
  | collected hs hr hasCredentials => exact .finished _ rfl (.inr hr) rfl
  | synced r => exact .ruled rfl rfl

end Session

namespace Situation

variable {w w' : Situation} {e : Session.Event}

/-! ### The busy flag -/

/-- A command of the current generation is not answered yet. -/
def Awaits (w : Situation) : Prop :=
  ∃ q ∈ w.pending, q.command?.any (·.2 = w.session.generation) = true

/-- Under the current generation, something failed. -/
def Failed (w : Situation) : Prop := ∃ e ∈ w.applied, e.isFailure = true

instance (w : Situation) : Decidable w.Awaits := by
  unfold Awaits
  infer_instance

instance (w : Situation) : Decidable w.Failed := by
  unfold Failed
  infer_instance

theorem awaits_iff : w.Awaits ↔ ∃ k, 0 < w.unanswered k w.session.generation := by
  simp only [unanswered, List.countP_pos_iff, Awaits, decide_eq_true_eq]
  constructor
  · rintro ⟨q, hq, ha⟩
    obtain ⟨⟨k, g⟩, hk, hg⟩ := (Option.any_eq_true ..).1 ha
    obtain rfl := of_decide_eq_true hg
    exact ⟨k, q, hq, hk⟩
  · rintro ⟨k, q, hq, hk⟩
    exact ⟨q, hq, by rw [hk]; exact decide_eq_true rfl⟩

/-- An accepted command is a fresh start: nothing has failed under its
generation. -/
theorem Takes.not_failed_of_opens (h : w.Takes e w') (hc : e.isCommand = true)
    (ho : (w.session.step e).outcome = .applied) : ¬ w'.Failed := by
  simp [Failed, (h.opens hc ho).2]

theorem Takes.failed_of_failure (h : w.Takes e w') (hf : e.isFailure = true)
    (ho : (w.session.step e).outcome = .applied) : w'.Failed := by
  rw [Failed, h.notes (Session.Event.isCommand_of_isFailure hf) ho]
  exact ⟨e, List.mem_cons_self, hf⟩

theorem Takes.failed_of_stays (h : w.Takes e w')
    (hc : e.isCommand = true → (w.session.step e).outcome ≠ .applied)
    (hf : (w.session.step e).outcome = .applied → e.isFailure = false) :
    w'.Failed ↔ w.Failed := by
  rw [Failed, (h.stays hc).2, Failed]
  split
  · next ho => simp [hf ho]
  · rfl

/-- While no wrong reply can be taken for the current one, the session is busy
when it waits for a reply and nothing failed. -/
def Busy (w : Situation) : Prop :=
  w.commands < UInt64.size → (w.session.busy = true ↔ w.Awaits ∧ ¬ w.Failed)

theorem Keeps.busy (h : w.Keeps w') (hb : w.Busy) : w'.Busy := by
  intro hc
  rw [awaits_iff, Failed, h.session, h.applied]
  simp only [h.unanswered]
  rw [← awaits_iff]
  exact hb (h.commands ▸ hc)

theorem Takes.busy (h : w.Takes e w') (hn : w.Numbered) (hs : w.Single) (hb : w.Busy) :
    w'.Busy := by
  intro hc
  cases (w.session.turn_step e).waiting with
  | opens command outcome generation busy =>
      rw [awaits_iff]
      simp only [h.unanswered_of_opens hn hc command outcome generation]
      rw [h.session, busy]
      exact (and_iff_left (h.not_failed_of_opens command outcome)).symm
  | ends k answers busy generation effects =>
      -- the reply was to the one command that was open
      have hlt := Nat.lt_of_le_of_lt h.commands_le hc
      have hnone : ¬ w'.Awaits := by
        rw [awaits_iff]
        rintro ⟨k', hk'⟩
        have hstart := h.unanswered_of_stays generation effects .start
        have hstop := h.unanswered_of_stays generation effects .stop
        have := hs hlt
        cases k <;> cases k' <;> simp [answers] at hstart hstop <;> omega
      rw [h.session, busy]
      exact iff_of_false Bool.false_ne_true fun ha => hnone ha.1
  | breaks failure outcome busy =>
      rw [h.session, busy]
      exact iff_of_false Bool.false_ne_true fun ha => ha.2 (h.failed_of_failure failure outcome)
  | goesOn busy generation effects command answers failure =>
      have hopen : ∀ k, w'.unanswered k w'.session.generation
          = w.unanswered k w.session.generation := by
        intro k
        have := h.unanswered_of_stays generation effects k
        rwa [if_neg (answers k)] at this
      rw [awaits_iff]
      simp only [hopen]
      rw [← awaits_iff, h.session, busy, h.failed_of_stays command failure]
      exact hb ((h.stays command).1 ▸ hc)

end Situation

namespace Reachable

variable {s : Settings} {w : Situation}

theorem busy (h : Reachable s w) : w.Busy := by
  refine h.invariant ?_ ?_ ?_
  · intro _
    simp [Situation.awaits_iff, Situation.unanswered, Situation.ofSettings, Situation.session,
      Desk.ofSettings, Console.start]
  · intro w w' hb hk
    exact hk.busy hb
  · intro w w' e hw hb ht
    exact ht.busy hw.numbered hw.single hb

/-- **The session is busy while a command of its generation is open, unless
something failed.**  A failure makes it forget the command, whatever the
failure was to.  When it is stopped then, the agent is told only if it has
been found active again. -/
theorem busy_unless_failed (h : Reachable s w) (hc : w.commands < UInt64.size) :
    (w.session.busy = true ↔ w.Awaits ∧ ¬ w.Failed) ∧
      (w.Awaits → w.session.phase ≠ .ready →
        (.disconnect w.session.generation.next ∈
            (w.desk.console.handle .stopCollection).2.effects ↔
          w.session.phase.isActive = true ∨ ¬ w.Failed)) := by
  have hbusy := h.busy hc
  refine ⟨hbusy, fun ha hp => ?_⟩
  have heffects : (w.desk.console.handle .stopCollection).2.effects
      = (w.session.step .stop).effects := (w.desk.console.handle_session .stopCollection).2
  have hstop : w.session.step .stop = w.session.stop := Session.step_of_current rfl
  have hmem : .disconnect w.session.generation.next ∈ w.session.stop.effects ↔
      (w.session.phase.isActive || w.session.busy) = true := by
    rw [Session.stop_of_ne_ready hp]
    cases w.session.phase.isActive || w.session.busy <;> simp
  rw [heffects, hstop, hmem, Bool.or_eq_true, hbusy, and_iff_right ha]

/-- A question for the agent's status fails while the start is open: the
session is not busy any more, and does not tell the agent to stop. -/
theorem open_start_forgotten :
    ∃ w, Reachable {} w ∧ w.Awaits ∧ w.session.busy = false ∧ w.session.phase ≠ .ready ∧
      (w.desk.console.handle .stopCollection).2.effects = [.stopPolling] :=
  start.exists_of_run (Situation.loginCourse ++ [.act .syncStatus,
    .answer (.sync ⟨1⟩) (.error (.network ""))]) (by decide +kernel)

/-- Before that, the session waits, and a stop is told to the agent. -/
theorem open_start_awaited :
    ∃ w, Reachable {} w ∧ w.Awaits ∧ ¬ w.Failed ∧ w.session.busy = true ∧
      .disconnect w.session.generation.next ∈
        (w.desk.console.handle .stopCollection).2.effects := by
  obtain ⟨w, hw, hc, ha, hf, hp⟩ := start.exists_of_run (s := {})
    (P := fun w => w.commands < UInt64.size ∧ w.Awaits ∧ ¬ w.Failed ∧ w.session.phase ≠ .ready)
    Situation.loginCourse (by decide +kernel)
  obtain ⟨hbusy, hstop⟩ := busy_unless_failed hw hc
  exact ⟨w, hw, ha, hf, hbusy.2 ⟨ha, hf⟩, (hstop ha hp).2 (.inr hf)⟩

end Reachable

namespace Situation

variable {w w' : Situation} {e : Session.Event}

/-! ### Accepted starts -/

/-- Under the current generation, a report said that the collection is over. -/
def Ended (w : Situation) : Prop :=
  ∃ e ∈ w.applied, e.report?.any (fun r => r.phase = .error ∨ r.phase = .collected) = true

/-- Under the current generation the session was put into a phase, and the
last time it was put into one that is not active. -/
def Overruled (w : Situation) : Prop :=
  (w.applied.findSome? (·.verdict?)).any (!·.isActive) = true

instance (w : Situation) : Decidable w.Ended := by
  unfold Ended
  infer_instance

instance (w : Situation) : Decidable w.Overruled := by
  unfold Overruled
  infer_instance

/-- While no wrong reply can be taken for the current one, a session whose
start is open is active, unless the start is over or was overruled. -/
def Standing (w : Situation) : Prop :=
  w.commands < UInt64.size → 0 < w.unanswered .start w.session.generation → ¬ w.Ended →
    (w.session.phase.isActive = true ↔ ¬ w.Overruled)

theorem Takes.ended_of_report (h : w.Takes e w') {r : StatusReport} (hr : e.report? = some r)
    (hp : r.phase = .error ∨ r.phase = .collected)
    (ho : (w.session.step e).outcome = .applied) : w'.Ended := by
  rw [Ended, h.notes (Session.Event.isCommand_of_report hr) ho]
  refine ⟨e, List.mem_cons_self, ?_⟩
  rw [hr]
  exact decide_eq_true hp

theorem Takes.ended_of_ended (h : w.Takes e w')
    (hc : e.isCommand = true → (w.session.step e).outcome ≠ .applied) (he : w.Ended) :
    w'.Ended := by
  obtain ⟨e', he', hr⟩ := he
  refine ⟨e', ?_, hr⟩
  rw [(h.stays hc).2]
  split
  · exact List.mem_cons_of_mem _ he'
  · exact he'

theorem Takes.overruled_of_ruled (h : w.Takes e w')
    (hv : e.verdict? = some (w.session.step e).next.phase)
    (ho : (w.session.step e).outcome = .applied) :
    w'.Overruled ↔ w'.session.phase.isActive = false := by
  rw [Overruled, h.notes (Session.Event.isCommand_of_verdict hv) ho, List.findSome?_cons, hv,
    h.session]
  simp

theorem Takes.overruled_of_stays (h : w.Takes e w')
    (hc : e.isCommand = true → (w.session.step e).outcome ≠ .applied)
    (hv : (w.session.step e).outcome = .applied → e.verdict? = none) :
    w'.Overruled ↔ w.Overruled := by
  rw [Overruled, (h.stays hc).2, Overruled]
  split
  · next ho => rw [List.findSome?_cons, hv ho]
  · rfl

theorem Keeps.standing (h : w.Keeps w') (hw : w.Standing) : w'.Standing := by
  unfold Standing Ended Overruled
  rw [h.commands, h.session, h.unanswered, h.applied]
  exact hw

theorem Takes.standing (h : w.Takes e w') (hn : w.Numbered) (hs : w.Single)
    (hw : w.Standing) : w'.Standing := by
  intro hc hu hended
  have hlt := Nat.lt_of_le_of_lt h.commands_le hc
  cases (w.session.turn_step e).standing with
  | opens command outcome generation active =>
      -- nothing is noted yet under the new generation
      rw [h.unanswered_of_opens hn hc command outcome generation] at hu
      rw [h.session, Overruled, (h.opens command outcome).2]
      simp [active hu]
  | ends answers generation effects =>
      -- the start was the only command that was open
      have hstart := h.unanswered_of_stays generation effects .start
      have := hs hlt
      rw [if_pos answers] at hstart
      omega
  | ruled verdict outcome =>
      -- the phase is the verdict, and the verdict is the last one noted
      rw [h.overruled_of_ruled verdict outcome, Bool.not_eq_false]
  | finished r report phase outcome => exact absurd (h.ended_of_report report phase outcome) hended
  | goesOn active generation effects command verdict =>
      have hstart := h.unanswered_of_stays generation effects .start
      rw [h.overruled_of_stays command verdict, h.session, active]
      exact hw hlt (by omega) fun he => hended (h.ended_of_ended command he)

end Situation

namespace Reachable

variable {s : Settings} {w : Situation}

theorem standing (h : Reachable s w) : w.Standing := by
  refine h.invariant ?_ ?_ ?_
  · intro _ hu
    simp [Situation.unanswered, Situation.ofSettings] at hu
  · intro w w' hw hk
    exact hk.standing hw
  · intro w w' e hw hs ht
    exact ht.standing hw.numbered hw.single hs

/-- **An accepted start goes on, unless it was overruled.**  The agent accepts
the start of the current generation, and no report has said that the
collection is over.  Then the session is active and watched from now on,
unless the last status that it was put into was not active, or could not be
had: it stays inactive then, and polling is not started. -/
theorem start_unless_overruled (h : Reachable s w) (hc : w.commands < UInt64.size) {c : Credentials}
    {r : StatusReport} (ho : .start w.session.generation c ∈ w.pending)
    (hr : r.phase.isActive = true) (he : ¬ w.Ended) :
    let w' := w.after (.answer (.start w.session.generation c) (.ok r))
    let reply := w.desk.console.handle (.deliver (.started w.session.generation (.ok r)))
    (¬ w.Overruled → w'.session.phase.isActive = true ∧
        reply.2.effects = [.startPolling w.session.generation] ∧
        w'.desk.watched = [w.session.generation]) ∧
      (w.Overruled → w'.session.phase.isActive = false ∧ reply.2.effects = []) := by
  intro w' reply
  have hopen : 0 < w.unanswered .start w.session.generation :=
    List.countP_pos_iff.2 ⟨_, ho, decide_eq_true rfl⟩
  have hstanding := h.standing hc hopen he
  have ht : w.Takes (.startResolved w.session.generation r) w' :=
    Situation.takes_after (x := .answer (.start w.session.generation c) (.ok r)) h.tidy ho rfl
  have hstep : w.session.step (.startResolved w.session.generation r)
      = w.session.startResolved r :=
    Session.step_of_current (by simp [Session.isStale, Session.Event.tag?])
  have hreply : reply.2.effects = (w.session.startResolved r).effects :=
    hstep ▸ (w.desk.console.handle_session
      (.deliver (.started w.session.generation (.ok r)))).2
  -- an active report leaves the session as active as it is
  obtain ⟨-, -, ⟨hp, -⟩ | ⟨hp, -⟩ | ⟨-, hactive, heffects⟩⟩ := w.session.startResolved_cases r
  · rw [hp] at hr
    cases hr
  · rw [hp] at hr
    cases hr
  have hphase : w'.session.phase.isActive = w.session.phase.isActive := by
    rw [ht.session, hstep, hactive]
  refine ⟨fun hn => ?_, fun hov => ?_⟩
  · have ha := hstanding.2 hn
    rw [ha, if_pos rfl] at heffects
    refine ⟨hphase.trans ha, hreply.trans heffects, ?_⟩
    rw [ht.watched, hstep, heffects]
    rfl
  · have ha : w.session.phase.isActive = false := by
      rw [← Bool.not_eq_true, hstanding, not_not]
      exact hov
    rw [ha] at heffects
    exact ⟨hphase.trans ha, hreply.trans heffects⟩

/-- While the start is open, the user asks for the agent's status, which is
still the one of before.  The agent accepts the start, and the session stays
as it is. -/
theorem accepted_start_lost :
    ∃ w, Reachable {} w ∧ ∃ c, .start w.session.generation c ∈ w.pending ∧ ¬ w.Ended ∧
      (w.after (.answer (.start w.session.generation c)
        (.ok { phase := .connecting }))).session.phase = .ready ∧
      (w.desk.console.handle (.deliver (.started w.session.generation
        (.ok { phase := .connecting })))).2.effects = [] := by
  obtain ⟨w, hw, hp⟩ := start.exists_of_run (s := {})
    (P := fun w => let c : Credentials := ⟨"http://h", "u", "p"⟩
      .start w.session.generation c ∈ w.pending ∧ ¬ w.Ended ∧
      (w.after (.answer (.start w.session.generation c)
        (.ok { phase := .connecting }))).session.phase = .ready ∧
      (w.desk.console.handle (.deliver (.started w.session.generation
        (.ok { phase := .connecting })))).2.effects = [])
    (Situation.loginCourse ++ [.act .syncStatus, .answer (.sync ⟨1⟩) (.ok { phase := .ready })])
    (by decide +kernel)
  exact ⟨w, hw, _, hp⟩

/-- Unless it is asked, the start goes on. -/
theorem accepted_start_watched :
    ∃ w, Reachable {} w ∧ ∃ c, .start w.session.generation c ∈ w.pending ∧ ¬ w.Ended ∧
      ¬ w.Overruled ∧
      (w.after (.answer (.start w.session.generation c)
        (.ok { phase := .connecting }))).desk.watched = [w.session.generation] := by
  obtain ⟨w, hw, hc, ho, he, hn⟩ := start.exists_of_run (s := {})
    (P := fun w => w.commands < UInt64.size ∧
      .start w.session.generation ⟨"http://h", "u", "p"⟩ ∈ w.pending ∧ ¬ w.Ended ∧
      ¬ w.Overruled) Situation.loginCourse (by decide +kernel)
  obtain ⟨hstart, -⟩ := start_unless_overruled hw hc (r := { phase := .connecting }) ho rfl he
  exact ⟨w, hw, _, ho, he, hn, (hstart hn).2.2⟩

end Reachable

end VmAssessment
