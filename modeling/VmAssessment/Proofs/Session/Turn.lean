/-
VmAssessment/Proofs/Session/Turn.lean

The turns a session can take.  `Turn s e t` says in eight cases what a
transition `t` of the session `s` at the event `e` is: two accepted commands,
the answers to them, the two ways for a collection to end, the adoption of
the agent's status, and everything else, which changes neither activity nor
busy flag nor generation.  Every step is such a turn (`turn_step`), so an
invariant of the sessions is checked case by case here and nowhere else.
-/
import VmAssessment.Proofs.Session.Step

namespace VmAssessment

/-- The commands that the agent is told. -/
inductive Command
  | start | stop
deriving DecidableEq, Repr

namespace Session

/-- The command an effect tells the agent, with its generation. -/
def Effect.command? : Effect → Option (Command × Generation)
  | .connect g _ => some (.start, g)
  | .disconnect g => some (.stop, g)
  | _ => none

/-- Starts or stops polling. -/
def Effect.isPolling : Effect → Bool
  | .startPolling _ | .stopPolling => true
  | _ => false

namespace Event

/-- A start or a stop. -/
def isCommand : Event → Bool
  | .start _ | .stop => true
  | _ => false

/-- The command that an event is the agent's answer to. -/
def answers? : Event → Option (Command × Generation)
  | .startResolved g _ | .startFailed g _ => some (.start, g)
  | .stopResolved g | .stopFailed g _ => some (.stop, g)
  | _ => none

/-- The report that an event carries. -/
def report? : Event → Option StatusReport
  | .startResolved _ r | .pollResolved _ r | .statusSynced _ r => some r
  | _ => none

/-- Something went wrong: a request failed, or an error was reported on the
way forward. -/
def isFailure : Event → Bool
  | .startFailed _ _ | .statusFetchFailed _ _ => true
  | .startResolved _ r | .pollResolved _ r => r.phase = .error
  | _ => false

/-- The phase that the session is put into by a status that is taken over as
it is, or that could not be had. -/
def verdict? : Event → Option Phase
  | .statusSynced _ r => some r.phase
  | .statusFetchFailed _ _ => some .error
  | _ => none

variable {e : Event}

theorem answers?_of_isCommand (h : e.isCommand = true) : e.answers? = none := by
  cases e <;> first | rfl | cases h

theorem isCommand_of_answers {x : Command × Generation} (h : e.answers? = some x) :
    e.isCommand = false := by
  cases e <;> first | rfl | cases h

theorem verdict?_of_answers_stop {g : Generation} (h : e.answers? = some (.stop, g)) :
    e.verdict? = none := by
  cases e <;> first | rfl | cases h

theorem isCommand_of_isFailure (h : e.isFailure = true) : e.isCommand = false := by
  cases e <;> first | rfl | cases h

theorem isCommand_of_verdict {p : Phase} (h : e.verdict? = some p) : e.isCommand = false := by
  cases e <;> first | rfl | cases h

theorem isCommand_of_report {r : StatusReport} (h : e.report? = some r) :
    e.isCommand = false := by
  cases e <;> first | rfl | cases h

end Event

/-- What a transition at an event can be. -/
inductive Turn (s : Session) : Event → Transition → Prop
  /-- Nothing that matters to polling, to the commands or to the busy flag. -/
  | quiet {e : Event} {t : Transition}
      (active : t.next.phase.isActive = s.phase.isActive)
      (busy : t.next.busy = s.busy)
      (generation : t.next.generation = s.generation)
      (effects : ∀ f ∈ t.effects, f.isPolling = false ∧ f.command? = none)
      (command : e.isCommand = true → t.outcome ≠ .applied)
      (answers : ∀ k, e.answers? ≠ some (k, s.generation))
      (applied : t.outcome = .applied → e.isFailure = false ∧ e.verdict? = none) : Turn s e t
  /-- A start is accepted. -/
  | started (c : Credentials) (h : s.phase.isActive = false) : Turn s (.start c) (s.start c)
  /-- A stop is accepted. -/
  | stopped (h : s.phase ≠ .ready) : Turn s .stop s.stop
  /-- The agent accepted the start. -/
  | startAnswered (r : StatusReport) : Turn s (.startResolved s.generation r) (s.startResolved r)
  /-- The agent answered the stop, or could not be told. -/
  | stopAnswered {e : Event} (h : e.answers? = some (.stop, s.generation)) :
      Turn s e s.stopAnswered
  /-- The collection is over with an error. -/
  | failed {e : Event} (h : e.isFailure = true) (tag : e.tag? = some s.generation)
      (hasCredentials : Bool) (message : String) :
      Turn s e ({ s with hasCredentials }.fail message)
  /-- A poll finds the collection done. -/
  | collected {r : StatusReport} (h : s.phase.isActive = true) (hr : r.phase = .collected)
      (hasCredentials : Bool) :
      Turn s (.pollResolved s.generation r)
        ⟨{ s with phase := .collected, hasCredentials },
          [.stopPolling, .fetchInventory s.generation], .applied⟩
  /-- The agent's status is taken over. -/
  | synced (r : StatusReport) : Turn s (.statusSynced s.generation r) (s.statusSynced r)

variable {s : Session} {e : Event}

/-- A transition that leaves the session as it is and asks for nothing. -/
theorem Turn.of_unchanged {o : Outcome} (ho : o ≠ .applied)
    (answers : ∀ k, e.answers? ≠ some (k, s.generation)) : Turn s e (s.unchanged o) :=
  .quiet rfl rfl rfl (fun _ hf => by cases hf) (fun _ => ho) answers (fun h => absurd h ho)

/-- A stale event answers no command of the current generation. -/
theorem answers?_ne_of_stale (h : s.isStale e = true) (k : Command) :
    e.answers? ≠ some (k, s.generation) := by
  obtain ⟨g, hg, hne⟩ := isStale_eq_true_iff.1 h
  cases e <;> simp_all [Event.answers?, Event.tag?]

theorem turn_start (s : Session) (c : Credentials) : Turn s (.start c) (s.start c) := by
  cases h : s.phase.isActive with
  | false => exact .started c h
  | true =>
      rw [start_of_active h]
      exact .of_unchanged (by simp) (by simp [Event.answers?])

theorem turn_stop (s : Session) : Turn s .stop s.stop := by
  by_cases h : s.phase = .ready
  · rw [stop_of_ready h]
    exact .of_unchanged (by simp) (by simp [Event.answers?])
  · exact .stopped h

/-- A poll is ignored, ends the collection, or changes nothing that matters. -/
theorem turn_poll (s : Session) (r : StatusReport) :
    Turn s (.pollResolved s.generation r) (s.pollResolved r) := by
  rcases s.pollResolved_cases r with ⟨-, hp⟩ | ⟨-, hr, hp⟩ | ⟨hs, hr, hp⟩ |
    ⟨hs, hr, heff, hact, hbusy, hgen⟩
  · rw [hp]
    exact .of_unchanged (by simp) (by simp [Event.answers?])
  · rw [hp]
    exact .failed (by simp [Event.isFailure, hr]) rfl _ _
  · rw [hp]
    exact .collected hs hr _
  · exact .quiet (hact.trans hs.symm) hbusy hgen (by simp [heff]) (by simp [Event.isCommand])
      (by simp [Event.answers?]) (by simp [Event.isFailure, Event.verdict?, hr])

/-- **Every step is a turn.** -/
theorem turn_step (s : Session) (e : Event) : Turn s e (s.step e) := by
  rcases s.step_cases e with ⟨h, hs⟩ | ⟨h, hs⟩ <;> rw [hs]
  · exact .of_unchanged (by simp) (answers?_ne_of_stale h)
  have tag : ∀ {g}, e.tag? = some g → g = s.generation := tag_of_current h
  cases e with
  | attach =>
      exact .quiet rfl rfl rfl (by simp [apply, Effect.isPolling, Effect.command?])
        (by simp [Event.isCommand]) (by simp [Event.answers?])
        (by simp [Event.isFailure, Event.verdict?])
  | start c => exact s.turn_start c
  | stop => exact s.turn_stop
  | startResolved g r =>
      obtain rfl := tag rfl
      exact .startAnswered r
  | startFailed g message =>
      obtain rfl := tag rfl
      exact .failed rfl rfl _ message
  | stopResolved g =>
      obtain rfl := tag rfl
      exact .stopAnswered rfl
  | stopFailed g message =>
      obtain rfl := tag rfl
      exact .stopAnswered rfl
  | pollResolved g r =>
      obtain rfl := tag rfl
      exact s.turn_poll r
  | statusFetchFailed g message =>
      obtain rfl := tag rfl
      exact .failed rfl rfl _ message
  | statusSynced g r =>
      obtain rfl := tag rfl
      exact .synced r

/-! ### Generations and effects -/

/-- A turn either accepts a command and opens the next generation, or it
stays in the generation and tells the agent no command. -/
theorem Turn.opens_or_stays {t : Transition} (h : Turn s e t) :
    (e.isCommand = true ∧ t.outcome = .applied ∧ t.next.generation = s.generation.next ∧
        (∀ f ∈ t.effects, ∀ k g, f.command? = some (k, g) → g = s.generation.next) ∧
        t.effects.countP (·.command? = some (.start, s.generation.next))
          + t.effects.countP (·.command? = some (.stop, s.generation.next)) ≤ 1) ∨
      ((e.isCommand = true → t.outcome ≠ .applied) ∧ t.next.generation = s.generation ∧
        ∀ f ∈ t.effects, f.command? = none) := by
  cases h with
  | quiet active busy generation effects command =>
      exact .inr ⟨command, generation, fun f hf => (effects f hf).2⟩
  | started c hs =>
      rw [start_of_inactive hs]
      refine .inl ⟨rfl, rfl, rfl, ?_, ?_⟩ <;> simp [Effect.command?]
  | stopped hs =>
      -- the agent is told the stop only if something may be in flight
      rw [stop_of_ne_ready hs]
      refine .inl ⟨rfl, rfl, rfl, ?_, ?_⟩ <;> cases s.phase.isActive || s.busy <;>
        simp [Effect.command?]
  | startAnswered r =>
      obtain ⟨-, hgen, h⟩ := s.startResolved_cases r
      refine .inr ⟨by simp [Event.isCommand], hgen, ?_⟩
      rcases h with ⟨-, -, heff⟩ | ⟨-, -, heff⟩ | ⟨-, -, heff⟩ <;> rw [heff]
      · simp [Effect.command?]
      · simp [Effect.command?]
      · cases s.phase.isActive <;> simp [Effect.command?]
  | stopAnswered ha =>
      exact .inr ⟨by simp [Event.isCommand_of_answers ha], by rw [stopAnswered_next],
        by simp [stopAnswered_effects]⟩
  | failed hf tag hasCredentials message =>
      exact .inr ⟨by simp [Event.isCommand_of_isFailure hf], rfl,
        by simp [fail, Effect.command?]⟩
  | collected hs hr hasCredentials =>
      exact .inr ⟨by simp [Event.isCommand], rfl, by simp [Effect.command?]⟩
  | synced r =>
      refine .inr ⟨by simp [Event.isCommand], rfl, ?_⟩
      rw [statusSynced_effects]
      split
      · simp [Effect.command?]
      · split <;> simp [Effect.command?]

/-- Anything but a command stays in the generation. -/
theorem Turn.stays {t : Transition} (h : Turn s e t) (hc : e.isCommand = false) :
    t.next.generation = s.generation ∧ ∀ f ∈ t.effects, f.command? = none := by
  rcases h.opens_or_stays with ⟨hcom, -⟩ | ⟨-, hstays⟩
  · rw [hc] at hcom
    cases hcom
  · exact hstays

/-- Polling is only started for the generation that the session is in
then. -/
theorem Turn.watches {t : Transition} (h : Turn s e t) {g : Generation}
    (hg : .startPolling g ∈ t.effects) : g = t.next.generation := by
  cases h with
  | quiet active busy generation effects =>
      have := (effects _ hg).1
      simp [Effect.isPolling] at this
  | started c hs => simp [start_of_inactive hs] at hg
  | stopped hs =>
      rw [stop_of_ne_ready hs] at hg
      cases hf : s.phase.isActive || s.busy <;> simp [hf] at hg
  | startAnswered r =>
      obtain ⟨-, hgen, h⟩ := s.startResolved_cases r
      rw [hgen]
      rcases h with ⟨-, -, heff⟩ | ⟨-, -, heff⟩ | ⟨-, -, heff⟩ <;> rw [heff] at hg
      · simp at hg
      · simp at hg
      · cases hs : s.phase.isActive <;> simp_all
  | stopAnswered ha => simp [stopAnswered_effects] at hg
  | failed hf tag hasCredentials message => simp [fail] at hg
  | collected hs hr hasCredentials => simp at hg
  | synced r =>
      rw [statusSynced_effects] at hg
      split at hg
      · simpa using hg
      · split at hg <;> simp at hg

/-! ### Polling -/

/-- The generations that are watched after an effect. -/
def Effect.watched (before : List Generation) : Effect → List Generation
  | .startPolling g => [g]
  | .stopPolling => []
  | _ => before

theorem foldl_watched_of_quiet {es : List Effect} (h : ∀ f ∈ es, f.isPolling = false)
    (gs : List Generation) : es.foldl Effect.watched gs = gs := by
  induction es generalizing gs with
  | nil => rfl
  | cons f rest ih =>
      have hf : Effect.watched gs f = gs := by
        have := h f (by simp)
        cases f <;> first | rfl | cases this
      rw [List.foldl_cons, hf]
      exact ih (fun f' hf' => h f' (List.mem_cons_of_mem _ hf')) gs

/-- What a transition does to polling. -/
inductive Polling (s : Session) (e : Event) (t : Transition) : Prop
  /-- It goes on as it was, and the session is as active as it was. -/
  | goesOn (effects : ∀ f ∈ t.effects, f.isPolling = false)
      (commands : ∀ f ∈ t.effects, f.command? = none)
      (active : t.next.phase.isActive = s.phase.isActive)
      (generation : t.next.generation = s.generation)
      (busy : t.next.phase.isActive = true →
        t.next.busy = s.busy ∨ e.answers? = some (.stop, s.generation))
  /-- A start is accepted; polling waits for the reply to it. -/
  | waits (effects : ∀ f ∈ t.effects, f.isPolling = false)
      (stops : ∀ f ∈ t.effects, ∀ g, f.command? ≠ some (.stop, g))
      (inactive : s.phase.isActive = false) (busy : t.next.busy = true)
      (command : e.isCommand = true) (outcome : t.outcome = .applied)
      (generation : t.next.generation = s.generation.next)
  /-- It starts, for the session's generation. -/
  | starts (effects : t.effects = [.startPolling t.next.generation])
      (active : t.next.phase.isActive = true)
  /-- It stops with the collection. -/
  | stops (rest : List Effect) (effects : t.effects = .stopPolling :: rest)
      (quiet : ∀ f ∈ rest, f.isPolling = false) (inactive : t.next.phase.isActive = false)
  /-- It goes on although the agent's status, taken over, is not active. -/
  | strays (r : StatusReport) (event : e = .statusSynced s.generation r)
      (inactive : r.phase.isActive = false) (effects : ∀ f ∈ t.effects, f.isPolling = false)
      (phase : t.next.phase = r.phase) (generation : t.next.generation = s.generation)

theorem Turn.polling {t : Transition} (h : Turn s e t) : Polling s e t := by
  cases h with
  | quiet active busy generation effects =>
      exact .goesOn (fun f hf => (effects f hf).1) (fun f hf => (effects f hf).2)
        active generation (fun _ => .inl busy)
  | started c hs =>
      rw [start_of_inactive hs]
      exact .waits (by simp [Effect.isPolling]) (by simp [Effect.command?]) hs rfl rfl rfl rfl
  | stopped hs =>
      rw [stop_of_ne_ready hs]
      refine .stops _ rfl ?_ rfl
      cases s.phase.isActive || s.busy <;> simp [Effect.isPolling]
  | startAnswered r =>
      obtain ⟨-, hgen, h⟩ := s.startResolved_cases r
      rcases h with ⟨-, hp, heff⟩ | ⟨-, hp, heff⟩ | ⟨-, hact, heff⟩
      · exact .stops [] heff (by simp) (by rw [hp]; rfl)
      · exact .stops _ heff (by simp [Effect.isPolling]) (by rw [hp]; rfl)
      · cases hs : s.phase.isActive with
        | true => exact .starts (by rw [heff, hgen, hs]; rfl) (hact.trans hs)
        | false =>
            -- the reply finds a session that is not active, and leaves it so
            refine .goesOn (by simp [heff, hs]) (by simp [heff, hs]) hact hgen fun ha => ?_
            rw [hact, hs] at ha
            cases ha
  | stopAnswered ha =>
      exact .goesOn (by simp [stopAnswered_effects]) (by simp [stopAnswered_effects])
        (by rw [stopAnswered_next]) (by rw [stopAnswered_next]) (fun _ => .inr ha)
  | failed hf tag hasCredentials message => exact .stops [] rfl (by simp) rfl
  | collected hs hr hasCredentials => exact .stops _ rfl (by simp [Effect.isPolling]) rfl
  | synced r =>
      cases hr : r.phase.isActive with
      | true => exact .starts (by rw [statusSynced_effects, if_pos hr]; rfl) hr
      | false =>
          -- of the ways out of the active phases, this one keeps the poller
          refine .strays r rfl hr ?_ rfl rfl
          rw [statusSynced_effects, hr, if_neg Bool.false_ne_true]
          split <;> simp [Effect.isPolling]

end Session

end VmAssessment
