/-
VmAssessment/Proofs/Session/Step.lean

What a step of the session can do, said once for every event.  A reply of
another generation changes nothing (`step_of_stale`); a command or a reply of
the current generation is handed on to the function of its event
(`step_of_current`).  The two replies that carry a report along the way
forward, the start's and the poll's, end in one of three ways:

* the report is an error and the session fails;
* the report says that the collection is over, and polling is stopped;
* the session is as active as before and nothing is to be done.

`advance_cases`, `startResolved_cases` and `pollResolved_cases` say so, with
what happens to the phase, the busy flag, the generation and the effects.

Whatever the event, a step that is not applied leaves the session as it is and
asks for nothing (`exists_unchanged_of_not_applied`).
-/
import VmAssessment.Session.Transition

namespace VmAssessment

/-! ### Phases -/

namespace Phase

@[simp] theorem isActive_collected : isActive .collected = false := rfl

@[simp] theorem isActive_error : isActive .error = false := rfl

/-- A collection is started from the phases in which none is in flight. -/
theorem canStart_eq_not_isActive (p : Phase) : p.canStart = !p.isActive := by
  cases p <;> rfl

/-- Short of the end, the way forward leads from active phases to active
ones. -/
theorem isActive_of_isBehind {p q : Phase} (h : p.isBehind q = true) (hq : q ≠ .collected) :
    p.isActive = true ∧ q.isActive = true := by
  cases p <;> cases q <;> simp_all [isBehind, progress?, isActive]

end Phase

namespace Session

variable {s : Session} {e : Event} {g : Generation} {r : StatusReport}

/-! ### Stale and current events -/

theorem isStale_eq_true_iff : s.isStale e = true ↔ ∃ g, e.tag? = some g ∧ g ≠ s.generation := by
  cases h : e.tag? <;> simp [isStale, h]

theorem step_of_stale (h : s.isStale e = true) : s.step e = s.unchanged .stale := by
  rw [step, if_pos h]

theorem step_of_current (h : s.isStale e = false) : s.step e = s.apply e := by
  rw [step, if_neg (by simp [h])]

/-- A step of an event that is stale, or that is handed on. -/
theorem step_cases (s : Session) (e : Event) :
    (s.isStale e = true ∧ s.step e = s.unchanged .stale) ∨
      (s.isStale e = false ∧ s.step e = s.apply e) := by
  cases h : s.isStale e with
  | true => exact .inl ⟨rfl, step_of_stale h⟩
  | false => exact .inr ⟨rfl, step_of_current h⟩

/-- A reply that is not stale carries the current generation. -/
theorem tag_of_current (h : s.isStale e = false) (hg : e.tag? = some g) : g = s.generation := by
  simpa [isStale, hg] using h

/-! ### Commands -/

/-- A start is accepted when no collection is in flight; the agent is told. -/
theorem start_of_inactive (h : s.phase.isActive = false) (c : Credentials) :
    s.start c =
      ⟨{ s with phase := .connecting, error := none, busy := true,
                generation := s.generation.next },
        [.connect s.generation.next c], .applied⟩ := by
  simp [start, Phase.canStart_eq_not_isActive, h]

theorem start_of_active (h : s.phase.isActive = true) (c : Credentials) :
    s.start c = s.unchanged (.rejected .alreadyRunning) := by
  simp [start, Phase.canStart_eq_not_isActive, h]

theorem stop_of_ready (h : s.phase = .ready) : s.stop = s.unchanged (.rejected .nothingToStop) := by
  simp [stop, h]

/-- A stop is accepted from everywhere but `ready`. -/
theorem stop_of_ne_ready (h : s.phase ≠ .ready) :
    s.stop =
      ⟨{ s with phase := .ready, error := none, busy := s.phase.isActive || s.busy,
                generation := s.generation.next },
        .stopPolling ::
          if s.phase.isActive || s.busy then [.disconnect s.generation.next] else [],
        .applied⟩ := by
  simp [stop, h]

/-- The reply to a stop only ends the wait for it. -/
theorem stopAnswered_next (s : Session) : s.stopAnswered.next = { s with busy := false } := by
  obtain ⟨phase, error, hasCredentials, busy, generation⟩ := s
  cases busy <;> rfl

theorem stopAnswered_effects (s : Session) : s.stopAnswered.effects = [] := by
  unfold stopAnswered
  split <;> rfl

/-! ### The agent's status, taken over as it is -/

@[simp] theorem statusSynced_generation (s : Session) (r : StatusReport) :
    (s.statusSynced r).next.generation = s.generation := rfl

/-- An active collection is watched from then on; polling is not stopped when
there is none. -/
theorem statusSynced_effects (s : Session) (r : StatusReport) :
    (s.statusSynced r).effects
      = if r.phase.isActive then [.startPolling s.generation]
        else if r.phase = .collected then [.fetchInventory s.generation] else [] := rfl

/-! ### Reports along the way forward -/

/-- What a report that is taken along the way forward can lead to. -/
theorem advance_cases (before s : Session) (h : before.phase = s.phase) (r : StatusReport) :
    (r.phase = .error ∧ advance before s r
        = (s.noteCredentials r).fail (r.error.getD collectionFailed)) ∨
      (r.phase = .collected ∧ s.phase.isActive = true ∧ advance before s r
        = ⟨{ s.noteCredentials r with phase := .collected },
            [.stopPolling, .fetchInventory s.generation], .applied⟩) ∨
      (r.phase ≠ .error ∧ (advance before s r).effects = [] ∧
        (advance before s r).next.phase.isActive = s.phase.isActive ∧
        (advance before s r).next.busy = s.busy ∧
        (advance before s r).next.generation = s.generation) := by
  by_cases he : r.phase = .error
  · exact .inl ⟨he, by simp [advance, he]⟩
  · right
    cases hb : s.phase.isBehind r.phase with
    | false =>
        -- not ahead of the session: only the credentials are noted
        refine .inr ⟨he, ?_⟩
        simp [advance, he, h, hb, noteCredentials]
    | true =>
        by_cases hc : r.phase = .collected
        · refine .inl ⟨hc, ?_, by simp [advance, h, hc, hc ▸ hb, noteCredentials]⟩
          revert hb
          rw [hc]
          cases s.phase <;> simp [Phase.isBehind, Phase.progress?, Phase.isActive]
        · obtain ⟨hs, hr⟩ := Phase.isActive_of_isBehind hb hc
          refine .inr ⟨he, ?_⟩
          simp [advance, he, hc, h, hb, noteCredentials, hs, hr]

/-- What the reply to a start can lead to.  It ends the wait for the start;
polling begins if the session is still active. -/
theorem startResolved_cases (s : Session) (r : StatusReport) :
    (s.startResolved r).next.busy = false ∧
      (s.startResolved r).next.generation = s.generation ∧
      ((r.phase = .error ∧ (s.startResolved r).next.phase = .error ∧
          (s.startResolved r).effects = [.stopPolling]) ∨
        (r.phase = .collected ∧ (s.startResolved r).next.phase = .collected ∧
          (s.startResolved r).effects = [.stopPolling, .fetchInventory s.generation]) ∨
        (r.phase ≠ .error ∧ (s.startResolved r).next.phase.isActive = s.phase.isActive ∧
          (s.startResolved r).effects
            = if s.phase.isActive then [.startPolling s.generation] else [])) := by
  rcases advance_cases s { s with busy := false } rfl r with
    ⟨hr, ha⟩ | ⟨hr, hs, ha⟩ | ⟨hr, heff, hact, hbusy, hgen⟩
  · refine ⟨?_, ?_, .inl ⟨hr, ?_, ?_⟩⟩ <;> simp [startResolved, ha, fail, noteCredentials]
  · refine ⟨?_, ?_, .inr (.inl ⟨hr, ?_, ?_⟩)⟩ <;> simp [startResolved, ha, noteCredentials]
  · cases hs : s.phase.isActive with
    | true =>
        rw [hs] at hact
        refine ⟨?_, ?_, .inr (.inr ⟨hr, ?_, ?_⟩)⟩ <;>
          simp [startResolved, hact, hbusy, hgen, heff]
    | false =>
        rw [hs] at hact
        refine ⟨?_, ?_, .inr (.inr ⟨hr, ?_, ?_⟩)⟩ <;>
          simp [startResolved, hact, hbusy, hgen, heff]

/-- What the report of a poll can lead to. -/
theorem pollResolved_cases (s : Session) (r : StatusReport) :
    (s.phase.isActive = false ∧ s.pollResolved r = s.unchanged .ignored) ∨
      (s.phase.isActive = true ∧ r.phase = .error ∧
        s.pollResolved r = (s.noteCredentials r).fail (r.error.getD collectionFailed)) ∨
      (s.phase.isActive = true ∧ r.phase = .collected ∧ s.pollResolved r
        = ⟨{ s.noteCredentials r with phase := .collected },
            [.stopPolling, .fetchInventory s.generation], .applied⟩) ∨
      (s.phase.isActive = true ∧ r.phase ≠ .error ∧ (s.pollResolved r).effects = [] ∧
        (s.pollResolved r).next.phase.isActive = true ∧
        (s.pollResolved r).next.busy = s.busy ∧
        (s.pollResolved r).next.generation = s.generation) := by
  cases hs : s.phase.isActive with
  | false => exact .inl ⟨rfl, by simp [pollResolved, hs]⟩
  | true =>
      have hp : s.pollResolved r = advance s s r := by simp [pollResolved, hs]
      rw [hp]
      rcases advance_cases s s rfl r with ⟨hr, ha⟩ | ⟨hr, -, ha⟩ | ⟨hr, h⟩
      · exact .inr (.inl ⟨rfl, hr, ha⟩)
      · exact .inr (.inr (.inl ⟨rfl, hr, ha⟩))
      · exact .inr (.inr (.inr ⟨rfl, hr, hs ▸ h⟩))

/-! ### What is not applied -/

theorem advance_of_not_applied {before : Session}
    (h : (advance before s r).outcome ≠ .applied) :
    advance before s r = before.unchanged .ignored := by
  simp only [advance] at h ⊢
  split at h
  · exact absurd rfl h
  · rw [if_neg ‹_›]
    split at h
    · exact absurd rfl h
    · rw [if_neg ‹_›]
      split at h
      · rename_i hsame
        rw [if_pos hsame, hsame, unchanged]
      · exact absurd rfl h

theorem startResolved_of_not_applied (h : (s.startResolved r).outcome ≠ .applied) :
    s.startResolved r = s.unchanged .ignored := by
  simp only [startResolved] at h ⊢
  split at h
  · exact absurd rfl h
  · rw [if_neg ‹_›]
    exact advance_of_not_applied h

theorem pollResolved_of_not_applied (h : (s.pollResolved r).outcome ≠ .applied) :
    s.pollResolved r = s.unchanged .ignored := by
  unfold pollResolved at h ⊢
  split at h
  · rw [if_pos ‹_›]
    exact advance_of_not_applied h
  · rw [if_neg ‹_›]

/-- **What is not applied changes nothing**, and leaves nothing to do. -/
theorem exists_unchanged_of_not_applied (h : (s.step e).outcome ≠ .applied) :
    ∃ o, s.step e = s.unchanged o := by
  rcases s.step_cases e with ⟨-, hs⟩ | ⟨-, hs⟩ <;> rw [hs] at h ⊢
  · exact ⟨_, rfl⟩
  cases e with
  | attach | startFailed _ _ | statusFetchFailed _ _ | statusSynced _ _ => exact absurd rfl h
  | start c =>
      cases ha : s.phase.isActive with
      | true => exact ⟨_, start_of_active ha c⟩
      | false => exact absurd (by rw [apply, start_of_inactive ha]) h
  | stop =>
      by_cases hp : s.phase = .ready
      · exact ⟨_, stop_of_ready hp⟩
      · exact absurd (by rw [apply, stop_of_ne_ready hp]) h
  | stopResolved _ | stopFailed _ _ =>
      cases hb : s.busy with
      | true => exact absurd (by simp [apply, stopAnswered, hb]) h
      | false => exact ⟨.ignored, by simp [apply, stopAnswered, hb]⟩
  | startResolved _ r => exact ⟨_, startResolved_of_not_applied h⟩
  | pollResolved _ r => exact ⟨_, pollResolved_of_not_applied h⟩

/-! ### Tags -/

/-- The effects of a transition are tagged with the generation of the session
after it, as far as they carry one. -/
def Transition.Tagged (t : Transition) : Prop :=
  ∀ f ∈ t.effects, ∀ g, f.tag? = some g → g = t.next.generation

theorem Transition.Tagged.of_nil {t : Transition} (h : t.effects = []) : t.Tagged := by
  simp [Tagged, h]

theorem tagged_fail (s : Session) (message : String) : (s.fail message).Tagged := by
  simp [Transition.Tagged, fail, Effect.tag?]

theorem tagged_start (s : Session) (c : Credentials) : (s.start c).Tagged := by
  cases h : s.phase.isActive with
  | true => exact .of_nil (by rw [start_of_active h]; rfl)
  | false =>
      rw [start_of_inactive h]
      simp [Transition.Tagged, Effect.tag?]

theorem tagged_stop (s : Session) : s.stop.Tagged := by
  by_cases h : s.phase = .ready
  · exact .of_nil (by rw [stop_of_ready h]; rfl)
  · rw [stop_of_ne_ready h]
    cases s.phase.isActive || s.busy <;> simp [Transition.Tagged, Effect.tag?]

theorem tagged_startResolved (s : Session) (r : StatusReport) : (s.startResolved r).Tagged := by
  obtain ⟨-, hgen, h⟩ := s.startResolved_cases r
  rw [Transition.Tagged, hgen]
  rcases h with ⟨-, -, heff⟩ | ⟨-, -, heff⟩ | ⟨-, -, heff⟩ <;> rw [heff]
  · simp [Effect.tag?]
  · simp [Effect.tag?]
  · cases s.phase.isActive <;> simp [Effect.tag?]

theorem tagged_pollResolved (s : Session) (r : StatusReport) : (s.pollResolved r).Tagged := by
  rcases s.pollResolved_cases r with ⟨-, hp⟩ | ⟨-, -, hp⟩ | ⟨-, -, hp⟩ | ⟨-, -, heff, -⟩
  · exact .of_nil (by rw [hp]; rfl)
  · rw [hp]
    exact tagged_fail _ _
  · rw [hp]
    simp [Transition.Tagged, Effect.tag?, noteCredentials]
  · exact .of_nil heff

theorem tagged_statusSynced (s : Session) (r : StatusReport) : (s.statusSynced r).Tagged := by
  rw [Transition.Tagged, statusSynced_effects, statusSynced_generation]
  split
  · simp [Effect.tag?]
  · split <;> simp [Effect.tag?]

/-- **Every effect of a step is tagged with the generation that the step leads
to.** -/
theorem tagged_step (s : Session) (e : Event) : (s.step e).Tagged := by
  rcases s.step_cases e with ⟨-, hs⟩ | ⟨-, hs⟩ <;> rw [hs]
  · exact .of_nil rfl
  cases e with
  | attach => simp [Transition.Tagged, apply, Effect.tag?]
  | start c => exact s.tagged_start c
  | startResolved _ r => exact s.tagged_startResolved r
  | stop => exact s.tagged_stop
  | stopResolved _ | stopFailed _ _ => exact .of_nil s.stopAnswered_effects
  | startFailed _ message | statusFetchFailed _ message => exact s.tagged_fail message
  | pollResolved _ r => exact s.tagged_pollResolved r
  | statusSynced _ r => exact s.tagged_statusSynced r

end Session

end VmAssessment
