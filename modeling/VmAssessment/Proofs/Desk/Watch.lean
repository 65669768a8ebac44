/-
VmAssessment/Proofs/Desk/Watch.lean

Who is watched, and by whom.

* Of all pollers that were ever started at most one is live, and a session
  that is active and waits for no reply is watched by it, under the current
  generation (`Reachable.active_watched`).
* The converse has one gap.  A live poller watches an active session, unless
  a synchronisation took over a status that is not active: it leaves the
  poller running (`Reachable.attended_unless_strayed`).  From then on the
  poller strays, until polling is started or stopped again.

Both are read off what a transition does to polling (`Session.Turn.polling`).
-/
import VmAssessment.Proofs.Desk.Numbering

namespace VmAssessment

/-- The agent's status is taken over, and it is not active. -/
def Incident.adoptsInactive (i : Incident) : Bool :=
  match i.event with
  | .statusSynced g r => g = i.session.generation && !r.phase.isActive
  | _ => false

namespace Situation

variable {w w' : Situation} {e : Session.Event}

/-- Every live poller watches an active session under its generation. -/
def Attended (w : Situation) : Prop :=
  ∀ p ∈ w.desk.live, w.session.phase.isActive = true ∧ p.generation = w.session.generation

/-- Since polling was started or stopped last, a status that is not active
was taken over. -/
def Strayed (w : Situation) : Prop :=
  ∃ i ∈ w.story.takeWhile (!·.turnsPolling), i.adoptsInactive = true

instance (w : Situation) : Decidable w.Attended := by
  unfold Attended
  infer_instance

instance (w : Situation) : Decidable w.Strayed := by
  unfold Strayed
  infer_instance

theorem attended_iff : w.Attended ↔
    ∀ g ∈ w.desk.watched, w.session.phase.isActive = true ∧ g = w.session.generation := by
  simp [Attended, Desk.watched]

/-! ### What a step does to polling -/

theorem Takes.watched_of_quiet (h : w.Takes e w')
    (hq : ∀ f ∈ (w.session.step e).effects, f.isPolling = false) :
    w'.desk.watched = w.desk.watched := by
  rw [h.watched, Session.foldl_watched_of_quiet hq]

/-- An event that leaves polling alone adds to what was taken over since. -/
theorem Takes.strayed_of_quiet (h : w.Takes e w')
    (hq : ∀ f ∈ (w.session.step e).effects, f.isPolling = false) :
    w'.Strayed ↔ (⟨w.session, e⟩ : Incident).adoptsInactive = true ∨ w.Strayed := by
  have hi : (⟨w.session, e⟩ : Incident).turnsPolling = false := by
    simpa [Incident.turnsPolling, Incident.transition] using hq
  simp [Strayed, h.story, hi]

/-- An event that starts or stops polling wipes it out. -/
theorem Takes.not_strayed (h : w.Takes e w') {f : Session.Effect}
    (hf : f ∈ (w.session.step e).effects) (hp : f.isPolling = true) : ¬ w'.Strayed := by
  have hi : (⟨w.session, e⟩ : Incident).turnsPolling = true :=
    List.any_eq_true.2 ⟨f, hf, hp⟩
  simp [Strayed, h.story, hi]

theorem Takes.watched_of_starts (h : w.Takes e w')
    (hs : (w.session.step e).effects = [.startPolling (w.session.step e).next.generation]) :
    w'.desk.watched = [w'.session.generation] := by
  rw [h.watched, hs, h.session]
  rfl

theorem Takes.watched_of_stops (h : w.Takes e w') {rest : List Session.Effect}
    (hs : (w.session.step e).effects = .stopPolling :: rest)
    (hq : ∀ f ∈ rest, f.isPolling = false) : w'.desk.watched = [] := by
  rw [h.watched, hs, List.foldl_cons, Session.foldl_watched_of_quiet hq]
  rfl

/-! ### Live pollers watch active sessions -/

theorem Keeps.attended (h : w.Keeps w') : w'.Attended ↔ w.Attended := by
  rw [attended_iff, attended_iff, h.watched, h.session]

theorem Keeps.strayed (h : w.Keeps w') : w'.Strayed ↔ w.Strayed := by
  rw [Strayed, h.story, Strayed]

/-- A poller can only stray by a status that is taken over. -/
theorem Takes.attended_or_strayed (h : w.Takes e w') (ha : w.Attended ∨ w.Strayed) :
    w'.Attended ∨ w'.Strayed := by
  rw [attended_iff] at ha ⊢
  cases (w.session.turn_step e).polling with
  | goesOn effects commands active generation =>
      rw [h.watched_of_quiet effects, h.strayed_of_quiet effects, h.session, active, generation]
      exact ha.imp_right .inr
  | waits effects stops inactive =>
      rw [h.watched_of_quiet effects, h.strayed_of_quiet effects]
      -- a start is only accepted while nothing is active, hence nothing attended
      refine ha.imp (fun ha g hg => ?_) .inr
      rw [inactive] at ha
      exact absurd (ha g hg).1 (by simp)
  | starts effects active =>
      refine .inl fun g hg => ?_
      rw [h.watched_of_starts effects] at hg
      exact ⟨h.session ▸ active, List.mem_singleton.1 hg⟩
  | stops rest effects quiet =>
      rw [h.watched_of_stops effects quiet]
      exact .inl (by simp)
  | strays r event inactive effects =>
      rw [h.strayed_of_quiet effects]
      refine .inr (.inl ?_)
      rw [event]
      simp [Incident.adoptsInactive, inactive]

/-- A poller that strays watches an idle session or an older generation. -/
def Behind (w : Situation) : Prop :=
  w.Strayed → ∀ g ∈ w.desk.watched,
    w.session.phase.isActive = false ∨ g.count.toNat < w.commands

theorem phase_of_adoptsInactive {s : Session} (h : (⟨s, e⟩ : Incident).adoptsInactive = true) :
    (s.step e).next.phase.isActive = false := by
  cases e with
  | statusSynced g r =>
      simp only [Incident.adoptsInactive, Bool.and_eq_true, Bool.not_eq_true',
        decide_eq_true_eq] at h
      obtain ⟨rfl, hr⟩ := h
      rw [Session.step_of_current (by simp [Session.isStale, Session.Event.tag?])]
      exact hr
  | _ => cases h

theorem Takes.behind (h : w.Takes e w') (hn : w.Numbered) (hb : w.Behind) : w'.Behind := by
  intro hs g hg
  cases (w.session.turn_step e).polling with
  | goesOn effects commands active generation =>
      rw [h.watched_of_quiet effects] at hg
      rcases (h.strayed_of_quiet effects).1 hs with hi | hs
      · exact .inl (h.session ▸ phase_of_adoptsInactive hi)
      · rw [h.session, active]
        exact (hb hs g hg).imp_right (Nat.lt_of_lt_of_le · h.commands_le)
  | waits effects stops inactive busy command outcome generation =>
      -- the session moves on to the next number and leaves the poller behind
      rw [h.watched_of_quiet effects] at hg
      have := hn.watched hg
      rw [(h.opens command outcome).1]
      exact .inr (by omega)
  | starts effects active =>
      exact absurd hs (h.not_strayed (effects ▸ List.mem_singleton_self _) rfl)
  | stops rest effects quiet inactive => exact .inl (h.session ▸ inactive)
  | strays r event inactive effects phase => exact .inl (by rw [h.session, phase, inactive])

/-! ### Active sessions are watched -/

/-- While no wrong reply can be taken for the current one, an active session
is watched, or it waits for the reply to its start. -/
def Guarded (w : Situation) : Prop :=
  w.commands < UInt64.size → w.session.phase.isActive = true →
    w.session.generation ∈ w.desk.watched ∨
      (w.session.busy = true ∧ w.unanswered .stop w.session.generation = 0)

theorem Keeps.guarded (h : w.Keeps w') (hg : w.Guarded) : w'.Guarded := by
  unfold Guarded
  rw [h.commands, h.session, h.watched, h.unanswered]
  exact hg

theorem Takes.guarded (h : w.Takes e w') (hn : w.Numbered) (hg : w.Guarded) : w'.Guarded := by
  intro hc ha
  cases (w.session.turn_step e).polling with
  | goesOn effects commands active generation busy =>
      have hstop := h.unanswered_of_stays generation commands .stop
      rw [h.session] at ha
      rw [h.watched_of_quiet effects]
      refine (hg (Nat.lt_of_le_of_lt h.commands_le hc) (active ▸ ha)).imp ?_ ?_
      · intro hw
        rwa [h.session, generation]
      · rintro ⟨hb, hu⟩
        rw [h.session]
        rcases busy ha with hbusy | hans
        · exact ⟨hbusy.trans hb, by rw [← h.session]; omega⟩
        · -- the reply to a stop cannot come: none of this generation is open
          rw [if_pos hans] at hstop
          omega
  | waits effects stops inactive busy command outcome generation =>
      -- under the new generation the agent is told the start and no stop
      refine .inr ⟨h.session ▸ busy, ?_⟩
      rw [h.unanswered_of_opens hn hc command outcome generation]
      exact List.countP_eq_zero.2 fun f hf => by simp [stops f hf]
  | starts effects active => exact .inl (by rw [h.watched_of_starts effects]; simp)
  | stops rest effects quiet inactive =>
      rw [h.session, inactive] at ha
      cases ha
  | strays r event inactive effects phase =>
      rw [h.session, phase, inactive] at ha
      cases ha

end Situation

namespace Reachable

variable {s : Settings} {w : Situation}

theorem attended_or_strayed (h : Reachable s w) : w.Attended ∨ w.Strayed := by
  refine invariant (P := fun w => w.Attended ∨ w.Strayed) ?_ ?_ ?_ h
  · exact .inl (by simp [Situation.Attended, Situation.ofSettings, Desk.ofSettings, Desk.live])
  · intro w w' ha hk
    rwa [hk.attended, hk.strayed]
  · intro w w' e _ ha ht
    exact ht.attended_or_strayed ha

theorem behind (h : Reachable s w) : w.Behind := by
  refine h.invariant ?_ ?_ ?_
  · intro _ g hg
    simp [Situation.ofSettings, Desk.ofSettings, Desk.watched, Desk.live] at hg
  · intro w w' hb hk hs g hg
    rw [hk.session, hk.commands]
    exact hb (hk.strayed.1 hs) g (hk.watched ▸ hg)
  · intro w w' e hw hb ht
    exact ht.behind hw.numbered hb

theorem guarded (h : Reachable s w) : w.Guarded := by
  refine h.invariant ?_ ?_ ?_
  · intro _ ha
    cases ha
  · intro w w' hg hk
    exact hk.guarded hg
  · intro w w' e hw hg ht
    exact ht.guarded hw.numbered hg

/-- **A live poller watches an active session, unless it was left to stray.**
Without a status taken over that is not active, every live poller watches an
active session under the current generation.  With one, and until polling is
started or stopped again, no live poller does. -/
theorem attended_unless_strayed (h : Reachable s w) :
    (¬ w.Strayed → w.Attended) ∧
      (w.commands < UInt64.size → w.Strayed → w.desk.live ≠ [] → ¬ w.Attended) := by
  refine ⟨h.attended_or_strayed.resolve_right, fun hc hs hl ha => ?_⟩
  obtain ⟨p, hp⟩ := List.exists_mem_of_ne_nil _ hl
  obtain ⟨hactive, hgen⟩ := ha p hp
  rcases h.behind hs p.generation (List.mem_map_of_mem hp) with hi | hlt
  · rw [hactive] at hi
    cases hi
  · rw [hgen, h.numbered.toNat_generation hc] at hlt
    exact Nat.lt_irrefl _ hlt

/-- The agent is collecting when the console starts, and when the user asks
again it is not. -/
def strayCourse : List Occurrence :=
  [.answer (.sync {}) (.ok { phase := .collecting }), .act .syncStatus,
    .answer (.sync {}) (.ok { phase := .ready })]

/-- A poller outlives the collection that it was started for. -/
theorem poller_outlives_collection :
    ∃ w, Reachable {} w ∧ w.session.phase = .ready ∧ w.desk.live ≠ [] ∧ ¬ w.Attended :=
  attached.exists_of_run strayCourse (by decide +kernel)

/-- Along that course the poller is attended at first, and then it strays. -/
theorem attended_then_strayed :
    (∃ w, Reachable {} w ∧ w.desk.live ≠ [] ∧ ¬ w.Strayed ∧ w.Attended) ∧
      ∃ w, Reachable {} w ∧ w.commands < UInt64.size ∧ w.Strayed ∧ w.desk.live ≠ [] ∧
        ¬ w.Attended := by
  constructor
  · obtain ⟨w, hw, hl, hs⟩ := attached.exists_of_run (s := {})
      (P := fun w => w.desk.live ≠ [] ∧ ¬ w.Strayed) (strayCourse.take 1) (by decide +kernel)
    exact ⟨w, hw, hl, hs, (attended_unless_strayed hw).1 hs⟩
  · obtain ⟨w, hw, hc, hs, hl⟩ := attached.exists_of_run (s := {})
      (P := fun w => w.commands < UInt64.size ∧ w.Strayed ∧ w.desk.live ≠ []) strayCourse
      (by decide +kernel)
    exact ⟨w, hw, hc, hs, hl, (attended_unless_strayed hw).2 hc hs hl⟩

/-- **An active session that waits for no reply is watched.**  At most one
poller is live at any time.  While fewer commands were accepted than there are
generations, an active session that is not busy is watched by it, and the desk
holds on to it. -/
theorem active_watched (h : Reachable s w) :
    w.desk.live.length ≤ 1 ∧
      (w.commands < UInt64.size → w.session.phase.isActive = true → w.session.busy = false →
        ∃ p, w.desk.heldPoller? = some p ∧ w.desk.live = [p] ∧
          p.generation = w.session.generation) := by
  refine ⟨h.tidy.live_length_le, fun hc ha hb => ?_⟩
  have hg : w.session.generation ∈ w.desk.watched := by
    rcases h.guarded hc ha with hg | ⟨hbusy, -⟩
    · exact hg
    · rw [hb] at hbusy
      cases hbusy
  obtain ⟨p, hp, hgen⟩ := List.mem_map.1 hg
  rw [h.tidy.live_eq, Option.mem_toList] at hp
  exact ⟨p, hp, by rw [h.tidy.live_eq, hp]; rfl, hgen⟩

/-- A start is open when the agent is found collecting, and is answered then:
two pollers were started, and the later one watches. -/
theorem started_collection_watched :
    ∃ w, Reachable {} w ∧ w.commands < UInt64.size ∧ w.session.phase.isActive = true ∧
      w.session.busy = false ∧ w.desk.pollers.length = 2 ∧
      ∃ p, w.desk.heldPoller? = some p ∧ w.desk.live = [p] ∧
        p.generation = w.session.generation := by
  obtain ⟨w, hw, hc, ha, hb, hl⟩ := start.exists_of_run (s := {})
    (P := fun w => w.commands < UInt64.size ∧ w.session.phase.isActive = true ∧
      w.session.busy = false ∧ w.desk.pollers.length = 2)
    (Situation.loginCourse ++ [.act .syncStatus,
      .answer (.sync ⟨1⟩) (.ok { phase := .collecting }),
      .answer (.start ⟨1⟩ ⟨"http://h", "u", "p"⟩) (.ok { phase := .connecting })])
    (by decide +kernel)
  exact ⟨w, hw, hc, ha, hb, hl, (active_watched hw).2 hc ha hb⟩

end Reachable

end VmAssessment
