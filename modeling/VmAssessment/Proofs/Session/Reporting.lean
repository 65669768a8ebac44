/-
VmAssessment/Proofs/Session/Reporting.lean

What polling makes of a session, whatever order the answers come in.  Each
answer reports a phase, and the session keeps the furthest it has heard of: a
report that is not ahead of it moves nothing.  So a run of reports is a
maximum (`after_polls`), and neither their order nor how often one of them
comes makes a difference.

What a run asks for is decided by the report that ends the collection.  At the
first of these polling is stopped and the inventory is fetched (`told_polls`);
the session is then no longer active, and hears of none after it.
-/
import VmAssessment.Proofs.Session.Tagging

namespace VmAssessment

/-! ### The way forward -/

namespace Phase

variable {p q : Phase} {ps : List Phase}

/-- How far along the way forward a phase lies; what is off it counts as
nothing. -/
def rank (p : Phase) : Nat := p.progress?.getD 0

/-- The phase itself, or the reported one if that lies further on. -/
def further (p q : Phase) : Phase := if p.isBehind q then q else p

/-- The phase, once all that are reported are heard of in their order. -/
def furthest (p : Phase) (ps : List Phase) : Phase := ps.foldl further p

theorem rank_pos_of_isActive (h : p.isActive = true) : 0 < p.rank := by
  revert h
  cases p <;> decide

/-- On the way, a phase is known by how far along it lies. -/
theorem eq_of_rank_eq (hp : 0 < p.rank) (h : p.rank = q.rank) : p = q := by
  revert hp h
  cases p <;> cases q <;> decide

theorem isBehind_iff : p.isBehind q = true ↔ 0 < p.rank ∧ p.rank < q.rank := by
  cases p <;> cases q <;> decide

theorem further_collected (hp : 0 < p.rank) : p.further .collected = .collected := by
  revert hp
  cases p <;> decide

theorem collected_further (q : Phase) : further .collected q = .collected := by
  cases q <;> rfl

/-- Short of the end, only the report that it is reached leads there. -/
theorem further_ne_collected (hp : p ≠ .collected) (hq : q ≠ .collected) :
    p.further q ≠ .collected := by
  unfold further
  split
  · exact hq
  · exact hp

theorem rank_further (hp : 0 < p.rank) (q : Phase) : (p.further q).rank = max p.rank q.rank := by
  unfold further
  split
  · have hlt := (isBehind_iff.1 ‹_›).2
    omega
  · have hle : ¬ (0 < p.rank ∧ p.rank < q.rank) := fun h => ‹¬ _› (isBehind_iff.2 h)
    omega

theorem rank_further_pos (hp : 0 < p.rank) (q : Phase) : 0 < (p.further q).rank := by
  rw [rank_further hp]
  omega

theorem further_mem (p q : Phase) : p.further q = p ∨ p.further q = q := by
  unfold further
  split
  · exact .inr rfl
  · exact .inl rfl

/-- The furthest phase is one of those that there are. -/
theorem furthest_mem (p : Phase) (ps : List Phase) : p.furthest ps ∈ p :: ps := by
  induction ps generalizing p with
  | nil => exact List.mem_singleton_self p
  | cons q rest ih =>
      show (p.further q).furthest rest ∈ p :: q :: rest
      rcases List.mem_cons.1 (ih (p.further q)) with h | h
      · rw [h]
        rcases further_mem p q with h' | h' <;> rw [h'] <;> simp
      · exact List.mem_cons_of_mem p (List.mem_cons_of_mem q h)

/-- No other lies further on. -/
theorem rank_le_furthest (hp : 0 < p.rank) : ∀ q ∈ p :: ps, q.rank ≤ (p.furthest ps).rank := by
  induction ps generalizing p with
  | nil => simp [furthest]
  | cons r rest ih =>
      have hrank := rank_further hp r
      have hrest := ih (rank_further_pos hp r)
      have hstart : (p.further r).rank ≤ (p.furthest (r :: rest)).rank :=
        hrest _ List.mem_cons_self
      intro q hq
      rcases List.mem_cons.1 hq with rfl | hq
      · omega
      · rcases List.mem_cons.1 hq with rfl | hq
        · omega
        · exact hrest q (List.mem_cons_of_mem _ hq)

theorem rank_furthest_pos (hp : 0 < p.rank) (ps : List Phase) : 0 < (p.furthest ps).rank :=
  Nat.lt_of_lt_of_le hp (rank_le_furthest hp p List.mem_cons_self)

/-- Which is the furthest depends on which there are, and on nothing else. -/
theorem furthest_congr {ps' : List Phase} (hp : 0 < p.rank) (h : ∀ q, q ∈ ps' ↔ q ∈ ps) :
    p.furthest ps' = p.furthest ps := by
  have hcons : ∀ q, q ∈ p :: ps' ↔ q ∈ p :: ps := fun q => by
    rw [List.mem_cons, List.mem_cons, h q]
  have hle := rank_le_furthest hp _ ((hcons _).1 (furthest_mem p ps'))
  have hge := rank_le_furthest hp _ ((hcons _).2 (furthest_mem p ps))
  exact eq_of_rank_eq (rank_furthest_pos hp ps') (Nat.le_antisymm hle hge)

end Phase

namespace Session

variable {s : Session} {r : StatusReport} {rs rs' : List StatusReport}

/-! ### The report of one poll -/

/-- The session is in the same collection, with the same request in flight and
the same error on record. -/
structure SameCollection (s s' : Session) : Prop where
  generation : s'.generation = s.generation
  busy : s'.busy = s.busy
  error : s'.error = s.error

theorem SameCollection.refl (s : Session) : s.SameCollection s := ⟨rfl, rfl, rfl⟩

theorem SameCollection.trans {s' s'' : Session} (h : s.SameCollection s')
    (h' : s'.SameCollection s'') : s.SameCollection s'' :=
  ⟨h'.generation.trans h.generation, h'.busy.trans h.busy, h'.error.trans h.error⟩

/-- What is to be done when the collection is over. -/
def wrapUp (s : Session) : List Effect := [.stopPolling, .fetchInventory s.generation]

/-- A poll of this generation is no late one. -/
theorem step_poll (s : Session) (r : StatusReport) :
    s.step (.pollResolved s.generation r) = s.pollResolved r :=
  step_of_current (by simp [isStale, Event.tag?])

/-- **A report moves the session to the further of two phases.**  Only the one
that the collection is over leaves something to do, and only the first time. -/
theorem pollResolved_further (hs : 0 < s.phase.rank) (hr : r.phase ≠ .error) :
    s.SameCollection (s.pollResolved r).next ∧
      (s.pollResolved r).next.phase = s.phase.further r.phase ∧
      (s.pollResolved r).effects
        = if s.phase ≠ .collected ∧ r.phase = .collected then s.wrapUp else [] := by
  by_cases hc : s.phase = .collected
  · -- the collection is over, and the report is not looked at
    have hp : s.pollResolved r = s.unchanged .ignored := by simp [pollResolved, hc]
    rw [hp, hc, Phase.collected_further]
    exact ⟨.refl s, hc, by simp [unchanged]⟩
  · have hact : s.phase.isActive = true := by
      revert hs hc
      cases s.phase <;> decide
    have hp : s.pollResolved r = advance s s r := by rw [pollResolved, if_pos hact]
    rw [hp, Phase.further]
    cases hb : s.phase.isBehind r.phase with
    | false =>
        have hnot : r.phase ≠ .collected := by
          intro h
          rw [h] at hb
          revert hb hact
          cases s.phase <;> decide
        have ha : advance s s r = ⟨s.noteCredentials r, [],
            if s.noteCredentials r = s then .ignored else .applied⟩ := by
          simp [advance, hr, hb]
        rw [ha, if_neg Bool.false_ne_true, if_neg (And.right.mt hnot)]
        exact ⟨⟨rfl, rfl, rfl⟩, rfl, rfl⟩
    | true =>
        have ha : advance s s r = ⟨{ s.noteCredentials r with phase := r.phase },
            if r.phase = .collected then s.wrapUp else [], .applied⟩ := by
          simp [advance, hr, hb, wrapUp, noteCredentials]
        rw [ha, if_pos rfl]
        exact ⟨⟨rfl, rfl, rfl⟩, rfl, by simp [hc]⟩

/-- So a report leaves the session on the way forward. -/
theorem rank_pollResolved_pos (hs : 0 < s.phase.rank) (hr : r.phase ≠ .error) :
    0 < (s.pollResolved r).next.phase.rank := by
  obtain ⟨-, hphase, -⟩ := pollResolved_further hs hr
  rw [hphase]
  exact Phase.rank_further_pos hs r.phase

/-! ### A run of reports -/

/-- The phases that are reported. -/
def phases (rs : List StatusReport) : List Phase := rs.map (·.phase)

/-- The session after a run of events. -/
def after (s : Session) : List Event → Session
  | [] => s
  | e :: rest => (s.step e).next.after rest

/-- The answers to polls of one generation. -/
def polls (g : Generation) (rs : List StatusReport) : List Event := rs.map (.pollResolved g)

/-- **A run of reports leads to the furthest phase**, and changes nothing else
of the collection. -/
theorem after_polls (hs : 0 < s.phase.rank) (hr : ∀ r ∈ rs, r.phase ≠ .error) :
    s.SameCollection (s.after (polls s.generation rs)) ∧
      (s.after (polls s.generation rs)).phase = s.phase.furthest (phases rs) := by
  induction rs generalizing s with
  | nil => exact ⟨.refl s, rfl⟩
  | cons r rest ih =>
      obtain ⟨hsame, hphase, -⟩ := pollResolved_further hs (hr r List.mem_cons_self)
      have hon := rank_pollResolved_pos hs (hr r List.mem_cons_self)
      have hrest := ih hon fun r' hr' => hr r' (List.mem_cons_of_mem r hr')
      rw [hsame.generation, hphase] at hrest
      have hstep : s.after (polls s.generation (r :: rest))
          = (s.pollResolved r).next.after (polls s.generation rest) := by
        rw [← step_poll]
        rfl
      rw [hstep]
      exact ⟨hsame.trans hrest.1, hrest.2⟩

/-- **A run of reports asks for what the end of the collection asks for**, once
and if it is reported at all. -/
theorem told_polls (hs : 0 < s.phase.rank) (hr : ∀ r ∈ rs, r.phase ≠ .error) :
    s.told (polls s.generation rs)
      = if s.phase ≠ .collected ∧ .collected ∈ phases rs then s.wrapUp else [] := by
  induction rs generalizing s with
  | nil => simp [told, polls, phases]
  | cons r rest ih =>
      obtain ⟨hsame, hphase, heffects⟩ := pollResolved_further hs (hr r List.mem_cons_self)
      have hon := rank_pollResolved_pos hs (hr r List.mem_cons_self)
      have hrest := ih hon fun r' hr' => hr r' (List.mem_cons_of_mem r hr')
      have hwrap : (s.pollResolved r).next.wrapUp = s.wrapUp := by
        rw [wrapUp, hsame.generation, wrapUp]
      rw [hsame.generation, hphase, hwrap] at hrest
      have hstep : s.told (polls s.generation (r :: rest))
          = (s.pollResolved r).effects
            ++ (s.pollResolved r).next.told (polls s.generation rest) := by
        rw [← step_poll]
        rfl
      rw [hstep, heffects, hrest]
      by_cases hc : s.phase = .collected
      · -- over before the run: neither the first report nor the rest is heard
        simp [hc, Phase.collected_further]
      · by_cases hlast : r.phase = .collected
        · simp [phases, hc, hlast, Phase.further_collected hs]
        · have hshort := Phase.further_ne_collected hc hlast
          simp [phases, hc, Ne.symm hlast, hlast, hshort]

/-- **The answers to polls may come in any order, and more than once.**  Of an
active session, reports that are no errors leave the generation, the request in
flight and the error on record as they are.  The phase they lead to is the
furthest of that of the session and those that are reported; and what is to be
done, over the whole run, is what the end of the collection asks for if it is
among them, and nothing otherwise.  So another run in which the same phases are
reported, in another order or more often, leads to the same phase and leaves
the same to do. -/
theorem polls_in_any_order (hs : s.phase.isActive = true) (hr : ∀ r ∈ rs, r.phase ≠ .error) :
    let s' := s.after (polls s.generation rs)
    (s'.generation = s.generation ∧ s'.busy = s.busy ∧ s'.error = s.error) ∧
      s'.phase ∈ s.phase :: phases rs ∧
      (∀ p ∈ s.phase :: phases rs, p.rank ≤ s'.phase.rank) ∧
      s.told (polls s.generation rs)
        = (if .collected ∈ phases rs then [.stopPolling, .fetchInventory s.generation]
          else []) ∧
      ∀ rs', (∀ p, p ∈ phases rs' ↔ p ∈ phases rs) →
        (s.after (polls s.generation rs')).phase = s'.phase ∧
          s.told (polls s.generation rs') = s.told (polls s.generation rs) := by
  intro s'
  have hon := Phase.rank_pos_of_isActive hs
  have hc : s.phase ≠ .collected := fun h => by
    rw [h] at hs
    cases hs
  obtain ⟨hsame, hphase⟩ := after_polls hon hr
  have hmem : s'.phase ∈ s.phase :: phases rs := hphase ▸ Phase.furthest_mem ..
  have hmax : ∀ p ∈ s.phase :: phases rs, p.rank ≤ s'.phase.rank :=
    hphase ▸ Phase.rank_le_furthest hon
  have htold := told_polls hon hr
  simp only [ne_eq, hc, not_false_eq_true, true_and] at htold
  refine ⟨⟨hsame.generation, hsame.busy, hsame.error⟩, hmem, hmax, htold, ?_⟩
  intro rs' hrs'
  have hr' : ∀ r ∈ rs', r.phase ≠ .error := by
    intro r hmemr herror
    obtain ⟨r₀, hr₀, h₀⟩ := List.mem_map.1 ((hrs' r.phase).1 (List.mem_map_of_mem hmemr))
    exact hr r₀ hr₀ (h₀.trans herror)
  obtain ⟨-, hphase'⟩ := after_polls hon hr'
  constructor
  · rw [hphase', Phase.furthest_congr hon hrs']
    exact hphase.symm
  · rw [told_polls hon hr', htold]
    simp only [ne_eq, hc, not_false_eq_true, true_and, hrs' .collected]

/-- Of a connecting session, the reports of a whole collection come in the wrong
order and the last of them twice, with one from before the start among them. -/
theorem late_polls_in_any_order :
    let s : Session := { phase := .connecting, busy := true, generation := ⟨1⟩ }
    let rs := [Phase.collecting, .ready, .connected, .collected, .connecting, .collected].map
      ({ phase := · } : Phase → StatusReport)
    let inOrder := [Phase.connected, .collecting, .collected, .ready, .connecting].map
      ({ phase := ·, hasCredentials := some true } : Phase → StatusReport)
    s.phase.isActive = true ∧ (∀ r ∈ rs, r.phase ≠ .error) ∧
      (s.after (polls s.generation rs)).phase = .collected ∧
      s.told (polls s.generation rs) = [.stopPolling, .fetchInventory ⟨1⟩] ∧
      (s.after (polls s.generation inOrder)).phase = .collected ∧
      s.told (polls s.generation inOrder) = [.stopPolling, .fetchInventory ⟨1⟩] := by
  intro s rs inOrder
  have hs : s.phase.isActive = true := rfl
  have hr : ∀ r ∈ rs, r.phase ≠ .error := by decide
  obtain ⟨-, -, hmax, htold, hother⟩ := polls_in_any_order hs hr
  have hcollected : (s.after (polls s.generation rs)).phase = .collected := by decide +kernel
  have htold : s.told (polls s.generation rs) = [.stopPolling, .fetchInventory ⟨1⟩] := htold
  obtain ⟨hphase, heffects⟩ := hother inOrder (by
    intro p
    cases p <;> decide)
  exact ⟨hs, hr, hcollected, htold, hphase.trans hcollected, heffects.trans htold⟩

end Session

end VmAssessment
