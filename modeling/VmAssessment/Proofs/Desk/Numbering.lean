/-
VmAssessment/Proofs/Desk/Numbering.lean

Generations as numbers.  The session's generation is the number of commands
accepted so far, modulo the machine word, and nothing that is open or watched
carries a higher number (`Reachable.numbered`).  So for as long as the number
fits into a word, a new generation is carried by nothing that is older, and of
the current generation at most one command is open (`Reachable.single`): its
reply is known by its tag.

`Reachable.invariant` is the induction that every statement on situations
goes by: what holds at the start and is kept by the steps with an event and by
those without one holds in all reachable situations.
-/
import VmAssessment.Proofs.Desk.Situation

namespace VmAssessment

/-! ### Induction over runs -/

/-- An invariant is shown at the start and, once, for each of the two kinds of
steps; the start-up synchronisation is a step with an event as well. -/
theorem Reachable.invariant {s : Settings} {P : Situation → Prop}
    (start : P (.ofSettings s))
    (keeps : ∀ {w w'}, P w → w.Keeps w' → P w')
    (takes : ∀ {w w' e}, Reachable s w → P w → w.Takes e w' → P w')
    {w : Situation} (h : Reachable s w) : P w := by
  induction h with
  | start => exact start
  | attached => exact takes (e := .attach) .start start ⟨rfl, rfl, rfl, fun _ _ => rfl⟩
  | step h hx ih =>
      rcases Situation.step_cases h.tidy hx with hk | ⟨e, ht⟩
      · exact keeps ih hk
      · exact takes h ih ht

namespace Situation

variable {w w' : Situation} {e : Session.Event}

/-! ### How the story goes on -/

theorem Keeps.commands (h : w.Keeps w') : w'.commands = w.commands := by
  rw [Situation.commands, h.story, Situation.commands]

theorem Keeps.applied (h : w.Keeps w') : w'.applied = w.applied := by
  rw [Situation.applied, h.story, Situation.applied]

theorem isApplied_iff {s : Session} : (⟨s, e⟩ : Incident).isApplied = true ↔
    (s.step e).outcome = .applied := decide_eq_true_iff

/-- An accepted command is counted, and what was applied before belongs to
another generation. -/
theorem Takes.opens (h : w.Takes e w') (hc : e.isCommand = true)
    (ho : (w.session.step e).outcome = .applied) :
    w'.commands = w.commands + 1 ∧ w'.applied = [] := by
  have hi : (⟨w.session, e⟩ : Incident).isCommand = true := by
    simp [Incident.isCommand, hc, isApplied_iff, ho]
  refine ⟨?_, ?_⟩
  · rw [Situation.commands, h.story, List.countP_cons_of_pos hi, Situation.commands]
  · simp [Situation.applied, h.story, hi]

/-- Any other event is noted under the current generation if it is applied. -/
theorem Takes.stays (h : w.Takes e w')
    (hc : e.isCommand = true → (w.session.step e).outcome ≠ .applied) :
    w'.commands = w.commands ∧
      w'.applied
        = if (w.session.step e).outcome = .applied then e :: w.applied else w.applied := by
  have hi : (⟨w.session, e⟩ : Incident).isCommand = false := by
    cases he : e.isCommand with
    | false => simp [Incident.isCommand, he]
    | true =>
        have ho : (⟨w.session, e⟩ : Incident).isApplied = false := decide_eq_false (hc he)
        simp [Incident.isCommand, ho]
  refine ⟨?_, ?_⟩
  · rw [Situation.commands, h.story, List.countP_cons_of_neg (by simp [hi]), Situation.commands]
  · simp only [Situation.applied, h.story, List.takeWhile_cons, hi, Bool.not_false, if_true,
      List.filter_cons, isApplied_iff]
    split <;> simp

theorem Takes.notes (h : w.Takes e w') (hc : e.isCommand = false)
    (ho : (w.session.step e).outcome = .applied) : w'.applied = e :: w.applied := by
  rw [(h.stays (by simp [hc])).2, if_pos ho]

/-- A generation that is watched after some effects was watched before or is
the one that polling was started for. -/
theorem mem_foldl_watched {es : List Session.Effect} {gs : List Generation} {g : Generation}
    (h : g ∈ es.foldl Session.Effect.watched gs) : g ∈ gs ∨ .startPolling g ∈ es := by
  induction es generalizing gs with
  | nil => exact .inl h
  | cons f rest ih =>
      rcases ih h with hf | hr
      · cases f with
        | startPolling g' =>
            obtain rfl := List.mem_singleton.1 hf
            exact .inr (by simp)
        | stopPolling => cases hf
        | _ => exact .inl hf
      · exact .inr (List.mem_cons_of_mem _ hr)

/-! ### Numbers -/

/-- Nothing carries a higher number than the session, and the session's is the
number of commands. -/
structure Numbered (w : Situation) : Prop where
  generation : w.session.generation = ⟨UInt64.ofNat w.commands⟩
  unanswered : ∀ {k g}, 0 < w.unanswered k g → g.count.toNat ≤ w.commands
  watched : ∀ {g}, g ∈ w.desk.watched → g.count.toNat ≤ w.commands

theorem numbered_ofSettings (s : Settings) : (ofSettings s).Numbered where
  generation := rfl
  unanswered h := by simp [ofSettings, Situation.unanswered] at h
  watched h := by simp [ofSettings, Desk.ofSettings, Desk.watched, Desk.live] at h

theorem Keeps.numbered (h : w.Keeps w') (hn : w.Numbered) : w'.Numbered where
  generation := by rw [h.session, hn.generation, h.commands]
  unanswered hk := by
    rw [h.unanswered] at hk
    exact h.commands ▸ hn.unanswered hk
  watched hg := by
    rw [h.watched] at hg
    exact h.commands ▸ hn.watched hg

theorem toNat_ofNat_le (n : Nat) : (UInt64.ofNat n).toNat ≤ n := by
  rw [UInt64.toNat_ofNat']
  exact Nat.mod_le _ _

theorem next_ofNat (n : Nat) :
    Generation.next ⟨UInt64.ofNat n⟩ = ⟨UInt64.ofNat (n + 1)⟩ := by
  rw [Generation.next, UInt64.ofNat_add]
  rfl

theorem Takes.commands_le (h : w.Takes e w') : w.commands ≤ w'.commands := by
  rcases (w.session.turn_step e).opens_or_stays with ⟨hc, ho, -⟩ | ⟨hc, -⟩
  · rw [(h.opens hc ho).1]
    exact Nat.le_succ _
  · exact Nat.le_of_eq (h.stays hc).1.symm

theorem Takes.generation (h : w.Takes e w') (hn : w.Numbered) :
    w'.session.generation = ⟨UInt64.ofNat w'.commands⟩ := by
  rw [h.session]
  rcases (w.session.turn_step e).opens_or_stays with ⟨hc, ho, hg, -⟩ | ⟨hc, hg, -⟩
  · rw [hg, (h.opens hc ho).1, hn.generation, next_ofNat]
  · rw [hg, (h.stays hc).1, hn.generation]

theorem Takes.numbered (h : w.Takes e w') (hn : w.Numbered) : w'.Numbered := by
  have hgen := h.generation hn
  have current : w'.session.generation.count.toNat ≤ w'.commands := by
    rw [hgen]
    exact toNat_ofNat_le _
  -- what was open or watched before is numbered below, what is new is current
  refine ⟨hgen, ?_, ?_⟩
  · intro k g hk
    by_cases hu : 0 < w.unanswered k g
    · exact Nat.le_trans (hn.unanswered hu) h.commands_le
    · -- the command was told just now, under the session's new generation
      have hc := h.unanswered k g
      obtain ⟨f, hf, hfk⟩ : ∃ f ∈ (w.session.step e).effects, f.command? = some (k, g) := by
        have : 0 < (w.session.step e).effects.countP (·.command? = some (k, g)) := by omega
        simpa using List.countP_pos_iff.1 this
      rcases (w.session.turn_step e).opens_or_stays with ⟨-, -, hg, htag, -⟩ | ⟨-, -, hnone⟩
      · rw [htag f hf k g hfk, ← hg, ← h.session]
        exact current
      · rw [hnone f hf] at hfk
        cases hfk
  · intro g hg
    rw [h.watched] at hg
    rcases mem_foldl_watched hg with hg | hg
    · exact Nat.le_trans (hn.watched hg) h.commands_le
    · rw [(w.session.turn_step e).watches hg, ← h.session]
      exact current

end Situation

theorem Reachable.numbered {s : Settings} {w : Situation} (h : Reachable s w) : w.Numbered :=
  h.invariant (Situation.numbered_ofSettings s) (fun hn hk => hk.numbered hn)
    (fun _ hn ht => ht.numbered hn)

namespace Situation

variable {w w' : Situation} {e : Session.Event}

/-! ### One command a generation -/

/-- Before the numbers come round again, the number of the session is the
number of commands. -/
theorem Numbered.toNat_generation (hn : w.Numbered) (hc : w.commands < UInt64.size) :
    w.session.generation.count.toNat = w.commands := by
  rw [hn.generation]
  exact UInt64.toNat_ofNat_of_lt' hc

/-- The next command is numbered next. -/
theorem Numbered.toNat_next (hn : w.Numbered) (hc : w.commands + 1 < UInt64.size) :
    w.session.generation.next.count.toNat = w.commands + 1 := by
  rw [hn.generation, next_ofNat]
  exact UInt64.toNat_ofNat_of_lt' hc

/-- The generation that the next command opens is carried by nothing yet. -/
theorem Numbered.fresh (hn : w.Numbered) (hc : w.commands + 1 < UInt64.size) (k : Command) :
    w.unanswered k w.session.generation.next = 0 := by
  have hg := hn.toNat_next hc
  by_contra hne
  have := hn.unanswered (Nat.pos_of_ne_zero hne)
  omega

/-- After an accepted command, the commands that are open under the new
generation are those that the agent is told just now. -/
theorem Takes.unanswered_of_opens (h : w.Takes e w') (hn : w.Numbered)
    (hc : w'.commands < UInt64.size) (hcom : e.isCommand = true)
    (ho : (w.session.step e).outcome = .applied)
    (hg : (w.session.step e).next.generation = w.session.generation.next) (k : Command) :
    w'.unanswered k w'.session.generation
      = (w.session.step e).effects.countP (·.command? = some (k, w.session.generation.next)) := by
  have hlt : w.commands + 1 < UInt64.size := (h.opens hcom ho).1 ▸ hc
  have hu := h.unanswered k w.session.generation.next
  rw [hn.fresh hlt, Session.Event.answers?_of_isCommand hcom, if_neg (by simp)] at hu
  rw [h.session, hg]
  omega

/-- Within a generation, an event that tells the agent nothing leaves open
what it does not answer. -/
theorem Takes.unanswered_of_stays (h : w.Takes e w')
    (hg : (w.session.step e).next.generation = w.session.generation)
    (hf : ∀ f ∈ (w.session.step e).effects, f.command? = none) (k : Command) :
    w'.unanswered k w'.session.generation
        + (if e.answers? = some (k, w.session.generation) then 1 else 0)
      = w.unanswered k w.session.generation := by
  have hu := h.unanswered k w.session.generation
  have hzero : (w.session.step e).effects.countP
      (·.command? = some (k, w.session.generation)) = 0 :=
    List.countP_eq_zero.2 fun f hf' => by simp [hf f hf']
  rw [hzero] at hu
  rw [h.session, hg]
  exact hu

/-- At most one command of the current generation is open. -/
def Single (w : Situation) : Prop :=
  w.commands < UInt64.size →
    w.unanswered .start w.session.generation + w.unanswered .stop w.session.generation ≤ 1

theorem Takes.single (h : w.Takes e w') (hn : w.Numbered) (hs : w.Single) : w'.Single := by
  intro hc
  rcases (w.session.turn_step e).opens_or_stays with
    ⟨hcom, ho, hg, -, hone⟩ | ⟨hcom, hg, hnone⟩
  · -- of the new generation only the command itself is open
    rw [h.unanswered_of_opens hn hc hcom ho hg, h.unanswered_of_opens hn hc hcom ho hg]
    exact hone
  · have hstart := h.unanswered_of_stays hg hnone .start
    have hstop := h.unanswered_of_stays hg hnone .stop
    have := hs ((h.stays hcom).1 ▸ hc)
    omega

end Situation

theorem Reachable.single {s : Settings} {w : Situation} (h : Reachable s w) : w.Single := by
  refine h.invariant (fun _ => ?_) ?_ ?_
  · simp [Situation.ofSettings, Situation.unanswered]
  · intro w w' hs hk hc
    rw [hk.unanswered, hk.unanswered, hk.session]
    exact hs (hk.commands ▸ hc)
  · intro w w' e hw hs ht
    exact ht.single hw.numbered hs

end VmAssessment
