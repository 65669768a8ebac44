/-
VmAssessment/Proofs/Desk/Toggling.lean

What the console knows of a change of the agent's mode that it has asked for.
The screen says that the agent is being updated while a flag is set: a change of
mode sets it, and an answer of the agent takes it back.  All other answers carry
the tag of their request; this one does not, so whichever comes first takes the
flag back, be it to a mere question or to an earlier change.

The flag is therefore right until that happens (`Recorded.loading_unless_overtaken`):
it is set while a change of mode is open and the agent has not said anything since
the last one was asked for.  After that the change is forgotten, and stays open
(`toggle_forgotten`).
-/
import VmAssessment.Proofs.Console.Parts
import VmAssessment.Proofs.Desk.Echoing

namespace VmAssessment

/-! ### What concerns the agent -/

/-- A request to change the agent's mode. -/
def Errand.changesMode : Errand → Bool
  | .setMode _ => true
  | _ => false

/-- A request whose answer is about the agent itself. -/
def Errand.isAgents : Errand → Bool
  | .agent | .setMode _ => true
  | _ => false

theorem Errand.isAgents_of_changesMode {e : Errand} (h : e.changesMode = true) :
    e.isAgents = true := by
  cases e with
  | setMode mode => rfl
  | _ => cases h

/-- The agent's part of the console is reached by the wish for another mode and by
answers that are about the agent. -/
theorem Action.agent_mem_reach {a : Action} (h : .agent ∈ a.reach) :
    a = .toggleAgentMode ∨ ∃ result, a = .deliver (.agent result) := by
  cases a with
  | toggleAgentMode => exact .inl rfl
  | deliver d =>
      cases d with
      | agent result => exact .inr ⟨result, rfl⟩
      | _ => simp [reach] at h
  | _ => simp [reach] at h

namespace Occurrence

/-- The user asks for another mode. -/
def asksMode : Occurrence → Bool
  | .act .toggleAgentMode => true
  | _ => false

/-- The agent says how it is. -/
def hearsAgent : Occurrence → Bool
  | .answer e _ => e.isAgents
  | _ => false

end Occurrence

/-- Since a change of mode was last asked for, the agent has answered: to it, to
an earlier one, or to a mere question.  The newest occurrence comes first. -/
def Overtaken (xs : List Occurrence) : Prop :=
  ∃ x ∈ xs.takeWhile (!·.asksMode), x.hearsAgent = true

instance (xs : List Occurrence) : Decidable (Overtaken xs) := by
  unfold Overtaken
  infer_instance

theorem overtaken_cons (x : Occurrence) (xs : List Occurrence) :
    Overtaken (x :: xs) ↔ x.asksMode = false ∧ (x.hearsAgent = true ∨ Overtaken xs) := by
  cases hx : x.asksMode <;> simp [Overtaken, hx]

namespace Console

/-! ### The flag -/

variable {c : Console} {a : Action}

/-- Only the user's wish for another mode asks for one. -/
theorem setMode_handle (c : Console) (ha : a ≠ .toggleAgentMode) :
    (c.handle a).2.setMode = none := by
  have hchange : ∀ c : Console, (c.change a).2.setMode = none := by
    intro c
    cases a with
    | toggleAgentMode => exact absurd rfl ha
    | _ => rfl
  simp only [handle]
  split
  · rfl
  · rfl
  · rfl
  · exact hchange _

theorem loading_toggleAgentMode (c : Console) :
    (c.handle .toggleAgentMode).1.agent.loading = true := by
  exact congrArg Agent.loading (agree_handle_of_users (p := .agent) rfl (by simp) c (by decide))

/-- Whether the agent could be asked or not. -/
theorem loading_deliver_agent (c : Console) (result : Except Fault AgentStatus) :
    (c.handle (.deliver (.agent result))).1.agent.loading = false := by
  have hchange : (c.change (.deliver (.agent result))).1.agent.loading = false := by
    cases result <;> rfl
  rw [handle_of_change (by simp) (by simp) (by simp), ← hchange]
  exact congrArg Agent.loading (agree_refresh (p := .agent) _ (by decide))

end Console

theorem Desk.setMode_of_mem_agentErrand {f : Followups} {e : Errand} (he : e ∈ Desk.agentErrand f)
    (hmode : e.changesMode = true) : f.setMode.isSome = true := by
  unfold Desk.agentErrand at he
  split at he
  · rename_i mode hset
    rw [hset]
    rfl
  · -- a question at most
    split at he
    · rw [List.mem_singleton.1 he] at hmode
      cases hmode
    · cases he

namespace Situation

variable {w w' : Situation} {x : Occurrence}

/-- The screen says that the agent is being updated. -/
def loading (w : Situation) : Bool := w.desk.console.agent.loading

/-- A change of mode is not answered yet. -/
def AwaitsMode (w : Situation) : Prop := ∃ e ∈ w.pending, e.changesMode = true

instance (w : Situation) : Decidable w.AwaitsMode := by
  unfold AwaitsMode
  infer_instance

/-- What an occurrence is to the flag and to the open changes of mode. -/
inductive ModeTurn (w : Situation) (x : Occurrence) (w' : Situation) : Prop
  /-- A change is asked for. -/
  | asks (ask : x.asksMode = true) (loading : w'.loading = true) (awaits : w'.AwaitsMode)
  /-- The agent answers. -/
  | hears (ask : x.asksMode = false) (hear : x.hearsAgent = true) (loading : w'.loading = false)
  /-- Neither. -/
  | goesOn (ask : x.asksMode = false) (hear : x.hearsAgent = false)
      (loading : w'.loading = w.loading) (awaits : w'.AwaitsMode ↔ w.AwaitsMode)

/-- A change of mode is open after an action if one was before, or if the action
asks for one. -/
theorem awaitsMode_handle (w : Situation) (a : Action) : (w.handle a).AwaitsMode ↔
    w.AwaitsMode ∨ (w.desk.console.handle a).2.setMode.isSome = true := by
  constructor
  · rintro ⟨e, he, hmode⟩
    rw [pending_handle, List.mem_append, List.mem_append, List.mem_flatMap] at he
    rcases he with he | ⟨f, -, he⟩ | he
    · exact .inl ⟨e, he, hmode⟩
    · -- a transition of the session asks for none
      cases f with
      | startPolling | stopPolling => cases he
      | _ =>
          rw [List.mem_singleton.1 he] at hmode
          cases hmode
    · exact .inr (Desk.setMode_of_mem_agentErrand he hmode)
  · unfold AwaitsMode
    rw [pending_handle]
    rintro (⟨e, he, hmode⟩ | hset)
    · exact ⟨e, List.mem_append_left _ he, hmode⟩
    · obtain ⟨mode, hset⟩ := Option.isSome_iff_exists.1 hset
      refine ⟨.setMode mode, ?_, rfl⟩
      simp [Desk.agentErrand, hset]

/-- The start of the console asks no change of the agent. -/
theorem awaitsMode_attach (w : Situation) : w.attach.AwaitsMode ↔ w.AwaitsMode := by
  show (∃ e ∈ w.pending ++ [.sync w.session.generation, .agent], e.changesMode = true) ↔ _
  simp only [AwaitsMode, List.mem_append, or_and_right, exists_or]
  simp [Errand.changesMode]

theorem loading_handle (w : Situation) (a : Action) :
    (w.handle a).loading = (w.desk.console.handle a).1.agent.loading :=
  congrArg (·.agent.loading) (w.console_handle a)

/-- What does not concern the agent leaves the flag and the open changes alone. -/
theorem goesOn_handle (w : Situation) {a : Action} (ha : .agent ∉ a.reach) :
    (w.handle a).loading = w.loading ∧ ((w.handle a).AwaitsMode ↔ w.AwaitsMode) := by
  have hagent : (w.desk.console.handle a).1.agent = w.desk.console.agent :=
    Console.handle_agree _ (p := .agent) a ha (by decide)
  have hset : (w.desk.console.handle a).2.setMode = none :=
    Console.setMode_handle _ fun htoggle => by simp [htoggle, Action.reach] at ha
  constructor
  · rw [loading_handle, hagent]
    rfl
  · rw [awaitsMode_handle, hset]
    simp

/-- An answer that is not about the agent leaves the changes of mode open. -/
theorem awaitsMode_erase (w : Situation) {e : Errand} (he : e.isAgents = false) :
    ({ w with pending := w.pending.erase e } : Situation).AwaitsMode ↔ w.AwaitsMode := by
  refine exists_congr fun e' => and_congr_left fun hmode => ?_
  apply List.mem_erase_of_ne
  rintro rfl
  exact absurd (he.symm.trans (Errand.isAgents_of_changesMode hmode)) nofun

/-- **Every occurrence is a turn.** -/
theorem mode_turn (hx : w.Possible x) : ModeTurn w x (w.after x) := by
  cases x with
  | act a =>
      by_cases ha : a = .toggleAgentMode
      · subst ha
        refine .asks rfl ?_ ((awaitsMode_handle w _).2 (.inr ?_))
        · exact (loading_handle w _).trans (Console.loading_toggleAgentMode _)
        · rfl
      · have hreach : .agent ∉ a.reach := fun h => by
          obtain htoggle | ⟨result, rfl⟩ := Action.agent_mem_reach h
          · exact ha htoggle
          · exact hx
        have hask : Occurrence.asksMode (.act a) = false := by
          cases a <;> first | rfl | exact absurd rfl ha
        obtain ⟨hloading, hawaits⟩ := w.goesOn_handle hreach
        exact .goesOn hask rfl hloading hawaits
  | answer e result =>
      cases hagents : e.isAgents with
      | true =>
          refine .hears rfl hagents ((loading_handle _ _).trans ?_)
          cases e with
          | agent => exact Console.loading_deliver_agent _ result
          | setMode mode => exact Console.loading_deliver_agent _ result
          | _ => cases hagents
      | false =>
          have hreach : .agent ∉ (Action.deliver (e.delivery result)).reach := by
            cases e with
            | agent | setMode mode => cases hagents
            | _ => simp [Errand.delivery, Action.reach]
          obtain ⟨hloading, hawaits⟩ :=
            goesOn_handle { w with pending := w.pending.erase e } hreach
          exact .goesOn rfl hagents hloading (hawaits.trans (w.awaitsMode_erase hagents))
  | report g result =>
      obtain ⟨hloading, hawaits⟩ := w.goesOn_handle (a := .deliver (.polled g result))
        (by simp [Action.reach])
      exact .goesOn rfl rfl hloading hawaits
  | pass now deadline => exact .goesOn rfl rfl rfl Iff.rfl

end Situation

/-- The situations that the console can get into, with what has occurred, the
newest first.  The agent's status can be asked for at any time. -/
inductive Recorded (s : Settings) : List Occurrence → Situation → Prop
  | start : Recorded s [] (.ofSettings s)
  | attach {xs : List Occurrence} {w : Situation} : Recorded s xs w → Recorded s xs w.attach
  | step {xs : List Occurrence} {w : Situation} {x : Occurrence} :
      Recorded s xs w → w.Possible x → Recorded s (x :: xs) (w.after x)

namespace Recorded

variable {s : Settings} {xs : List Occurrence} {w : Situation}

/-- **The flag is set while a change of mode is open, unless it was overtaken.**  It
is set if a change of mode is not answered yet and the agent has not answered
anything since the last one was asked for, and only then. -/
theorem loading_unless_overtaken (h : Recorded s xs w) :
    w.loading = true ↔ w.AwaitsMode ∧ ¬Overtaken xs := by
  induction h with
  | start => exact iff_of_false nofun fun ⟨⟨e, he, _⟩, _⟩ => List.not_mem_nil he
  | attach _ ih => exact ih.trans (and_congr_left' (Situation.awaitsMode_attach _).symm)
  | step _ hx ih =>
      cases Situation.mode_turn hx with
      | asks ask loading awaits =>
          exact iff_of_true loading ⟨awaits, by simp [overtaken_cons, ask]⟩
      | hears ask hear loading =>
          rw [loading]
          exact iff_of_false nofun fun h => h.2 ((overtaken_cons _ _).2 ⟨ask, .inl hear⟩)
      | goesOn ask hear loading awaits =>
          rw [loading, ih, awaits, overtaken_cons]
          simp [ask, hear]

/-- The agent was asked for its status at the start, and has not answered when
another mode is asked for. -/
theorem loading_after_toggle :
    let w := (Situation.ofSettings {}).attach.after (.act .toggleAgentMode)
    Recorded {} [.act .toggleAgentMode] w ∧ w.AwaitsMode ∧ w.loading = true := by
  intro w
  have hrecorded : Recorded {} [.act .toggleAgentMode] w := Recorded.start.attach.step trivial
  have hawaits : w.AwaitsMode := by decide +kernel
  have hnone : ¬Overtaken [.act .toggleAgentMode] := by decide
  exact ⟨hrecorded, hawaits, hrecorded.loading_unless_overtaken.2 ⟨hawaits, hnone⟩⟩

end Recorded

namespace Reachable

variable {s : Settings} {w : Situation}

/-- What has occurred can be told of every situation. -/
theorem recorded (h : Reachable s w) : ∃ xs, Recorded s xs w := by
  induction h with
  | start => exact ⟨[], .start⟩
  | attached => exact ⟨[], Recorded.start.attach⟩
  | step _ hx ih =>
      obtain ⟨xs, hxs⟩ := ih
      exact ⟨_, hxs.step hx⟩

/-- Another mode is asked for twice, and the first request is answered. -/
def toggleCourse : List Occurrence :=
  [.act .toggleAgentMode, .act .toggleAgentMode,
    .answer (.setMode .connected) (.ok ⟨.connected, .connected⟩)]

/-- **A change of mode is forgotten.**  The answer to an earlier one takes the flag
back while the later one is open. -/
theorem toggle_forgotten : ∃ w, Reachable {} w ∧ w.AwaitsMode ∧ w.loading = false :=
  Reachable.start.exists_of_run toggleCourse (by decide +kernel)

end Reachable

end VmAssessment
