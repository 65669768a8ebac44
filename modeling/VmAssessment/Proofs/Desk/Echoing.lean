/-
VmAssessment/Proofs/Desk/Echoing.lean

Requests that are answered again and again.  The agent answers a request once,
but nothing is to depend on that: in the situations of `Echoing` a request
that is open can be answered any number of times, in any order.

The tags of requests and pollers are traced through such runs.  What an action
leaves to do carries the generation that it leads to, so nothing that was ever
asked, and no poller that was ever started, carries a higher number than the
session (`Echoing.traced`).
-/
import VmAssessment.Proofs.Desk.Exchange
import VmAssessment.Proofs.Desk.Numbering

namespace VmAssessment

/-! ### Tags of requests -/

namespace Errand

/-- The generation under which it is asked. -/
def tag? : Errand → Option Generation
  | start g _ | stop g | sync g | inventory g => some g
  | agent | setMode _ => none

/-- An answer carries the tag of its request. -/
theorem tag?_delivery (e : Errand) (result : Except Fault e.call.Result) :
    (e.delivery result).tag? = e.tag? := by
  cases e <;> rfl

theorem tag?_of_mem_errands {f : Session.Effect} {e : Errand} (he : e ∈ f.errands) :
    f.tag? = e.tag? := by
  cases f with
  | startPolling g | stopPolling => cases he
  | _ => rw [List.mem_singleton.1 he]; rfl

theorem tag?_of_mem_agentErrand {f : Followups} {e : Errand} (he : e ∈ Desk.agentErrand f) :
    e.tag? = none := by
  unfold Desk.agentErrand at he
  split at he
  · rw [List.mem_singleton.1 he]; rfl
  · split at he
    · rw [List.mem_singleton.1 he]; rfl
    · cases he

end Errand

/-- The action of the console that an occurrence is, if it is one. -/
def Occurrence.action? : Occurrence → Option Action
  | .act a => some a
  | .answer e result => some (.deliver (e.delivery result))
  | .report g result => some (.deliver (.polled g result))
  | .pass _ _ => none

namespace Situation

variable {w : Situation} {g : Generation}

/-! ### Requests and pollers after an action -/

/-- An occurrence is an action, with some requests answered, or time passes. -/
theorem after_cases (w : Situation) (x : Occurrence) :
    (∃ a, x.action? = some a ∧ ∃ ps ⊆ w.pending, w.after x = { w with pending := ps }.handle a) ∨
      x.action? = none ∧
        ∃ now deadline, w.after x = { w with desk := w.desk.pass now deadline } := by
  cases x with
  | act a => exact .inl ⟨a, rfl, w.pending, List.Subset.refl _, rfl⟩
  | answer e result => exact .inl ⟨_, rfl, w.pending.erase e, List.erase_subset, rfl⟩
  | report g result => exact .inl ⟨_, rfl, w.pending, List.Subset.refl _, rfl⟩
  | pass now deadline => exact .inr ⟨rfl, now, deadline, rfl⟩

/-- What an action leaves to do is asked for behind what is open. -/
theorem pending_handle (w : Situation) (a : Action) : (w.handle a).pending
    = w.pending ++ ((w.desk.console.handle a).2.effects.flatMap (·.errands)
      ++ Desk.agentErrand (w.desk.console.handle a).2) :=
  congrArg (w.pending ++ ·) (w.desk.errands_handle a)

/-- A request with a tag was open before, or an effect with the tag asks for
it. -/
theorem mem_pending_handle {a : Action} {e : Errand} (he : e ∈ (w.handle a).pending)
    (ht : e.tag? = some g) :
    e ∈ w.pending ∨
      ∃ f ∈ (w.desk.console.handle a).2.effects, f.tag? = some g ∧ e ∈ f.errands := by
  rw [pending_handle, List.mem_append, List.mem_append, List.mem_flatMap] at he
  rcases he with he | ⟨f, hf, he⟩ | he
  · exact .inl he
  · exact .inr ⟨f, hf, (Errand.tag?_of_mem_errands he).trans ht, he⟩
  · rw [Errand.tag?_of_mem_agentErrand he] at ht
    cases ht

theorem console_handle (w : Situation) (a : Action) :
    (w.handle a).desk.console = (w.desk.console.handle a).1 :=
  w.desk.console_handle a

theorem session_handle (w : Situation) (a : Action) :
    (w.handle a).session = (w.desk.console.handle a).1.session :=
  congrArg Console.session (w.console_handle a)

/-! ### Requests that are answered again and again -/

/-- An open request is open once more. -/
def again (w : Situation) (e : Errand) : Situation := { w with pending := e :: w.pending }

end Situation

/-- The situations that the console can get into if requests may be answered
any number of times. -/
inductive Echoing (s : Settings) : Situation → Prop
  | start : Echoing s (.ofSettings s)
  | attached : Echoing s (Situation.ofSettings s).attach
  | step {w : Situation} {x : Occurrence} :
      Echoing s w → w.Possible x → Echoing s (w.after x)
  | again {w : Situation} {e : Errand} : Echoing s w → e ∈ w.pending → Echoing s (w.again e)

/-- They may also be answered once. -/
theorem Reachable.echoing {s : Settings} {w : Situation} (h : Reachable s w) : Echoing s w := by
  induction h with
  | start => exact .start
  | attached => exact .attached
  | step _ hx ih => exact ih.step hx

namespace Situation

variable {w : Situation} {g : Generation}

theorem Numbered.again (h : w.Numbered) {e : Errand} (he : e ∈ w.pending) :
    (w.again e).Numbered where
  generation := h.generation
  unanswered {k g} hk := by
    obtain ⟨e', he', hcommand⟩ := List.countP_pos_iff.1 hk
    refine h.unanswered (k := k) (List.countP_pos_iff.2 ⟨e', ?_, hcommand⟩)
    rcases List.mem_cons.1 he' with rfl | he'
    · exact he
    · exact he'
  watched hg := h.watched hg

/-- Nothing that was asked and no poller that was started carries a higher
number than the session. -/
structure Traced (w : Situation) : Prop where
  pending : ∀ e ∈ w.pending, ∀ g, e.tag? = some g → g.count.toNat ≤ w.commands
  started : ∀ g ∈ w.desk.started, g.count.toNat ≤ w.commands

/-- What an action leaves to do carries the number that it leads to. -/
theorem Traced.handle (h : w.Traced) {a : Action} (hn : (w.handle a).Numbered)
    (hle : w.commands ≤ (w.handle a).commands) : (w.handle a).Traced := by
  have current : ∀ {f}, f ∈ (w.desk.console.handle a).2.effects → ∀ {g}, f.tag? = some g →
      g.count.toNat ≤ (w.handle a).commands := by
    intro f hf g hg
    have htag := w.desk.console.handle_tag a hf hg
    rw [← session_handle, hn.generation] at htag
    rw [htag]
    exact toNat_ofNat_le _
  constructor
  · intro e he g hg
    rcases mem_pending_handle he hg with he | ⟨f, hf, hfg, -⟩
    · exact Nat.le_trans (h.pending e he g hg) hle
    · exact current hf hfg
  · intro g hg
    rcases Desk.mem_started_handle hg with hg | hg
    · exact Nat.le_trans (h.started g hg) hle
    · exact current hg rfl

theorem Traced.of_subset (h : w.Traced) {ps : List Errand} (hps : ps ⊆ w.pending) :
    { w with pending := ps }.Traced :=
  ⟨fun e he => h.pending e (hps he), h.started⟩

theorem Traced.after (h : w.Traced) {x : Occurrence} (hn : (w.after x).Numbered)
    (hle : w.commands ≤ (w.after x).commands) : (w.after x).Traced := by
  rcases w.after_cases x with ⟨a, -, ps, hps, hafter⟩ | ⟨-, now, deadline, hafter⟩
  · rw [hafter] at hn hle ⊢
    exact (h.of_subset hps).handle hn hle
  · rw [hafter]
    exact ⟨h.pending, fun g hg => h.started g (w.desk.started_pass now deadline ▸ hg)⟩

end Situation

namespace Echoing

variable {s : Settings} {w : Situation}

theorem tidy (h : Echoing s w) : w.desk.Tidy := by
  induction h with
  | start => exact Desk.tidy_ofSettings s
  | attached => exact (Desk.tidy_ofSettings s).attach
  | step _ _ ih => exact Situation.tidy_after ih _
  | again _ _ ih => exact ih

theorem numbered (h : Echoing s w) : w.Numbered := by
  induction h with
  | start => exact Reachable.start.numbered
  | attached => exact Reachable.attached.numbered
  | step h hx ih =>
      rcases Situation.step_cases h.tidy hx with hk | ⟨e, ht⟩
      · exact hk.numbered ih
      · exact ht.numbered ih
  | again _ he ih => exact ih.again he

theorem traced (h : Echoing s w) : w.Traced := by
  induction h with
  | start => exact ⟨fun e he => (List.not_mem_nil he).elim, fun g hg => (List.not_mem_nil hg).elim⟩
  | attached =>
      refine ⟨fun e he g hg => ?_, fun g hg => (List.not_mem_nil hg).elim⟩
      -- the start-up asks under the first generation
      have hasked : e ∈ [Errand.sync {}, .agent] := he
      obtain rfl | rfl : e = .sync {} ∨ e = .agent := by simpa using hasked
      · obtain rfl := Option.some.inj hg
        exact Nat.zero_le _
      · cases hg
  | step h hx ih =>
      refine ih.after (h.step hx).numbered ?_
      rcases Situation.step_cases h.tidy hx with hk | ⟨e, ht⟩
      · exact Nat.le_of_eq hk.commands.symm
      · exact ht.commands_le
  | @again w e _ he ih =>
      exact ih.of_subset (List.cons_subset.2 ⟨he, List.Subset.refl _⟩)

end Echoing

end VmAssessment
