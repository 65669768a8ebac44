/-
VmAssessment/Proofs/Desk/Situation.lean

The desk among its requests.  A situation is a desk, the requests that the
agent has not answered yet, and the story of the session so far.  What can
occur in it: the user acts; a request that was made is answered, once; a
poller that was started at some time reports, as often as it likes and also
after it was cancelled; time passes.  Answers come in any order, and each is
tagged with the generation of its request.

`Reachable` are the situations such occurrences lead to from the start of the
console, with or without its start-up synchronisation.  `Situation.step_cases`
says what a step is to the session, the pollers and the open commands; it is
all that later proofs need to know of the dispatcher.
-/
import Mathlib.Data.List.Count
import VmAssessment.Proofs.Console.SessionEvents
import VmAssessment.Proofs.Desk.Polling

namespace VmAssessment

/-! ### The story of a session -/

/-- Something that happened to the session, and the session before it. -/
structure Incident where
  session : Session
  event : Session.Event
deriving DecidableEq, Repr

namespace Incident

/-- What the session did. -/
def transition (i : Incident) : Session.Transition := i.session.step i.event

/-- It was neither refused nor dropped. -/
def isApplied (i : Incident) : Bool := i.transition.outcome = .applied

/-- An accepted start or stop. -/
def isCommand (i : Incident) : Bool := i.event.isCommand && i.isApplied

/-- It started or stopped polling. -/
def turnsPolling (i : Incident) : Bool := i.transition.effects.any (·.isPolling)

end Incident

/-! ### Situations -/

/-- The command that a request tells the agent, with its generation. -/
def Errand.command? : Errand → Option (Command × Generation)
  | .start g _ => some (.start, g)
  | .stop g => some (.stop, g)
  | _ => none

/-- A desk, the requests that are not answered yet, and what happened to the
session so far, the newest first. -/
structure Situation where
  desk : Desk
  pending : List Errand := []
  story : List Incident := []
deriving DecidableEq

/-- What can occur. -/
inductive Occurrence
  /-- The user acts, or nobody does. -/
  | act (a : Action)
  /-- The agent answers a request. -/
  | answer (e : Errand) (result : Except Fault e.call.Result)
  /-- A poller of some generation reports. -/
  | report (g : Generation) (result : Except Fault StatusReport)
  /-- Time passes. -/
  | pass (now : Nat) (deadline : Poller → Nat)

namespace Situation

/-- The session. -/
def session (w : Situation) : Session := w.desk.console.session

/-- The situation at the start of the console. -/
def ofSettings (s : Settings) : Situation := { desk := .ofSettings s }

/-- The console asks for the agent's status and mode at its start. -/
def attach (w : Situation) : Situation :=
  let (desk, errands) := w.desk.attach
  { desk, pending := w.pending ++ errands, story := ⟨w.session, .attach⟩ :: w.story }

/-- An action, with the requests that it leads to. -/
def handle (w : Situation) (a : Action) : Situation :=
  let (desk, errands, _) := w.desk.handle a
  { desk
    pending := w.pending ++ errands
    story := match w.desk.console.event? a with
      | some e => ⟨w.session, e⟩ :: w.story
      | none => w.story }

/-- The situation after an occurrence. -/
def after (w : Situation) : Occurrence → Situation
  | .act a => w.handle a
  | .answer e result =>
    { w with pending := w.pending.erase e }.handle (.deliver (e.delivery result))
  | .report g result => w.handle (.deliver (.polled g result))
  | .pass now deadline => { w with desk := w.desk.pass now deadline }

/-- Only requests that are open are answered, only pollers that were started
report, and replies come from nowhere else. -/
def Possible (w : Situation) : Occurrence → Prop
  | .act (.deliver _) => False
  | .act _ => True
  | .answer e _ => e ∈ w.pending
  | .report g _ => ∃ p ∈ w.desk.pollers, p.generation = g
  | .pass _ _ => True

instance (w : Situation) (x : Occurrence) : Decidable (w.Possible x) := by
  unfold Possible
  split <;> infer_instance

theorem possible_act (w : Situation) {a : Action} (ha : ∀ d, a ≠ .deliver d) :
    w.Possible (.act a) := by
  cases a with
  | deliver d => exact absurd rfl (ha d)
  | _ => trivial

/-- A course of occurrences, if each of them is possible in its turn. -/
def run? (w : Situation) : List Occurrence → Option Situation
  | [] => some w
  | x :: rest => if w.Possible x then (w.after x).run? rest else none

/-- The form is filled in and sent. -/
def loginCourse : List Occurrence :=
  [.act (.typeLogin 'h'), .act (.typeLogin 't'), .act (.typeLogin 't'), .act (.typeLogin 'p'),
    .act (.typeLogin ':'), .act (.typeLogin '/'), .act (.typeLogin '/'), .act (.typeLogin 'h'),
    .act .nextField, .act (.typeLogin 'u'), .act .nextField, .act (.typeLogin 'p'),
    .act .submitLogin]

end Situation

/-- The situations that the console can get into. -/
inductive Reachable (s : Settings) : Situation → Prop
  | start : Reachable s (.ofSettings s)
  | attached : Reachable s (Situation.ofSettings s).attach
  | step {w : Situation} {x : Occurrence} :
      Reachable s w → w.Possible x → Reachable s (w.after x)

theorem Reachable.run {s : Settings} {w w' : Situation} {xs : List Occurrence}
    (h : Reachable s w) (hr : w.run? xs = some w') : Reachable s w' := by
  induction xs generalizing w with
  | nil => exact Option.some.inj hr ▸ h
  | cons x rest ih =>
      by_cases hx : w.Possible x
      · rw [Situation.run?, if_pos hx] at hr
        exact ih (h.step hx) hr
      · rw [Situation.run?, if_neg hx] at hr
        cases hr

/-- What is found at the end of a course is found in a reachable situation. -/
theorem Reachable.exists_of_run {s : Settings} {w : Situation} {P : Situation → Prop}
    [DecidablePred P] (h : Reachable s w) (xs : List Occurrence)
    (hr : (w.run? xs).any P = true) : ∃ w', Reachable s w' ∧ P w' := by
  cases hw : w.run? xs with
  | none =>
      rw [hw] at hr
      cases hr
  | some w' =>
      rw [hw] at hr
      exact ⟨w', h.run hw, of_decide_eq_true hr⟩

namespace Situation

variable {w w' : Situation}

/-! ### What is told by a situation -/

/-- How many requests of a command are open under a generation. -/
def unanswered (w : Situation) (k : Command) (g : Generation) : Nat :=
  w.pending.countP (·.command? = some (k, g))

/-- How many starts and stops were accepted so far. -/
def commands (w : Situation) : Nat := w.story.countP (·.isCommand)

/-- What was applied under the current generation, the newest first. -/
def applied (w : Situation) : List Session.Event :=
  ((w.story.takeWhile (!·.isCommand)).filter (·.isApplied)).map (·.event)

/-! ### Steps -/

/-- Nothing happens to the session, to polling or to the open commands. -/
structure Keeps (w w' : Situation) : Prop where
  session : w'.session = w.session
  watched : w'.desk.watched = w.desk.watched
  story : w'.story = w.story
  unanswered : ∀ k g, w'.unanswered k g = w.unanswered k g

/-- The session takes the step of an event.  Its effects say what is watched
and which commands are told the agent; the command that the event answers is
open no more. -/
structure Takes (w : Situation) (e : Session.Event) (w' : Situation) : Prop where
  session : w'.session = (w.session.step e).next
  watched : w'.desk.watched
    = (w.session.step e).effects.foldl Session.Effect.watched w.desk.watched
  story : w'.story = ⟨w.session, e⟩ :: w.story
  unanswered : ∀ k g,
    w'.unanswered k g + (if e.answers? = some (k, g) then 1 else 0)
      = w.unanswered k g + (w.session.step e).effects.countP (·.command? = some (k, g))

/-- The requests to the agent itself tell it no command. -/
theorem agentErrand_command (f : Followups) (x : Command × Generation) :
    (Desk.agentErrand f).countP (·.command? = some x) = 0 := by
  unfold Desk.agentErrand
  split
  · rfl
  · split <;> rfl

/-- An effect tells the agent the command that its request tells. -/
theorem countP_errands (es : List Session.Effect) (x : Command × Generation) :
    (es.flatMap (·.errands)).countP (·.command? = some x) = es.countP (·.command? = some x) := by
  induction es with
  | nil => rfl
  | cons e rest ih =>
      rw [List.flatMap_cons, List.countP_append, ih, List.countP_cons, Nat.add_comm]
      congr 1
      cases e <;> simp [Session.Effect.errands, Session.Effect.command?, Errand.command?]

theorem unanswered_handle (w : Situation) (a : Action) (k : Command) (g : Generation) :
    (w.handle a).unanswered k g
      = w.unanswered k g
        + (w.desk.console.handle a).2.effects.countP (·.command? = some (k, g)) := by
  rw [← countP_errands, unanswered, handle]
  simp only [Desk.errands_handle, List.countP_append, agentErrand_command, Nat.add_zero]
  rfl

/-- An action without an event keeps what matters. -/
theorem keeps_handle (ht : w.desk.Tidy) {a : Action} (he : w.desk.console.event? a = none) :
    w.Keeps (w.handle a) := by
  have hs := w.desk.console.handle_session a
  rw [he] at hs
  obtain ⟨hsession, heffects⟩ := hs
  refine ⟨?_, ?_, ?_, fun k g => ?_⟩
  · exact (congrArg Console.session (w.desk.console_handle a)).trans hsession
  · refine (ht.watched_handle a).trans ?_
    rcases heffects with h | h <;> rw [h] <;> rfl
  · simp only [handle, he]
  · rw [unanswered_handle]
    rcases heffects with h | h <;> rw [h] <;> rfl

/-- An action with an event makes the session take its step; what the action
answers is not taken off the open requests here. -/
theorem takes_handle (ht : w.desk.Tidy) {a : Action} {e : Session.Event}
    (he : w.desk.console.event? a = some e) :
    (w.handle a).session = (w.session.step e).next ∧
      (w.handle a).desk.watched
        = (w.session.step e).effects.foldl Session.Effect.watched w.desk.watched ∧
      (w.handle a).story = ⟨w.session, e⟩ :: w.story ∧
      ∀ k g, (w.handle a).unanswered k g
        = w.unanswered k g + (w.session.step e).effects.countP (·.command? = some (k, g)) := by
  have hs := w.desk.console.handle_session a
  rw [he] at hs
  obtain ⟨hsession, heffects⟩ := hs
  refine ⟨?_, ?_, ?_, fun k g => ?_⟩
  · exact (congrArg Console.session (w.desk.console_handle a)).trans hsession
  · exact (ht.watched_handle a).trans (by rw [heffects]; rfl)
  · simp only [handle, he]
  · rw [unanswered_handle, heffects]
    rfl

/-- What an occurrence is to the session. -/
def event? (w : Situation) : Occurrence → Option Session.Event
  | .act a => w.desk.console.event? a
  | .answer e result => (e.delivery result).event?
  | .report g result => (Delivery.polled g result).event?
  | .pass _ _ => none

/-- An answered request is open once less. -/
theorem unanswered_erase {q : Errand} (hq : q ∈ w.pending) (k : Command) (g : Generation) :
    ({ w with pending := w.pending.erase q } : Situation).unanswered k g
        + (if q.command? = some (k, g) then 1 else 0)
      = w.unanswered k g := by
  simp only [unanswered]
  rw [(List.perm_cons_erase hq).countP_eq, List.countP_cons]
  simp only [decide_eq_true_eq]

/-- The event of an answer answers the command that its request told. -/
theorem answers?_of_delivery {q : Errand} {result : Except Fault q.call.Result}
    {e : Session.Event} (he : (q.delivery result).event? = some e) :
    e.answers? = q.command? := by
  cases q <;> cases result <;> cases he <;> rfl

/-- An answer without an event is to no command. -/
theorem command?_of_delivery {q : Errand} {result : Except Fault q.call.Result}
    (he : (q.delivery result).event? = none) : q.command? = none := by
  cases q <;> cases result <;> first | rfl | cases he

/-- What the user does answers no command. -/
theorem answers?_of_action {c : Console} {a : Action} (ha : ∀ d, a ≠ .deliver d)
    {e : Session.Event} (he : c.event? a = some e) : e.answers? = none := by
  cases a with
  | deliver d => exact absurd rfl (ha d)
  | submitLogin =>
      simp only [Console.event?] at he
      split at he <;> cases he
      rfl
  | stopCollection | syncStatus =>
      cases he
      rfl
  | _ => cases he

/-- **A step without an event** keeps what matters. -/
theorem keeps_after (ht : w.desk.Tidy) {x : Occurrence} (hx : w.Possible x)
    (he : w.event? x = none) : w.Keeps (w.after x) := by
  cases x with
  | act a => exact keeps_handle ht he
  | report g result => exact keeps_handle (a := .deliver (.polled g result)) ht he
  | pass now deadline => exact ⟨rfl, w.desk.watched_pass now deadline, rfl, fun _ _ => rfl⟩
  | answer q result =>
      have hk := keeps_handle (w := { w with pending := w.pending.erase q }) ht
        (a := .deliver (q.delivery result)) he
      refine ⟨hk.session, hk.watched, hk.story, fun k g => ?_⟩
      have hq := unanswered_erase (w := w) hx k g
      rw [command?_of_delivery he, if_neg (by simp)] at hq
      exact (hk.unanswered k g).trans hq

/-- **A step with an event** makes the session take the event's step. -/
theorem takes_after (ht : w.desk.Tidy) {x : Occurrence} (hx : w.Possible x) {e : Session.Event}
    (he : w.event? x = some e) : w.Takes e (w.after x) := by
  cases x with
  | act a =>
      obtain ⟨h1, h2, h3, h4⟩ := takes_handle ht he
      have ha : e.answers? = none :=
        answers?_of_action (fun d hd => by rw [hd] at hx; exact hx) he
      exact ⟨h1, h2, h3, fun k g => by simp [ha, after, h4 k g]⟩
  | report g result =>
      obtain ⟨h1, h2, h3, h4⟩ := takes_handle (a := .deliver (.polled g result)) ht he
      have ha : e.answers? = none := by
        cases result <;> cases he <;> rfl
      exact ⟨h1, h2, h3, fun k g' => by simp [ha, after, h4 k g']⟩
  | pass now deadline => cases he
  | answer q result =>
      obtain ⟨h1, h2, h3, h4⟩ :=
        takes_handle (w := { w with pending := w.pending.erase q }) ht
          (a := .deliver (q.delivery result)) he
      refine ⟨h1, h2, h3, fun k g => ?_⟩
      -- the open request is taken off, and it told the command that is answered
      have hq := unanswered_erase (w := w) hx k g
      rw [answers?_of_delivery he, after, h4 k g]
      exact (Nat.add_right_comm ..).trans (by rw [hq]; rfl)

/-- What a possible step is to what matters. -/
theorem step_cases (ht : w.desk.Tidy) {x : Occurrence} (hx : w.Possible x) :
    w.Keeps (w.after x) ∨ ∃ e, w.Takes e (w.after x) := by
  cases he : w.event? x with
  | none => exact .inl (keeps_after ht hx he)
  | some e => exact .inr ⟨e, takes_after ht hx he⟩

/-- Every step leaves the desk tidy. -/
theorem tidy_after (ht : w.desk.Tidy) (x : Occurrence) : (w.after x).desk.Tidy := by
  cases x with
  | act a => exact ht.handle a
  | report g result => exact ht.handle (.deliver (.polled g result))
  | pass now deadline => exact ht.pass now deadline
  | answer q result => exact ht.handle (.deliver (q.delivery result))

end Situation

/-! ### Runs -/

namespace Reachable

variable {s : Settings} {w : Situation}

theorem tidy (h : Reachable s w) : w.desk.Tidy := by
  induction h with
  | start => exact Desk.tidy_ofSettings s
  | attached => exact (Desk.tidy_ofSettings s).attach
  | step _ _ ih => exact Situation.tidy_after ih _

end Reachable

end VmAssessment
