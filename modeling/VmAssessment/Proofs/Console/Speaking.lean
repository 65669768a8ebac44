/-
VmAssessment/Proofs/Console/Speaking.lean

Failures say something.  A fault reaches the user in two lines: the text of the
session's error, and the notification.  Neither is blank as long as the fault's
own line is not (`Speaks.handle_deliver`), and a blank one gets through to both.

For a refusal by the agent that comes down to its body: the lines are blank if
and only if the body is an error document with a blank text in it
(`failure_speaks_iff`).  Such a text is taken over as it is, although the body
as it stands, which comes next, is taken only if there is something in it.
-/
import VmAssessment.Proofs.Client.Refusals
import VmAssessment.Proofs.Console.Failing

namespace VmAssessment

open Text (Visible)

/-- The fault that a request came to. -/
def Delivery.fault? : Delivery → Option Fault
  | .started _ (.error fault) | .stopped _ (.error fault) | .polled _ (.error fault)
  | .synced _ (.error fault) | .inventory _ (.error fault) | .agent (.error fault) => some fault
  | _ => none

namespace Session

/-- The text of a failure. -/
def Event.failure? : Event → Option String
  | .startFailed _ message | .stopFailed _ message | .statusFetchFailed _ message => some message
  | _ => none

/-- A failure leaves the session's error as it is, or its text takes its
place. -/
theorem error_step_of_failure {s : Session} {e : Event} {message : String}
    (he : e.failure? = some message) :
    (s.step e).next.error = s.error ∨ (s.step e).next.error = some message := by
  rcases s.step_cases e with ⟨-, hs⟩ | ⟨-, hs⟩ <;> rw [hs]
  · exact .inl rfl
  cases e with
  | startFailed | statusFetchFailed => exact .inr he
  | stopFailed =>
      left
      rw [apply, stopAnswered_next]
  | _ => cases he

end Session

namespace Console

variable {c : Console}

/-! ### The lines of a console -/

/-- The session's error and the notification, where there are any, have
something to see in them. -/
structure Speaks (c : Console) : Prop where
  error : ∀ text, c.session.error = some text → Visible text
  notification : ∀ n, c.display.notification = some n → Visible n.message

theorem speaks_start (table : TableSettings) : (start table).Speaks :=
  ⟨nofun, nofun⟩

theorem Speaks.notify (h : c.Speaks) (level : Level) {message : String} (hm : Visible message) :
    (c.notify level message).Speaks where
  error := h.error
  notification := by
    rintro n ⟨⟩
    exact hm

/-- A failure whose text says something leaves lines that say something. -/
theorem Speaks.sessionEvent (h : c.Speaks) {e : Session.Event} {message : String}
    (he : e.failure? = some message) (hm : Visible message) : (c.sessionEvent e).1.Speaks := by
  have herror : ∀ text, (c.session.step e).next.error = some text → Visible text := by
    intro text htext
    rcases Session.error_step_of_failure (s := c.session) he with hsame | hnew
    · exact h.error text (hsame ▸ htext)
    · obtain rfl := Option.some.inj (hnew.symm.trans htext)
      exact hm
  have hstepped : Speaks { c with session := (c.session.step e).next } :=
    ⟨herror, h.notification⟩
  simp only [Console.sessionEvent]
  split
  · -- the notification has the session's text, or a stock text where there is none
    apply hstepped.notify
    cases htext : (c.session.step e).next.error with
    | none => decide
    | some text => exact herror text htext
  · exact hstepped

theorem Speaks.deliver (h : c.Speaks) {d : Delivery} {fault : Fault} (hd : d.fault? = some fault)
    (hv : Visible fault.userMessage) : (c.deliver d).1.Speaks := by
  rcases d with ⟨g, fault' | r⟩ | ⟨g, fault' | r⟩ | ⟨g, fault' | r⟩ | ⟨g, fault' | r⟩ |
    ⟨g, fault' | batch⟩ | fault' | status <;> cases hd
  -- two of the answers put words of their own in front of the fault's line
  case stopped.error =>
    have hevent := h.sessionEvent (e := .stopFailed g fault.userMessage) rfl hv
    simp only [Console.deliver]
    split
    · exact hevent.notify _ (Text.Visible.append_right (by decide) _)
    · exact hevent
  case inventory.error =>
    simp only [Console.deliver]
    split
    · exact ⟨h.error, fun n hn => by
        cases hn
        exact Text.Visible.append_right (by decide) _⟩
    · exact h
  case agent.error => exact ⟨h.error, h.notification⟩
  all_goals exact h.sessionEvent rfl hv

/-- **A fault whose line says something leaves lines that say something.** -/
theorem Speaks.handle_deliver (h : c.Speaks) {d : Delivery} {fault : Fault}
    (hd : d.fault? = some fault) (hv : Visible fault.userMessage) :
    (c.handle (.deliver d)).1.Speaks where
  error := by
    rw [session_handle_deliver]
    exact (h.deliver hd hv).error
  notification := by
    rw [notification_handle_deliver]
    exact (h.deliver hd hv).notification

/-- A start that fails shows the fault's line. -/
theorem error_of_failed_start (fault : Fault) :
    ((start {}).handle (.deliver (.started {} (.error fault)))).1.session.error
      = some fault.userMessage := by
  rw [session_handle_deliver]
  rfl

end Console

namespace Client

/-- Without success, all that an answer brings is what it says is wrong. -/
theorem reply_of_not_success (call : Call) (url : Url) {status : Nat}
    (h : isSuccess status = false) (body : List UInt8) :
    (reply call url (.arrived status body) : Except Fault call.Result)
      = .error (.refused status (failureText status body)) := by
  simp only [reply, bodyOf, h]
  rfl

/-- **Failures say something, unless the agent's own words do not.**  For every
call, status without success and body: the call comes to a fault, and these are
the same: the fault's line has something to see in it; so has every error text
that the body holds; whichever console the fault is delivered to, and whatever
had been asked for, the session's error and the notification still have, if
they had before. -/
theorem failure_speaks_iff (call : Call) (url : Url) {status : Nat}
    (h : isSuccess status = false) (body : List UInt8) :
    ∃ fault, (reply call url (.arrived status body) : Except Fault call.Result) = .error fault ∧
      (Visible fault.userMessage ↔ ∀ text, Wire.SaysWrong body text → Visible text) ∧
      (Visible fault.userMessage ↔ ∀ (c : Console) (d : Delivery), d.fault? = some fault →
        c.Speaks → (c.handle (.deliver d)).1.Speaks) := by
  refine ⟨_, reply_of_not_success call url h body, visible_failureText_iff, ?_⟩
  constructor
  · intro hv c d hd hspeaks
    exact hspeaks.handle_deliver hd hv
  · intro hkept
    have hlines := hkept _ (.started {} (.error _)) rfl (Console.speaks_start {})
    exact hlines.error _ (Console.error_of_failed_start _)

/-- The agent's words stand among other fields, with blanks around them. -/
theorem words_among_fields_speak :
    let body := "\x7b\"code\":7,\"error\":\" no vCenter \"\x7d".toUTF8.toList
    let url : Url := { scheme := "http" }
    isSuccess 502 = false ∧
      ∃ fault, (reply .status url (.arrived 502 body) : Except Fault StatusReport) = .error fault ∧
        Visible fault.userMessage ∧ ∀ (c : Console) (d : Delivery), d.fault? = some fault →
          c.Speaks → (c.handle (.deliver d)).1.Speaks := by
  intro body url
  have hstatus : isSuccess 502 = false := by decide
  obtain ⟨fault, hreply, hwords, hlines⟩ := failure_speaks_iff .status url hstatus body
  have hbody : (Json.ofBytes? body).bind Wire.errorText? = some " no vCenter " := by
    decide +kernel
  have hv : Visible fault.userMessage := by
    apply hwords.mpr
    intro text htext
    rw [Wire.saysWrong_iff, hbody] at htext
    obtain rfl := Option.some.inj htext
    decide
  exact ⟨hstatus, fault, hreply, hv, hlines.mp hv⟩

/-- **Empty words get through.**  The agent refuses to tell its status, with an
error document whose text is empty: the session's error and the notification
are empty too, although the body and the status would have something to say. -/
theorem empty_words_get_through :
    let body := "\x7b\"error\":\"\"\x7d".toUTF8.toList
    let url : Url := { scheme := "http" }
    let answer : Except Fault StatusReport := reply .status url (.arrived 502 body)
    let c := ((Console.start {}).handle (.deliver (.synced {} answer))).1
    isSuccess 502 = false ∧ answer = .error (.refused 502 "") ∧
      ¬ Visible (Fault.refused 502 "").userMessage ∧
      c.session.error = some "" ∧
      c.display.notification = some { level := .error, message := "" } ∧
      Visible (Text.trim (Text.readLossy body)) ∧ reason? 502 = some "Bad Gateway" := by
  intro body url answer c
  have hstatus : isSuccess 502 = false := by decide
  have htext : failureText 502 body = "" := by decide +kernel
  have hanswer : answer = .error (.refused 502 "") := by
    rw [← htext]
    exact reply_of_not_success .status url hstatus body
  exact ⟨hstatus, hanswer, by decide, by decide +kernel, by decide +kernel, by decide +kernel,
    by decide⟩

end Client

end VmAssessment
