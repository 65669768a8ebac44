/-
VmAssessment/Proofs/Console/Alarms.lean

How long an error stays on the screen.  It has no time of its own to run out,
so it is up to the next message and to the user.

There is room for one message, and the newest takes it.  Of the answers of the
agent, those that concern the session leave the error or put another error in
its place; but the answer to the request for the inventory always has something
to say, and so has the failure to stop, and neither looks at what it covers up
(`error_stays_unless_news`).

The user takes an error off the screen by doing something.  What counts is not
the key that was pressed but what it means: a key without a meaning is handled
like the passing of time, and the error stays (`key_takes_error_off_iff`).  The
screen says that any key will do, and there are such keys on every screen.
-/
import VmAssessment.Proofs.Console.Dismissing
import VmAssessment.Proofs.Console.Failing
import VmAssessment.Proofs.Desk.Situation

namespace VmAssessment

namespace Console

variable {c c' : Console} {a : Action}

/-! ### Messages and errors -/

/-- Whether an error is shown is a matter of the message alone. -/
theorem showsError_congr (h : c'.display.notification = c.display.notification) :
    c'.showsError = c.showsError := by
  rw [showsError, h, showsError]

theorem showsError_notify (c : Console) (level : Level) (message : String) :
    (c.notify level message).showsError = (level == .error) := rfl

/-- An error has no time that could be over. -/
theorem expire_of_showsError (h : c.showsError = true) : c.display.expire.1 = c.display := by
  obtain ⟨n, hn, hlevel⟩ := (Option.any_eq_true ..).1 h
  have hover : n.isOver = false := by
    rw [Notification.isOver, eq_of_beq hlevel]
    rfl
  simp [Display.expire, hn, hover]

theorem showsError_elapse (c : Console) (ms : Nat) :
    (c.editDisplay (·.elapse ms)).showsError = c.showsError := by
  simp only [showsError, editDisplay, Display.elapse, Option.any_map]

/-! ### Answers of the agent -/

/-- An answer comes with a message that is no error, whatever is shown. -/
def BringsNews (c : Console) : Action → Prop
  | .deliver (.inventory g _) => g = c.session.generation
  | .deliver (.stopped g (.error _)) => g = c.session.generation ∧ c.session.busy = true
  | _ => False

/-- An event of the session leaves an error or brings another one. -/
theorem showsError_sessionEvent (h : c.showsError = true) (e : Session.Event) :
    (c.sessionEvent e).1.showsError = true := by
  simp only [sessionEvent]
  split
  · rfl
  · exact h

/-- The failure to stop concerns a session that waits for the answer. -/
theorem outcome_stopFailed (s : Session) (g : Generation) (message : String) :
    (s.step (.stopFailed g message)).outcome = .applied ↔ g = s.generation ∧ s.busy = true := by
  by_cases hg : g = s.generation
  · have hstep : s.step (.stopFailed g message) = s.stopAnswered :=
      Session.step_of_current (by simp [Session.isStale, Session.Event.tag?, hg])
    rw [hstep, Session.stopAnswered]
    cases hb : s.busy <;> simp [hg, Session.unchanged]
  · have hstale : s.isStale (.stopFailed g message) = true :=
      Session.isStale_eq_true_iff.2 ⟨g, rfl, hg⟩
    rw [Session.step_of_stale hstale]
    simp [Session.unchanged, hg]

/-- A batch, taken or refused, and the failure to get one are told, and not as
errors. -/
theorem showsError_takeInventory (c : Console) (result : Except Fault (List Vm)) :
    (c.takeInventory result).showsError = false := by
  cases result with
  | error fault => rfl
  | ok batch =>
      simp only [takeInventory]
      split <;> rfl

theorem showsError_deliver_iff (h : c.showsError = true) (d : Delivery) :
    (c.deliver d).1.showsError = true ↔ ¬ c.BringsNews (.deliver d) := by
  rcases d with ⟨g, fault | r⟩ | ⟨g, fault | r⟩ | ⟨g, fault | r⟩ | ⟨g, fault | r⟩ |
    ⟨g, result⟩ | fault | status
  case stopped.error =>
    simp only [deliver, BringsNews, ← outcome_stopFailed c.session g fault.userMessage]
    split
    · exact iff_of_false (by simp [showsError_notify]) (fun hn => hn ‹_›)
    · exact iff_of_true (showsError_sessionEvent h _) ‹_›
  case inventory =>
    simp only [deliver, BringsNews]
    split
    · exact iff_of_false (by simp [showsError_takeInventory]) (fun hn => hn ‹_›)
    · exact iff_of_true h ‹_›
  case agent.error => exact iff_of_true h not_false
  case agent.ok => exact iff_of_true h not_false
  all_goals exact iff_of_true (showsError_sessionEvent h _) not_false

/-! ### While the user does nothing -/

/-- Of what is not the user's doing, news alone take an error off the screen. -/
theorem showsError_handle_iff (h : c.showsError = true) (ha : a.isUsers = false) :
    (c.handle a).1.showsError = true ↔ ¬ c.BringsNews a := by
  cases a with
  | tick =>
      have htick : (c.handle .tick).1 = { c with display := c.display.expire.1 } := rfl
      rw [htick, expire_of_showsError h]
      exact iff_of_true h not_false
  | idle => exact iff_of_true h not_false
  | resize width height =>
      exact iff_of_true ((showsError_congr (notification_refresh c)).trans h) not_false
  | deliver d =>
      have hdeliver : (c.handle (.deliver d)).1.showsError = (c.deliver d).1.showsError :=
        showsError_congr (c.notification_handle_deliver d)
      rw [hdeliver]
      exact showsError_deliver_iff h d
  | _ => cases ha

/-- What a console comes to while the user does nothing and no news come in:
time passes, frames are drawn, and the agent answers. -/
inductive Unattended (c : Console) : Console → Prop
  | refl : Unattended c c
  | handle {c' : Console} {a : Action} :
      Unattended c c' → a.isUsers = false → ¬ c'.BringsNews a → Unattended c (c'.handle a).1
  | elapse {c' : Console} (ms : Nat) : Unattended c c' → Unattended c (c'.editDisplay (·.elapse ms))
  | draw {c' : Console} : Unattended c c' → Unattended c c'.drawn

/-- **An error stays on the screen unless news come in.**  Of all that is not
the user's doing, the answer to a request for the inventory of this generation
takes the error off the screen, and so does the failure to stop for which the
session was waiting; nothing else does.  So it is there for as long as the user
does nothing and no such answer comes. -/
theorem error_stays_unless_news (h : c.showsError = true) :
    (∀ a : Action, a.isUsers = false →
        ((c.handle a).1.showsError = true ↔ ¬ c.BringsNews a)) ∧
      ∀ c', c.Unattended c' → c'.showsError = true := by
  refine ⟨fun a ha => showsError_handle_iff h ha, fun c' hc' => ?_⟩
  induction hc' with
  | refl => exact h
  | handle _ ha hnews ih => exact (showsError_handle_iff ih ha).2 hnews
  | elapse ms _ ih => exact (showsError_elapse _ ms).trans ih
  | draw _ ih => exact ih

/-- A question for the status has failed.  An hour later, after a frame, the
clock and the agent's answer on its mode, the error is still there. -/
theorem error_stays_for_an_hour :
    let c := ((Console.start {}).handle (.deliver (.synced {} (.error (.network "timeout"))))).1
    let hour := c.drawn.editDisplay (·.elapse 3600000)
    let c' := ((hour.handle .tick).1.handle (.deliver (.agent (.error (.network "timeout"))))).1
    c.showsError = true ∧ c.Unattended c' ∧ c'.showsError = true := by
  intro c hour c'
  have hshown : c.showsError = true := by decide +kernel
  have hhour : c.Unattended c' :=
    .handle (.handle (.elapse _ (.draw .refl)) rfl not_false) rfl not_false
  exact ⟨hshown, hhour, (error_stays_unless_news hshown).2 c' hhour⟩

/-- **A batch that comes in takes an error off the screen.**  The collection is
done and its inventory is asked for.  Then the user asks for the status, which
cannot be had; the error is shown for as long as it takes the inventory to
come. -/
theorem batch_takes_error_off :
    ∃ w, Reachable {} w ∧ w.desk.console.showsError = true ∧ .inventory {} ∈ w.pending ∧
      (w.after (.answer (.inventory {}) (.ok []))).desk.console.showsError = false :=
  Reachable.start.exists_of_run [.act .syncStatus, .act .syncStatus,
    .answer (.sync {}) (.ok { phase := .collected }),
    .answer (.sync {}) (.error (.network "timeout"))] (by decide +kernel)

/-! ### When the user does something -/

/-- The console without its message. -/
def withoutMessage (c : Console) : Console := c.editDisplay (·.dismiss)

theorem notification_withoutMessage (c : Console) :
    c.withoutMessage.display.notification = none := by
  simp only [withoutMessage, editDisplay, Display.dismiss]
  split
  · rfl
  · exact Option.not_isSome_iff_eq_none.1 ‹_›

theorem dismissError_of_showsError (h : c.showsError = true) :
    c.dismissError = c.withoutMessage := if_pos h

theorem dismissError_withoutMessage (c : Console) :
    c.withoutMessage.dismissError = c.withoutMessage := by
  rw [dismissError, showsError, notification_withoutMessage]
  rfl

/-- What the user does goes on as if the error had not been there. -/
theorem handle_of_showsError (h : c.showsError = true) (ha : a.isUsers = true) :
    c.handle a = c.withoutMessage.handle a := by
  simp only [handle, if_pos ha, dismissError_of_showsError h, dismissError_withoutMessage]

/-- A letter of the report means nothing, or is the user's doing. -/
theorem letterOnReport_cases (ch : Char) :
    Key.letterOnReport ch = .idle ∨ (Key.letterOnReport ch).isUsers = true := by
  unfold Key.letterOnReport
  split <;> first | exact .inr rfl | exact .inl rfl

/-- So is it with the other keys there. -/
theorem onReport_cases (k : Key) : k.onReport = .idle ∨ k.onReport.isUsers = true := by
  obtain ⟨code, -, -, -⟩ := k
  cases code with
  | char ch => exact letterOnReport_cases ch
  | function n =>
      -- two are bound, the first and the fifth
      rcases n with _ | _ | _ | _ | _ | _ | n
      all_goals first | exact .inl rfl | exact .inr rfl
  | _ => first | exact .inl rfl | exact .inr rfl

/-- A key that means something is the user's doing. -/
theorem isUsers_keyAction {x : KeyContext} {k : Key} (h : x.keyAction k ≠ .idle) :
    (x.keyAction k).isUsers = true := by
  refine Or.resolve_left (a := x.keyAction k = .idle) ?_ h
  rcases x.keyAction_cases k with hk | ⟨-, hk⟩ | ⟨-, -, hk⟩ | ⟨-, -, -, hk⟩ | ⟨-, -, -, hk⟩ |
    ⟨-, -, hk⟩ <;> rw [hk]
  · exact .inr rfl
  · unfold Key.onHelp
    split <;> first | exact .inr rfl | exact .inl rfl
  · unfold Key.onLogin
    split <;> first | exact .inr rfl | exact .inl rfl | split <;> exact .inr rfl
  · unfold Key.onSearch
    split <;> first | exact .inr rfl | exact .inl rfl
  · exact onReport_cases k
  · unfold Key.onMenu
    split <;> first | exact .inr rfl | exact .inl rfl

/-- On every screen, and whatever lies over it, there are keys without a
meaning. -/
theorem keyAction_other (x : KeyContext) : x.keyAction { code := .other } = .idle := by
  obtain ⟨screen, mode, overlay⟩ := x
  cases screen <;> cases mode <;> cases overlay <;> rfl

/-- The message that an action brings up on a screen without one. -/
def raised? (c : Console) (a : Action) : Option Notification :=
  (c.withoutMessage.handle a).1.display.notification

/-- **A key takes an error off the screen if and only if it means something.**
Then all goes on as if the error had not been there, and at most a message is
shown that the key itself has led to.  Otherwise nothing happens at all; and
there is always such a key. -/
theorem key_takes_error_off_iff (h : c.showsError = true) (k : Key) :
    let a := c.keyContext.keyAction k
    let r := c.react (.pressed k)
    (r.1.display.notification = c.raised? a ↔ a ≠ .idle) ∧
      (a ≠ .idle → r = c.withoutMessage.handle a) ∧ (a = .idle → r = (c, {})) ∧
      ∃ k', c.keyContext.keyAction k' = .idle := by
  intro a r
  have hr : r = c.handle a := rfl
  have hmeant : a ≠ .idle → r = c.withoutMessage.handle a := fun ha =>
    hr.trans (handle_of_showsError h (isUsers_keyAction ha))
  have hidle : a = .idle → r = (c, {}) := fun ha => by
    rw [hr, ha]
    rfl
  refine ⟨⟨fun hraised ha => ?_, fun ha => ?_⟩, hmeant, hidle, _, keyAction_other _⟩
  · -- the error is still there, but nothing was raised
    have hnone : c.raised? a = none := by
      rw [ha]
      exact c.notification_withoutMessage
    rw [hidle ha, hnone] at hraised
    rw [showsError, hraised] at h
    cases h
  · rw [hmeant ha, raised?]

/-- A question for the status has failed, and the empty form is sent: instead
of that error the screen says what is wrong with the form. -/
theorem enter_takes_error_off :
    let c := ((Console.start {}).handle (.deliver (.synced {} (.error (.network "timeout"))))).1
    let enter : Key := { code := .enter }
    c.showsError = true ∧ c.keyContext.keyAction enter ≠ .idle ∧
      (c.react (.pressed enter)).1.display.notification = c.raised? .submitLogin ∧
      c.raised? .submitLogin ≠ c.display.notification := by
  intro c enter
  have hshown : c.showsError = true := by decide +kernel
  have hmeant : c.keyContext.keyAction enter = .submitLogin := rfl
  obtain ⟨hoff, -⟩ := key_takes_error_off_iff hshown enter
  rw [hmeant] at hoff
  exact ⟨hshown, by rw [hmeant]; simp, hoff.2 (by simp), by decide +kernel⟩

/-- **The left key leaves the error where it is.**  The user has asked for the
status, which could not be had, and the error says that any key will do. -/
theorem left_key_keeps_error :
    let c := (((Console.start {}).react (.pressed { code := .function 5 })).1.handle
      (.deliver (.synced {} (.error (.network "timeout"))))).1
    let left : TerminalEvent := .pressed { code := .left }
    Operated {} c ∧ c.showsError = true ∧ (c.react left).1.showsError = true ∧
      (c.react left).1.display.notification = c.display.notification ∧
      NotificationBox.foot .error = " any key dismisses " := by
  intro c left
  have hshown : c.showsError = true := by decide +kernel
  have hkept : c.react left = (c, {}) := by decide +kernel
  exact ⟨.deliver _ (.react _ .start), hshown, by rw [hkept]; exact hshown, by rw [hkept], rfl⟩

end Console

end VmAssessment
