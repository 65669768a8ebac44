/-
VmAssessment/Proofs/Console/Failing.lean

What the console says of a session that has failed.  A session carries its
phase and a text for what went wrong side by side, and most transitions set
one of them without looking at the other.  They agree nevertheless: the
session is in error if and only if there is a text (`Session.Explained`).  The
text is only ever written together with the phase, and a report that moves the
phase forward, which leaves the text alone, meets no session in error: an
error has no place on the way forward.

A session that fails is also heard of.  Only the answer of a request can make
it fail (`deliver_of_fails`), an answer that changes the session is applied
(`next_of_not_applied`), and then the screen shows the session's own text as
an error.  The failure to stop is the one answer with a message of its own,
and it leaves the phase as it is.
-/
import VmAssessment.Proofs.Console.Shown

namespace VmAssessment

theorem Phase.ne_error_of_isBehind {p q : Phase} (h : p.isBehind q = true) :
    p ≠ .error ∧ q ≠ .error := by
  cases p <;> cases q <;> simp_all [isBehind, progress?]

namespace Session

variable {before s s' : Session} {e : Event}

/-! ### Phase and text agree -/

/-- The session has a text for what went wrong if and only if something
did. -/
def Explained (s : Session) : Prop := s.phase = .error ↔ s.error.isSome = true

theorem Explained.of_same (h : s.Explained) (hp : s'.phase = s.phase)
    (he : s'.error = s.error) : s'.Explained := by
  rw [Explained, hp, he]
  exact h

/-- A session that is put into another phase, and whose text is taken away. -/
theorem explained_of_cleared (hp : s.phase ≠ .error) (he : s.error = none) : s.Explained := by
  simp [Explained, hp, he]

theorem Explained.error_eq_none (h : s.Explained) (hp : s.phase ≠ .error) : s.error = none := by
  cases he : s.error with
  | none => rfl
  | some text => exact absurd (h.2 (by rw [he]; rfl)) hp

theorem explained_fail (s : Session) (message : String) : (s.fail message).next.Explained :=
  ⟨fun _ => rfl, fun _ => rfl⟩

theorem Explained.advance (h : s.Explained) (hb : before.phase = s.phase) (r : StatusReport) :
    (Session.advance before s r).next.Explained := by
  simp only [Session.advance]
  split
  · exact explained_fail _ _
  · split
    · rename_i hahead
      obtain ⟨hbefore, hr⟩ := Phase.ne_error_of_isBehind hahead
      exact explained_of_cleared hr (h.error_eq_none (hb ▸ hbefore))
    · exact h.of_same rfl rfl

theorem Explained.start (h : s.Explained) (c : Credentials) : (s.start c).next.Explained := by
  unfold Session.start
  split
  · exact explained_of_cleared (by simp) rfl
  · exact h

theorem Explained.startResolved (h : s.Explained) (r : StatusReport) :
    (s.startResolved r).next.Explained := by
  have hidle : Explained { s with busy := false } := h.of_same rfl rfl
  have hadvance : (Session.advance s { s with busy := false } r).next.Explained :=
    hidle.advance (rfl : s.phase = s.phase) r
  simp only [Session.startResolved]
  split
  · exact hadvance
  · exact hadvance

theorem Explained.stop (h : s.Explained) : s.stop.next.Explained := by
  unfold Session.stop
  split
  · exact h
  · exact explained_of_cleared (by simp) rfl

theorem Explained.stopAnswered (h : s.Explained) : s.stopAnswered.next.Explained := by
  rw [stopAnswered_next]
  exact h.of_same rfl rfl

theorem Explained.pollResolved (h : s.Explained) (r : StatusReport) :
    (s.pollResolved r).next.Explained := by
  unfold Session.pollResolved
  split
  · exact h.advance rfl r
  · exact h

/-- A status that is taken over brings phase and text of its own. -/
theorem explained_statusSynced (s : Session) (r : StatusReport) :
    (s.statusSynced r).next.Explained := by
  by_cases hr : r.phase = .error <;> simp [Explained, statusSynced, noteCredentials, hr]

/-- **A step keeps phase and text in agreement.** -/
theorem Explained.step (h : s.Explained) (e : Event) : (s.step e).next.Explained := by
  rcases s.step_cases e with ⟨-, hs⟩ | ⟨-, hs⟩ <;> rw [hs]
  · exact h
  cases e with
  | attach => exact h
  | start c => exact h.start c
  | startResolved _ r => exact h.startResolved r
  | startFailed _ message | statusFetchFailed _ message => exact explained_fail s message
  | stop => exact h.stop
  | stopResolved _ | stopFailed _ _ => exact h.stopAnswered
  | pollResolved _ r => exact h.pollResolved r
  | statusSynced _ r => exact explained_statusSynced s r

/-! ### What makes a session fail -/

theorem next_of_not_applied (h : (s.step e).outcome ≠ .applied) : (s.step e).next = s := by
  obtain ⟨o, ho⟩ := exists_unchanged_of_not_applied h
  rw [ho, unchanged]

/-- No command makes a session fail, and neither does the question for its
status. -/
theorem phase_of_fails_untagged (ht : e.tag? = none) (h : (s.step e).next.phase = .error) :
    s.phase = .error := by
  have hs : s.step e = s.apply e := step_of_current (by simp [isStale, ht])
  rw [hs] at h
  cases e with
  | attach => exact h
  | start c =>
      simp only [apply, Session.start] at h
      split at h
      · cases h
      · exact h
  | stop =>
      simp only [apply, Session.stop] at h
      split at h
      · exact h
      · cases h
  | _ => cases ht

/-- The failure to stop leaves the phase as it is. -/
theorem phase_stopFailed (s : Session) (g : Generation) (message : String) :
    (s.step (.stopFailed g message)).next.phase = s.phase := by
  rcases s.step_cases (.stopFailed g message) with ⟨-, hs⟩ | ⟨-, hs⟩ <;> rw [hs]
  · rfl
  · have hnext : (s.apply (.stopFailed g message)).next = { s with busy := false } :=
      s.stopAnswered_next
    rw [hnext]

end Session

namespace Console

variable {c : Console}

/-! ### What the screen says of it -/

/-- The screen shows the session's text as an error. -/
def TellsError (c : Console) : Prop :=
  ∃ n, c.display.notification = some n ∧ n.level = .error ∧ c.session.error = some n.message

@[simp] theorem notification_refresh (c : Console) :
    c.refresh.1.display.notification = c.display.notification :=
  agree_refresh (p := .message) c (by decide)

/-- Bringing the rows up to date after an answer is of no matter to the
session. -/
theorem session_handle_deliver (c : Console) (d : Delivery) :
    (c.handle (.deliver d)).1.session = (c.deliver d).1.session :=
  agree_refresh (p := .session) (c.deliver d).1 (by decide)

theorem notification_handle_deliver (c : Console) (d : Delivery) :
    (c.handle (.deliver d)).1.display.notification = (c.deliver d).1.display.notification :=
  notification_refresh (c.deliver d).1

/-- A session event that makes the session fail is told. -/
theorem tellsError_sessionEvent {e : Session.Event} (h : c.session.Explained)
    (hs : c.session.phase ≠ .error) (he : (c.sessionEvent e).1.session.phase = .error) :
    (c.sessionEvent e).1.TellsError := by
  rw [(c.sessionEvent_spec e).1] at he
  have happlied : (c.session.step e).outcome = .applied := by
    by_contra hno
    rw [Session.next_of_not_applied hno] at he
    exact hs he
  obtain ⟨text, htext⟩ := Option.isSome_iff_exists.1 ((h.step e).1 he)
  refine ⟨{ level := .error, message := text }, ?_, rfl, ?_⟩
  · simp [sessionEvent, happlied, he, hs, htext, notify, Display.notify, Display.requestRedraw]
  · rw [(c.sessionEvent_spec e).1, htext]

/-- An answer that makes the session fail is told. -/
theorem tellsError_deliver {d : Delivery} (h : c.session.Explained)
    (hs : c.session.phase ≠ .error) (hd : (c.deliver d).1.session.phase = .error) :
    (c.deliver d).1.TellsError := by
  have hspec := c.deliver_spec d
  rcases d with ⟨g, fault | r⟩ | ⟨g, fault | r⟩ | ⟨g, fault | r⟩ | ⟨g, fault | r⟩ |
    ⟨g, result⟩ | fault | status
  case stopped.error =>
    have hphase : (c.deliver (.stopped g (.error fault))).1.session.phase = c.session.phase :=
      (congrArg Session.phase hspec.1).trans (c.session.phase_stopFailed g _)
    exact absurd (hphase ▸ hd) hs
  -- these answers are of no matter to the session
  case inventory => exact absurd (hspec.1 ▸ hd) hs
  case agent.error => exact absurd hd hs
  case agent.ok => exact absurd hd hs
  all_goals exact tellsError_sessionEvent h hs hd

/-- Only an answer makes the session fail. -/
theorem deliver_of_fails {a : Action} (hs : c.session.phase ≠ .error)
    (ha : (c.handle a).1.session.phase = .error) : ∃ d, a = .deliver d := by
  have hsession := c.handle_session a
  cases he : c.event? a with
  | none =>
      rw [he] at hsession
      exact absurd (hsession.1 ▸ ha) hs
  | some e =>
      rw [he] at hsession
      have hfails : (c.session.step e).next.phase = .error := hsession.1 ▸ ha
      have htag : e.tag? ≠ none := fun ht => hs (Session.phase_of_fails_untagged ht hfails)
      cases a with
      | deliver d => exact ⟨d, rfl⟩
      | submitLogin =>
          simp only [event?] at he
          split at he <;> cases he
          exact absurd rfl htag
      | stopCollection | syncStatus => exact absurd (Option.some.inj he ▸ rfl) htag
      | _ => cases he

/-- **Any action that makes the session fail is told.** -/
theorem tellsError_handle {a : Action} (h : c.session.Explained)
    (hs : c.session.phase ≠ .error) (ha : (c.handle a).1.session.phase = .error) :
    (c.handle a).1.TellsError := by
  obtain ⟨d, rfl⟩ := deliver_of_fails hs ha
  have hsession := c.session_handle_deliver d
  rw [hsession] at ha
  obtain ⟨n, hn, hlevel, htext⟩ := tellsError_deliver h hs ha
  exact ⟨n, (c.notification_handle_deliver d).trans hn, hlevel, hsession ▸ htext⟩

/-! ### Consoles that are reached -/

theorem explained_handle (h : c.session.Explained) (a : Action) :
    (c.handle a).1.session.Explained := by
  have hsession := c.handle_session a
  cases he : c.event? a with
  | none =>
      rw [he] at hsession
      rw [hsession.1]
      exact h
  | some e =>
      rw [he] at hsession
      rw [hsession.1]
      exact h.step e

namespace Reached

variable {table : TableSettings}

theorem explained (h : Reached table c) : c.session.Explained := by
  induction h with
  | start => exact Session.explained_of_cleared (by simp [Console.start]) rfl
  | attach _ ih => exact ih.step .attach
  | handle a _ ih => exact explained_handle ih a
  | elapse _ _ ih => exact ih
  | draw _ ih => exact ih

/-- **A failed session is explained, and its failure is told.**  Whatever has
happened, the session is in error if and only if it has a text for it; and
whatever puts it into error, the screen shows that text as an error then. -/
theorem failure_told (h : Reached table c) :
    (c.session.phase = .error ↔ c.session.error.isSome = true) ∧
      ∀ a, c.session.phase ≠ .error → (c.handle a).1.session.phase = .error →
        ∃ n, (c.handle a).1.display.notification = some n ∧ n.level = .error ∧
          (c.handle a).1.session.error = some n.message :=
  ⟨h.explained, fun _ hs ha => tellsError_handle h.explained hs ha⟩

/-- While a collection is running and the screen warns that there is no
inventory yet, the agent reports an error without a text. -/
theorem failure_told_over_warning :
    let c := ((Console.start {}).handle (.deliver (.synced {} (.ok { phase := .collecting })))).1
    let warned := (c.handle .reloadInventory).1
    let a : Action := .deliver (.polled {} (.ok { phase := .error }))
    Reached {} warned ∧ warned.session.phase ≠ .error ∧
      (warned.handle a).1.session.phase = .error ∧
      ∃ n, (warned.handle a).1.display.notification = some n ∧ n.level = .error ∧
        (warned.handle a).1.session.error = some n.message := by
  intro c warned a
  have hreached : Reached {} warned := (Reached.start.handle _).handle _
  have hbefore : warned.session.phase ≠ .error := by decide +kernel
  have hafter : (warned.handle a).1.session.phase = .error := by decide +kernel
  exact ⟨hreached, hbefore, hafter, (failure_told hreached).2 a hbefore hafter⟩

end Reached

end Console

end VmAssessment
