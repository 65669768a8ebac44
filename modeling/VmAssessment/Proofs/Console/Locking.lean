/-
VmAssessment/Proofs/Console/Locking.lean

The login form while a collection is in flight.  The panel draws the form locked
then: no field has the focus, the text is greyed out, and the hint names no key
that edits it.  The keys do not know of that.  What a key means on the login
screen does not depend on the session, so the form heeds the same keys as ever,
unseen; help alone keeps them from it (`form_kept_iff`).

Of the keys that reach the form, the one that sends it is refused by the session.
The password is cleared when the form is sent, and what is typed after that is
the beginning of the next one (`locked_form_typed_into`).
-/
import VmAssessment.Proofs.Console.Filling

namespace VmAssessment

/-! ### What edits a form -/

theorem LoginField.next_ne (x : LoginField) : x.next ≠ x := by
  cases x <;> exact nofun

theorem LoginField.prev_ne (x : LoginField) : x.prev ≠ x := by
  cases x <;> exact nofun

namespace LoginForm

variable {f f' : LoginForm}

/-- The same in every field, and the focus on the same one. -/
structure SameFields (f f' : LoginForm) : Prop where
  url : f'.url = f.url
  username : f'.username = f.username
  password : f'.password = f.password
  focus : f'.focus = f.focus

theorem SameFields.refl (f : LoginForm) : f.SameFields f := ⟨rfl, rfl, rfl, rfl⟩

theorem SameFields.value (h : f.SameFields f') (x : LoginField) : f'.value x = f.value x := by
  cases x with
  | url => exact h.url
  | username => exact h.username
  | password => exact h.password

theorem not_sameFields_insert (f : LoginForm) (ch : Char) : ¬f.SameFields (f.insert ch) := by
  intro h
  have htyped : (f.insert ch).value f.focus = (f.value f.focus).push ch := by
    unfold insert
    cases f.focus <;> rfl
  have hlength := congrArg String.length (htyped.symm.trans (h.value f.focus))
  simp at hlength

/-- Deleting edits a field that is not empty. -/
theorem sameFields_delete_iff (f : LoginForm) :
    f.SameFields f.delete.1 ↔ (f.value f.focus).isEmpty = true := by
  cases hempty : (f.value f.focus).isEmpty with
  | true => simp [delete, hempty, SameFields.refl]
  | false =>
      refine iff_of_false (fun h => ?_) (by simp)
      have hshorter : f.delete.1.value f.focus
          = String.ofList (f.value f.focus).toList.dropLast := by
        simp only [delete, hempty]
        cases f.focus <;> rfl
      have htext : (f.value f.focus).toList ≠ [] := by simpa using hempty
      have hlist := congrArg String.toList (hshorter.symm.trans (h.value f.focus))
      have hlength := congrArg List.length hlist
      rw [String.toList_ofList, List.length_dropLast] at hlength
      have := List.length_pos_iff.2 htext
      omega

/-- Checking the form edits no field. -/
theorem sameFields_submit (f : LoginForm) : f.SameFields f.submit.1 := by
  unfold submit
  split <;> exact ⟨rfl, rfl, rfl, rfl⟩

/-- The keys that edit the form: they type, delete or move the focus. -/
def heeds (f : LoginForm) (k : Key) : Bool :=
  match k.code with
  | .char ch => !(k.ctrl && (ch == 'c' || ch == 'q'))
  | .backspace => !(f.value f.focus).isEmpty
  | .tab | .down | .backTab | .up => true
  | _ => false

/-- **The form is edited by the keys that it heeds**, and by no other. -/
theorem sameFields_after_iff (f : LoginForm) {k : Key}
    (hk : ¬(k.ctrl = true ∧ k.code = .char 'c')) :
    f.SameFields (f.after true k.onLogin) ↔ f.heeds k = false := by
  obtain ⟨code, ctrl, shift, alt⟩ := k
  cases code with
  | char ch =>
      by_cases hq : ch = 'q' ∧ ctrl = true
      · obtain ⟨rfl, rfl⟩ := hq
        exact iff_of_true (.refl f) rfl
      · -- neither of the two keys that leave the program
        have htyped : Key.onLogin ⟨.char ch, ctrl, shift, alt⟩ = .typeLogin ch := if_neg hq
        rw [htyped]
        refine iff_of_false (f.not_sameFields_insert ch) ?_
        simp only [KeyCode.char.injEq] at hk
        simp only [heeds, Bool.not_eq_false', Bool.and_eq_true, Bool.or_eq_true, beq_iff_eq]
        tauto
  | tab | down => exact iff_of_false (fun h => f.focus.next_ne h.focus) nofun
  | backTab | up => exact iff_of_false (fun h => f.focus.prev_ne h.focus) nofun
  | backspace => exact f.sameFields_delete_iff.trans (by simp [heeds])
  | enter =>
      have hsubmit : f.after true .submitLogin = f.submit.1 := by simp [after]
      exact iff_of_true (hsubmit ▸ f.sameFields_submit) rfl
  | function n =>
      have hkept : f.after true (Key.onLogin ⟨.function n, ctrl, shift, alt⟩) = f := by
        unfold Key.onLogin
        split <;> first | contradiction | rfl
      rw [hkept]
      exact iff_of_true (.refl f) rfl
  | _ => exact iff_of_true (.refl f) rfl

end LoginForm

namespace Console

open TerminalEvent (enter filling)

variable {c : Console}

/-- While a collection is in flight, the form is on the screen. -/
theorem screen_of_isActive (h : c.session.phase.isActive = true) : c.screen = .login := by
  refine if_neg fun hreport => ?_
  rw [hreport.1] at h
  cases h

/-- **Which keys leave the form alone while a collection is in flight**: those that
edit no form, and all of them while the help page is open. -/
theorem form_kept_iff (h : c.session.phase.isActive = true) (k : Key) :
    c.login.SameFields (c.react (.pressed k)).1.login ↔
      c.display.overlay = .help ∨ c.login.heeds k = false := by
  have hlogin : (c.react (.pressed k)).1.login
      = c.login.after true (c.keyContext.keyAction k) := by
    rw [← h]
    exact c.login_handle _
  rw [hlogin]
  by_cases hc : k.ctrl = true ∧ k.code = .char 'c'
  · have hquit : c.keyContext.keyAction k = .quit := if_pos hc
    rw [hquit]
    exact iff_of_true (.refl _) (.inr (by simp [LoginForm.heeds, hc]))
  by_cases ho : c.display.overlay = .help
  · -- the help page has keys of its own
    have hkept : c.login.after true k.onHelp = c.login := by
      unfold Key.onHelp
      split <;> rfl
    rw [KeyContext.keyAction_of_help ho hc, hkept]
    exact iff_of_true (.refl _) (.inl ho)
  · rw [KeyContext.keyAction_of_login (screen_of_isActive h) ho hc,
      LoginForm.sameFields_after_iff _ hc]
    exact ⟨.inr, fun hkey => hkey.resolve_left ho⟩

/-- The form that was sent is sent again: nothing becomes of it. -/
theorem form_kept_by_enter :
    let c := ((start {}).reactAll (filling "http://h" "u" "p" ++ [enter])).1
    c.session.phase.isActive = true ∧ c.login.SameFields (c.react enter).1.login := by
  intro c
  have hactive : c.session.phase.isActive = true := by decide +kernel
  exact ⟨hactive, (form_kept_iff hactive { code := .enter }).2 (.inr rfl)⟩

/-- **A locked form is typed into.**  While the agent is asked to connect, a
character goes into the password that has just been cleared. -/
theorem locked_form_typed_into :
    let c := ((start {}).reactAll (filling "http://h" "u" "p" ++ [enter])).1
    let r := c.react (.pressed (.ofChar 'x'))
    Operated {} c ∧ c.session.phase.isActive = true ∧ c.login.password = "" ∧
      r.1.login.password = "x" ∧ ¬c.login.SameFields r.1.login := by
  intro c r
  have hempty : c.login.password = "" := by decide +kernel
  have htyped : r.1.login.password = "x" := by decide +kernel
  refine ⟨Operated.start.reactAll _, by decide +kernel, hempty, htyped, fun h => ?_⟩
  have hsame := h.password
  rw [hempty, htyped] at hsame
  exact absurd hsame (by decide)

end Console

end VmAssessment
