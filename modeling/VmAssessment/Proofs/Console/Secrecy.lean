/-
VmAssessment/Proofs/Console/Secrecy.lean

The password stays out of sight.  Two courses of the console that differ in
what is typed into the password, character for character, and in nothing else
(`SameButPassword`) cannot be told apart: after every step the consoles are
the same but for the text of the password, which is of the same length, and so
is what is left to do, but for the credentials that go out with a request
(`password_unseen`).

This is a simulation.  An action that leaves the login form alone does not
look at it (`handle_withLogin`), which settles all actions but five.  Of
those, deleting a character and sending the form ask something of the
password, and both ask no more than whether it is empty.
-/
import VmAssessment.Proofs.Console.Formless
import VmAssessment.Screen.Frame

namespace VmAssessment

/-! ### Forms and credentials -/

/-- The same credentials, but for a password of the same length. -/
def Credentials.Alike (k k' : Credentials) : Prop :=
  ∃ p : String, p.length = k.password.length ∧ k' = { k with password := p }

theorem Credentials.Alike.diagnostic {k k' : Credentials} (h : k.Alike k') :
    k'.diagnostic = k.diagnostic := by
  obtain ⟨p, -, rfl⟩ := h
  rfl

namespace LoginForm

/-- The same form, but for a password of the same length. -/
def Alike (f f' : LoginForm) : Prop :=
  ∃ p : String, p.length = f.password.length ∧ f' = { f with password := p }

variable {f f' : LoginForm}

theorem isEmpty_eq_of_length {s t : String} (h : s.length = t.length) : s.isEmpty = t.isEmpty := by
  rw [Bool.eq_iff_iff, String.isEmpty_iff, String.isEmpty_iff, ← String.length_eq_zero_iff, h,
    String.length_eq_zero_iff]

namespace Alike

theorem refl (f : LoginForm) : f.Alike f := ⟨f.password, rfl, rfl⟩

/-- Characters are typed; into the password, any two. -/
theorem insert (h : f.Alike f') {x y : Char} (hxy : y = x ∨ f.focus = .password) :
    (f.insert x).Alike (f'.insert y) := by
  obtain ⟨p, hp, rfl⟩ := h
  obtain ⟨url, username, password, focus, validation⟩ := f
  cases focus with
  | password => exact ⟨p.push y, by simp_all [LoginForm.insert, setValue, value], rfl⟩
  | url | username =>
      obtain rfl := hxy.resolve_right (by simp)
      exact ⟨p, hp, rfl⟩

theorem delete (h : f.Alike f') : f.delete.1.Alike f'.delete.1 := by
  obtain ⟨p, hp, rfl⟩ := h
  obtain ⟨url, username, password, focus, validation⟩ := f
  cases focus with
  | password =>
      have hlength : p.toList.length = password.toList.length := hp
      have hempty : p.isEmpty = password.isEmpty := isEmpty_eq_of_length hp
      cases he : password.isEmpty with
      | true =>
          refine ⟨p, ?_, ?_⟩
          · simp [LoginForm.delete, value, he, ← String.length_toList, hlength]
          · simp [LoginForm.delete, value, hempty, he]
      | false =>
          refine ⟨String.ofList p.toList.dropLast, ?_, ?_⟩
          · simp [LoginForm.delete, value, setValue, he, hlength]
          · simp [LoginForm.delete, value, setValue, hempty, he]
  | url => exact ⟨p, by cases he : url.isEmpty <;> simp_all [LoginForm.delete, value, setValue]⟩
  | username =>
      exact ⟨p, by cases he : username.isEmpty <;> simp_all [LoginForm.delete, value, setValue]⟩

theorem focusNext (h : f.Alike f') : f.focusNext.Alike f'.focusNext := by
  obtain ⟨p, hp, rfl⟩ := h
  exact ⟨p, hp, rfl⟩

theorem focusPrev (h : f.Alike f') : f.focusPrev.Alike f'.focusPrev := by
  obtain ⟨p, hp, rfl⟩ := h
  exact ⟨p, hp, rfl⟩

/-- Both forms are refused for the same fault, or both are in order. -/
theorem credentials (h : f.Alike f') :
    (∃ fault, f.credentials = .error fault ∧ f'.credentials = .error fault) ∨
      ∃ k k', f.credentials = .ok k ∧ f'.credentials = .ok k' ∧ k.Alike k' := by
  obtain ⟨p, hp, rfl⟩ := h
  have hempty : p.isEmpty = f.password.isEmpty := isEmpty_eq_of_length hp
  -- the checks of the URL are of no matter, and are not to be worked out here
  simp only [LoginForm.credentials, hempty]
  generalize Text.trim f.url = url, Text.trim f.username = username
  generalize urlFault? url = fault?
  by_cases hurl : url.isEmpty = true
  · exact .inl ⟨_, if_pos hurl, if_pos hurl⟩
  rw [if_neg hurl, if_neg hurl]
  cases fault? with
  | some fault => exact .inl ⟨fault, rfl, rfl⟩
  | none =>
      by_cases hname : username.isEmpty = true
      · exact .inl ⟨_, if_pos hname, if_pos hname⟩
      by_cases hpassword : f.password.isEmpty = true
      · exact .inl ⟨.blank .password, by simp [hname, hpassword], by simp [hname, hpassword]⟩
      · exact .inr ⟨⟨url, username, f.password⟩, ⟨url, username, p⟩, by simp [hname, hpassword],
          by simp [hname, hpassword], p, hp, rfl⟩

theorem shown (h : f.Alike f') (field : LoginField) : f'.shown field = f.shown field := by
  obtain ⟨p, hp, rfl⟩ := h
  cases field with
  | password => simp only [LoginForm.shown, hp]
  | url | username => rfl

theorem diagnostic (h : f.Alike f') : f'.diagnostic = f.diagnostic := by
  obtain ⟨p, hp, rfl⟩ := h
  unfold LoginForm.diagnostic
  rw [hp]

end Alike

end LoginForm

/-! ### What is left to do -/

/-- The same effects, but for the password in the credentials. -/
inductive Session.Effect.Alike : Session.Effect → Session.Effect → Prop
  | same (x : Session.Effect) : Alike x x
  | connect (g : Generation) {k k' : Credentials} (h : k.Alike k') :
      Alike (.connect g k) (.connect g k')

/-- The credentials that an effect hands out. -/
def Session.Effect.credentials? : Session.Effect → Option Credentials
  | .connect _ k => some k
  | _ => none

/-- A collection is asked for with either credentials. -/
theorem Session.start_alike (s : Session) {k k' : Credentials} (h : k.Alike k') :
    (s.start k').next = (s.start k).next ∧ (s.start k').outcome = (s.start k).outcome ∧
      List.Forall₂ Effect.Alike (s.start k).effects (s.start k').effects := by
  unfold start
  split
  · exact ⟨rfl, rfl, .cons (.connect _ h) .nil⟩
  · exact ⟨rfl, rfl, .nil⟩

/-- The same is left to do, but for the password in the credentials. -/
structure Followups.Alike (r r' : Followups) : Prop where
  rest : r' = { r with effects := r'.effects }
  effects : List.Forall₂ Session.Effect.Alike r.effects r'.effects

theorem Followups.Alike.refl (r : Followups) : r.Alike r :=
  ⟨rfl, List.forall₂_same.2 fun x _ => .same x⟩

namespace Console

/-! ### Consoles -/

/-- The same console, but for a password of the same length. -/
def Alike (c c' : Console) : Prop := ∃ f, c.login.Alike f ∧ c' = c.withLogin f

/-- The console afterwards and what is left to do are the same, but for the
password. -/
structure AlikeAfter (r r' : Console × Followups) : Prop where
  console : r.1.Alike r'.1
  followups : r.2.Alike r'.2

variable {c c' : Console}

theorem Alike.refl (c : Console) : c.Alike c := ⟨c.login, .refl _, rfl⟩

/-- What overlooks the form keeps consoles alike. -/
theorem Alike.map (h : c.Alike c') (F : Console → Console)
    (hF : ∀ f, F (c.withLogin f) = (F c).withLogin f) : (F c).Alike (F c') := by
  obtain ⟨f, hf, rfl⟩ := h
  have hsame : F c = (F c).withLogin c.login := hF c.login
  have hlogin : (F c).login = c.login := by
    rw [hsame]
    rfl
  exact ⟨f, hlogin ▸ hf, hF f⟩

theorem Alike.confined (h : c.Alike c') {ps : List Part} {F : Console → Console}
    (hF : Confined ps F) (hl : .login ∉ ps) : (F c).Alike (F c') :=
  h.map F (hF.withLogin hl c)

theorem Alike.editLogin (h : c.Alike c') {F F' : LoginForm → LoginForm}
    (hF : ∀ f, c.login.Alike f → (F c.login).Alike (F' f)) :
    (c.editLogin F).Alike (c'.editLogin F') := by
  obtain ⟨f, hf, rfl⟩ := h
  exact ⟨F' f, hF f hf, rfl⟩

/-- **Sending the form tells nothing of the password.** -/
theorem Alike.submitLogin (h : c.Alike c') :
    AlikeAfter (withEffects c.submitLogin) (withEffects c'.submitLogin) := by
  obtain ⟨f, hf, rfl⟩ := h
  have hsession : (c.withLogin f).session = c.session := rfl
  have hlogin : (c.withLogin f).login = f := rfl
  simp only [Console.submitLogin, LoginForm.submit, hlogin, hsession]
  rcases hf.credentials with ⟨fault, hc, hc'⟩ | ⟨k, k', hc, hc', hk⟩ <;> simp only [hc, hc']
  · obtain ⟨p, hp, rfl⟩ := hf
    exact ⟨⟨_, ⟨p, hp, rfl⟩, rfl⟩, .refl _⟩
  · obtain ⟨hnext, houtcome, heffects⟩ := c.session.start_alike hk
    have hstep : ∀ k, c.session.step (.start k) = c.session.start k := fun _ => rfl
    simp only [hstep, hnext, houtcome]
    obtain ⟨p, hp, rfl⟩ := hf
    refine ⟨Alike.confined ?_ (confined_tellOutcome _ _) (by decide), rfl, heffects⟩
    split
    · exact ⟨_, .refl _, rfl⟩
    · exact ⟨_, ⟨p, hp, rfl⟩, rfl⟩

/-! ### Actions -/

theorem Alike.dismissError (h : c.Alike c') : c.dismissError.Alike c'.dismissError :=
  h.confined confined_dismissError (by decide)

theorem AlikeAfter.handle {a a' : Action} (ha : .login ∈ a.reach) (ha' : .login ∈ a'.reach)
    (h : AlikeAfter (c.dismissError.change a) (c'.dismissError.change a')) :
    AlikeAfter (c.handle a) (c'.handle a') := by
  rw [handle_of_login_mem_reach ha, handle_of_login_mem_reach ha']
  have hrefresh := h.console.map (·.refresh.1) (withLogin_refresh _)
  exact ⟨hrefresh.map (·.editDisplay (·.requestRedraw .everything)) fun _ => rfl, h.followups⟩

/-- Characters are typed; into the password, any two. -/
theorem Alike.typeLogin (h : c.Alike c') {x y : Char}
    (hxy : y = x ∨ c.login.focus = .password) :
    AlikeAfter (c.handle (.typeLogin x)) (c'.handle (.typeLogin y)) := by
  have hlogin : c.dismissError.login = c.login :=
    c.sameBut_dismissError.agree (p := .login) (by simp)
  have hinsert : (c.dismissError.editLogin (·.insert x)).Alike
      (c'.dismissError.editLogin (·.insert y)) :=
    h.dismissError.editLogin fun f hf => hf.insert (hlogin ▸ hxy)
  exact .handle (by simp [Action.reach]) (by simp [Action.reach]) ⟨hinsert, .refl {}⟩

/-- An action that does not reach the form. -/
theorem Alike.handle_of_unreached (h : c.Alike c') {a : Action} (ha : .login ∉ a.reach) :
    AlikeAfter (c.handle a) (c'.handle a) := by
  obtain ⟨f, hf, rfl⟩ := h
  have hlogin : (c.handle a).1.login = c.login :=
    c.handle_agree (p := .login) a ha (by decide)
  rw [handle_withLogin ha]
  exact ⟨⟨f, hlogin ▸ hf, rfl⟩, .refl _⟩

/-- **At the same action, what is alike stays alike.** -/
theorem Alike.handle (h : c.Alike c') (a : Action) : AlikeAfter (c.handle a) (c'.handle a) := by
  by_cases ha : .login ∈ a.reach
  case neg => exact h.handle_of_unreached ha
  have hedit : ∀ F : LoginForm → LoginForm, (∀ f f', f.Alike f' → (F f).Alike (F f')) →
      AlikeAfter (c.dismissError.editLogin F, {}) (c'.dismissError.editLogin F, {}) :=
    fun F hF => ⟨h.dismissError.editLogin fun f hf => hF _ f hf, .refl {}⟩
  cases Action.ofForm_of_mem_reach ha with
  | type x => exact h.typeLogin (.inl rfl)
  | delete => exact .handle ha ha (hedit (·.delete.1) fun _ _ hf => hf.delete)
  | next => exact .handle ha ha (hedit (·.focusNext) fun _ _ hf => hf.focusNext)
  | prev => exact .handle ha ha (hedit (·.focusPrev) fun _ _ hf => hf.focusPrev)
  | submit => exact .handle ha ha h.dismissError.submitLogin

end Console

/-! ### What shows of a console -/

open Terminal (Area Canvas)

namespace LoginPage

variable {c c' : Console}

theorem drawField_alike (h : c.Alike c') (canvas : Canvas) (field : LoginField) (area : Area) :
    drawField canvas c' field area = drawField canvas c field area := by
  obtain ⟨f, hf, rfl⟩ := h
  have hshown : (c.withLogin f).login.shown field = c.login.shown field := hf.shown field
  obtain ⟨p, -, rfl⟩ := hf
  simp only [drawField, hshown]
  rfl

theorem drawFields_alike (h : c.Alike c') (canvas : Canvas) (places : List (LoginField × Area)) :
    drawFields canvas c' places = drawFields canvas c places := by
  induction places generalizing canvas with
  | nil => rfl
  | cons place rest ih => rw [drawFields, drawFields, drawField_alike h, ih]

theorem draw_alike (h : c.Alike c') (canvas : Canvas) (area : Area) :
    draw canvas c' area = draw canvas c area := by
  simp only [draw, drawFields_alike h]
  obtain ⟨_, ⟨p, -, rfl⟩, rfl⟩ := h
  rfl

end LoginPage

namespace Console

variable {c c' : Console}

/-- **Alike consoles look the same.** -/
theorem Alike.frame (h : c.Alike c') (loadTime : String) (width height : UInt16) :
    c'.frame loadTime width height = c.frame loadTime width height := by
  have hlogin := LoginPage.draw_alike h
  obtain ⟨f, -, rfl⟩ := h
  simp only [Console.frame, drawScreen, hlogin, ReportPage.draw_withLogin]
  rfl

/-- What shows of a console after a step is the same: every field of the form,
the form and the credentials in diagnostics, and the frame that is drawn. -/
structure LooksAlike (r r' : Console × Followups) : Prop where
  shown : ∀ field, r'.1.login.shown field = r.1.login.shown field
  diagnostic : r'.1.login.diagnostic = r.1.login.diagnostic
  credentials : (r'.2.effects.filterMap (·.credentials?)).map (·.diagnostic)
    = (r.2.effects.filterMap (·.credentials?)).map (·.diagnostic)
  screen : r'.1.screen = r.1.screen
  frame : ∀ loadTime width height,
    r'.1.frame loadTime width height = r.1.frame loadTime width height

theorem diagnostics_alike {xs xs' : List Session.Effect}
    (h : List.Forall₂ Session.Effect.Alike xs xs') :
    (xs'.filterMap (·.credentials?)).map (·.diagnostic)
      = (xs.filterMap (·.credentials?)).map (·.diagnostic) := by
  induction h with
  | nil => rfl
  | @cons x _ _ _ hx _ ih =>
      cases hx with
      | same => cases x <;> simp_all [Session.Effect.credentials?]
      | connect g hk => simp_all [Session.Effect.credentials?, hk.diagnostic]

theorem AlikeAfter.looksAlike {r r' : Console × Followups} (h : AlikeAfter r r') :
    LooksAlike r r' where
  shown field := by
    obtain ⟨f, hf, hr⟩ := h.console
    rw [hr]
    exact hf.shown field
  diagnostic := by
    obtain ⟨f, hf, hr⟩ := h.console
    rw [hr]
    exact hf.diagnostic
  credentials := diagnostics_alike h.followups.effects
  screen := by
    obtain ⟨f, -, hr⟩ := h.console
    rw [hr]
    rfl
  frame := h.console.frame

end Console

/-! ### Courses -/

/-- What happens to a console in its course. -/
inductive Happening
  /-- The agent's status is asked for at the start. -/
  | attach
  | act (a : Action)
  /-- So many milliseconds pass. -/
  | elapse (ms : Nat)
  /-- A frame is drawn. -/
  | draw

namespace Console

/-- The console afterwards, and what is left to do. -/
def after (c : Console) : Happening → Console × Followups
  | .attach => withEffects c.attach
  | .act a => c.handle a
  | .elapse ms => (c.editDisplay (·.elapse ms), {})
  | .draw => (c.drawn, {})

/-- The console after every step of a course, and what is left to do then. -/
def history (c : Console) : List Happening → List (Console × Followups)
  | [] => []
  | x :: xs => c.after x :: (c.after x).1.history xs

/-- From a console on, the same happens, but for what is typed while the
password is in focus. -/
inductive SameButPassword : Console → List Happening → List Happening → Prop
  | nil (c : Console) : SameButPassword c [] []
  | same {c : Console} (x : Happening) {xs xs' : List Happening} :
      SameButPassword (c.after x).1 xs xs' → SameButPassword c (x :: xs) (x :: xs')
  | typed {c : Console} (x y : Char) {xs xs' : List Happening} :
      c.login.focus = .password → SameButPassword (c.after (.act (.typeLogin x))).1 xs xs' →
      SameButPassword c (.act (.typeLogin x) :: xs) (.act (.typeLogin y) :: xs')

variable {c c' : Console}

theorem Alike.after (h : c.Alike c') (x : Happening) : AlikeAfter (c.after x) (c'.after x) := by
  cases x with
  | attach =>
      obtain ⟨f, hf, rfl⟩ := h
      exact ⟨⟨f, hf, rfl⟩, .refl _⟩
  | act a => exact h.handle a
  | elapse ms => exact ⟨h.map (·.editDisplay (·.elapse ms)) fun _ => rfl, .refl {}⟩
  | draw => exact ⟨h.map drawn fun _ => rfl, .refl {}⟩

/-- **A run keeps what is alike alike.** -/
theorem Alike.history (h : c.Alike c') {xs xs' : List Happening} (hx : SameButPassword c xs xs') :
    List.Forall₂ AlikeAfter (c.history xs) (c'.history xs') := by
  induction hx generalizing c' with
  | nil => exact .nil
  | same x _ ih =>
      have hstep := h.after x
      exact .cons hstep (ih hstep.console)
  | typed x y hf _ ih =>
      have hstep := h.typeLogin (x := x) (y := y) (.inr hf)
      exact .cons hstep (ih hstep.console)

/-- **The password stays out of sight.**  After every step of two courses that
differ in what is typed into the password, the consoles are the same but for
the text of the password, which is of the same length; the same is left to do,
but for the password in the credentials; and what shows is the same. -/
theorem password_unseen (c : Console) {xs xs' : List Happening} (h : SameButPassword c xs xs') :
    List.Forall₂ (fun r r' => AlikeAfter r r' ∧ LooksAlike r r') (c.history xs) (c.history xs') :=
  ((Alike.refl c).history h).imp fun _ _ hr => ⟨hr, hr.looksAlike⟩

/-- Two passwords of one character are typed and sent: each goes out in the
credentials, and nothing else tells them apart. -/
theorem sent_password_unseen :
    let course := fun password : Char => [Happening.act (.typeLogin 'h'), .act (.typeLogin 't'),
      .act (.typeLogin 't'), .act (.typeLogin 'p'), .act (.typeLogin ':'), .act (.typeLogin '/'),
      .act (.typeLogin '/'), .act (.typeLogin 'h'), .act .nextField, .act (.typeLogin 'u'),
      .act .nextField, .act (.typeLogin password), .act .submitLogin]
    let run := fun password => (start {}).history (course password)
    SameButPassword (start {}) (course 'x') (course 'y') ∧
      List.Forall₂ (fun r r' => AlikeAfter r r' ∧ LooksAlike r r') (run 'x') (run 'y') ∧
      ((run 'x').flatMap (·.2.effects)) = [.connect ⟨1⟩ ⟨"http://h", "u", "x"⟩] ∧
      ((run 'y').flatMap (·.2.effects)) = [.connect ⟨1⟩ ⟨"http://h", "u", "y"⟩] := by
  intro course run
  have hcourse : SameButPassword (start {}) (course 'x') (course 'y') :=
    .same _ <| .same _ <| .same _ <| .same _ <| .same _ <| .same _ <| .same _ <| .same _ <|
      .same _ <| .same _ <| .same _ <| .typed 'x' 'y' (by decide +kernel) <| .same _ <| .nil _
  exact ⟨hcourse, password_unseen _ hcourse, by decide +kernel, by decide +kernel⟩

end Console

end VmAssessment
