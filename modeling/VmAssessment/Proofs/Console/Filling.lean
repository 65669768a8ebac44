/-
VmAssessment/Proofs/Console/Filling.lean

The login form between the keyboard and the agent.  What an action makes of the
form is said once, beside the console (`LoginForm.after`, `login_handle`), and
which credentials may be sent is said without the order in which they are
checked (`Credentials.Admissible`, `credentials_eq_ok_iff`).

What is typed is what is sent: the keys of two lines and a password, with the
tabulator between them, leave those texts in the form, character for character
(`AtForm.fills_filling`), and the enter key sends them if they are admissible
(`sent_as_typed`).  Nothing else starts a collection.
-/
import VmAssessment.Proofs.Client.Addresses
import VmAssessment.Proofs.Console.Dismissing
import VmAssessment.Proofs.Session.Turn

namespace VmAssessment

/-! ### Credentials that may be sent -/

/-- The URL names a host that is reached over the web, and neither the user name
nor the password is missing. -/
structure Credentials.Admissible (k : Credentials) : Prop where
  url : ∃ u, Url.parse k.url = .ok u ∧ Client.IsWeb u.scheme ∧ u.hostText?.isSome = true
  username : k.username ≠ ""
  password : k.password ≠ ""

namespace LoginForm

variable {f : LoginForm} {k : Credentials}

/-- What the form holds, blanks around URL and user name dropped. -/
def trimmed (f : LoginForm) : Credentials := ⟨Text.trim f.url, Text.trim f.username, f.password⟩

theorem urlFault?_eq_none_iff {url : String} : urlFault? url = none ↔
    ∃ u, Url.parse url = .ok u ∧ Client.IsWeb u.scheme ∧ u.hostText?.isSome = true := by
  unfold urlFault?
  cases Url.parse url with
  | error fault => simp
  | ok u =>
      by_cases hweb : Client.IsWeb u.scheme
      · have hscheme : (u.scheme == "http" || u.scheme == "https") = true := by
          simpa [Client.IsWeb] using hweb
        cases hhost : u.hostText? <;> simp [hscheme, hweb, hhost]
      · have hscheme : (u.scheme == "http" || u.scheme == "https") = false := by
          simpa [Client.IsWeb] using hweb
        simp [hscheme, hweb]

/-- A URL has a scheme, so the empty text is none. -/
theorem urlFault?_empty : urlFault? "" ≠ none := by decide +kernel

/-- **The checks of the form.**  The order in which they are made decides which
fault is told, not whether there is one. -/
theorem credentials_eq_ok_iff : f.credentials = .ok k ↔ k = f.trimmed ∧ k.Admissible := by
  have hadmissible : f.trimmed.Admissible ↔ urlFault? (Text.trim f.url) = none ∧
      Text.trim f.username ≠ "" ∧ f.password ≠ "" := by
    rw [urlFault?_eq_none_iff]
    exact ⟨fun h => ⟨h.url, h.username, h.password⟩, fun ⟨hu, hn, hp⟩ => ⟨hu, hn, hp⟩⟩
  have hchecks : f.credentials = .ok k ↔ k = f.trimmed ∧ f.trimmed.Admissible := by
    rw [hadmissible]
    simp only [credentials, String.isEmpty_iff]
    split
    · -- an empty URL is not told from a blank one, and is none
      rename_i hblank
      simp [hblank, urlFault?_empty]
    · cases hurl : urlFault? (Text.trim f.url) with
      | some fault => simp
      | none =>
          by_cases hn : Text.trim f.username = ""
          · simp [hn]
          · by_cases hp : f.password = ""
            · simp [hn, hp]
            · simp [hn, hp, trimmed, eq_comm]
  rw [hchecks]
  exact and_congr_right fun hk => by rw [hk]

/-! ### What becomes of the form -/

/-- The form after an action.  A form that is sent gives up its password, unless
a collection is in flight and the session refuses to start another. -/
def after (f : LoginForm) (active : Bool) : Action → LoginForm
  | .typeLogin ch => f.insert ch
  | .deleteLogin => f.delete.1
  | .nextField => f.focusNext
  | .prevField => f.focusPrev
  | .submitLogin => if f.credentials.isOk && !active then f.submit.1.clearPassword else f.submit.1
  | _ => f

/-! ### Texts that are typed -/

/-- A text is typed into the focused field. -/
def type (f : LoginForm) (text : String) : LoginForm := text.toList.foldl insert f

@[simp] theorem setValue_value (f : LoginForm) (x : LoginField) : f.setValue x (f.value x) = f := by
  cases x <;> rfl

@[simp] theorem value_setValue (f : LoginForm) (x : LoginField) (text : String) :
    (f.setValue x text).value x = text := by
  cases x <;> rfl

@[simp] theorem setValue_setValue (f : LoginForm) (x : LoginField) (text text' : String) :
    (f.setValue x text).setValue x text' = f.setValue x text' := by
  cases x <;> rfl

@[simp] theorem focus_setValue (f : LoginForm) (x : LoginField) (text : String) :
    (f.setValue x text).focus = f.focus := by
  cases x <;> rfl

@[simp] theorem validation_setValue (f : LoginForm) (x : LoginField) (text : String) :
    (f.setValue x text).validation = f.validation := by
  cases x <;> rfl

theorem insert_eq (h : f.validation = none) (ch : Char) :
    f.insert ch = f.setValue f.focus ((f.value f.focus).push ch) := by
  have hsame : { f.setValue f.focus ((f.value f.focus).push ch) with validation := f.validation }
      = f.setValue f.focus ((f.value f.focus).push ch) := by
    cases f.focus <;> rfl
  rw [insert, ← hsame, h]

/-- **A text that is typed ends up in the field**, after what was there. -/
theorem type_eq (h : f.validation = none) (text : String) :
    f.type text = f.setValue f.focus (f.value f.focus ++ text) := by
  have hchars : ∀ (cs : List Char) (f : LoginForm), f.validation = none → cs.foldl insert f
      = f.setValue f.focus (f.value f.focus ++ String.ofList cs) := by
    intro cs
    induction cs with
    | nil =>
        intro f _
        simp
    | cons ch cs ih =>
        intro f hf
        have htext : (f.value f.focus).push ch ++ String.ofList cs
            = f.value f.focus ++ String.ofList (ch :: cs) := by
          rw [String.ofList_cons, String.push_eq_append, String.append_assoc]
        -- the first character goes into the field that the others go into
        rw [List.foldl_cons, insert_eq hf, ih _ (by simpa using hf)]
        simp [htext]
  rw [type, hchars _ f h, String.ofList_toList]

end LoginForm

namespace Session

variable {s : Session}

theorem step_start (s : Session) (k : Credentials) : s.step (.start k) = s.start k :=
  step_of_current rfl

/-- The session asks for a connection at nothing but the command to start. -/
theorem start_of_connect {e : Event} {g : Generation} {k : Credentials}
    (h : .connect g k ∈ (s.step e).effects) : e = .start k := by
  cases hc : e.isCommand with
  | false =>
      -- what is no command tells the agent none
      have hnone := ((turn_step s e).stays hc).2 _ h
      cases hnone
  | true =>
      cases e with
      | start k' =>
          rw [step_start] at h
          cases hactive : s.phase.isActive with
          | true => simp [start_of_active hactive, unchanged] at h
          | false =>
              rw [start_of_inactive hactive] at h
              obtain ⟨-, rfl⟩ : g = s.generation.next ∧ k = k' := by simpa using h
              rfl
      | stop =>
          have hstep : s.step .stop = s.stop := step_of_current rfl
          rw [hstep, stop] at h
          split at h
          · cases h
          · simp at h
      | _ => cases hc

end Session

/-! ### The keys that fill the form in -/

/-- The key of a character, with nothing held down beside it. -/
def Key.ofChar (ch : Char) : Key := { code := .char ch }

theorem Key.onLogin_ofChar (ch : Char) : (Key.ofChar ch).onLogin = .typeLogin ch := by
  simp [ofChar, onLogin]

namespace KeyContext

variable {x : KeyContext} {k : Key}

theorem keyAction_of_help (ho : x.overlay = .help) (hk : ¬(k.ctrl = true ∧ k.code = .char 'c')) :
    x.keyAction k = k.onHelp := by
  rw [keyAction, if_neg hk, ho]

theorem keyAction_of_login (hs : x.screen = .login) (ho : x.overlay ≠ .help)
    (hk : ¬(k.ctrl = true ∧ k.code = .char 'c')) : x.keyAction k = k.onLogin := by
  rw [keyAction, if_neg hk, hs]
  cases hoverlay : x.overlay with
  | help => exact absurd hoverlay ho
  | _ => rfl

end KeyContext

namespace TerminalEvent

/-- A text is typed. -/
def typing (text : String) : List TerminalEvent := text.toList.map fun ch => .pressed (.ofChar ch)

/-- The tabulator is pressed. -/
def tab : TerminalEvent := .pressed { code := .tab }

/-- The enter key is pressed. -/
def enter : TerminalEvent := .pressed { code := .enter }

/-- The form is filled in, from top to bottom. -/
def filling (url username password : String) : List TerminalEvent :=
  typing url ++ [tab] ++ typing username ++ [tab] ++ typing password

end TerminalEvent

namespace Console

open TerminalEvent (enter filling tab typing)

variable {c : Console} {f f' : LoginForm} {es es' : List TerminalEvent}

/-! ### The form of the console -/

theorem login_submitLogin (c : Console) :
    c.submitLogin.1.login = c.login.after c.session.phase.isActive .submitLogin := by
  cases hchecks : c.login.credentials with
  | error fault =>
      simp [submitLogin, LoginForm.submit, LoginForm.after, hchecks, notify, Except.isOk,
        Except.toBool]
  | ok k =>
      cases hactive : c.session.phase.isActive with
      | true =>
          simp [submitLogin, LoginForm.submit, LoginForm.after, hchecks, Session.step_start,
            Session.start_of_active hactive, Session.unchanged, tellOutcome, notify]
      | false =>
          simp [submitLogin, LoginForm.submit, LoginForm.after, hchecks, Session.step_start,
            Session.start_of_inactive hactive, tellOutcome, notify, editLogin, Except.isOk,
            Except.toBool]

/-- **What an action makes of the form.** -/
theorem login_handle (c : Console) (a : Action) :
    (c.handle a).1.login = c.login.after c.session.phase.isActive a := by
  by_cases ha : .login ∈ a.reach
  · have hchange : ∀ c : Console,
        (c.change a).1.login = c.login.after c.session.phase.isActive a := by
      intro c
      cases Action.ofForm_of_mem_reach ha with
      | type | delete | next | prev => simp only [change, editLogin]; rfl
      | submit => simpa only [change, withEffects] using c.login_submitLogin
    obtain ⟨_, _, hdismissed⟩ := c.dismissError_eq
    rw [handle_of_login_mem_reach ha]
    refine Eq.trans (agree_refresh_marked (p := .login) _ (by decide)) ?_
    rw [hchange, hdismissed]
  · have hsame : (c.handle a).1.login = c.login :=
      c.handle_agree (p := .login) a ha (by decide)
    rw [hsame]
    cases a with
    | typeLogin | deleteLogin | nextField | prevField | submitLogin => simp [Action.reach] at ha
    | _ => rfl

/-! ### At the form -/

/-- A form is on the screen and takes the keys. -/
structure AtForm (c : Console) (f : LoginForm) : Prop where
  screen : c.screen = .login
  overlay : c.display.overlay = .none
  login : c.login = f

theorem atForm_start (table : TableSettings) : (start table).AtForm {} := ⟨rfl, rfl, rfl⟩

theorem AtForm.action (h : c.AtForm f) {k : Key} (hk : k.ctrl = false) :
    c.keyContext.action (.pressed k) = k.onLogin := by
  have ho : c.display.overlay ≠ .help := by simp [h.overlay]
  exact KeyContext.keyAction_of_login h.screen ho (by simp [hk])

/-- What happens at several events, with what each of them leaves to do. -/
def reactAll (c : Console) : List TerminalEvent → Console × List Followups
  | [] => (c, [])
  | e :: es =>
    let (c, followups) := c.react e
    let (c, more) := c.reactAll es
    (c, followups :: more)

theorem reactAll_append (c : Console) (es es' : List TerminalEvent) :
    c.reactAll (es ++ es') = (((c.reactAll es).1.reactAll es').1,
      (c.reactAll es).2 ++ ((c.reactAll es).1.reactAll es').2) := by
  induction es generalizing c with
  | nil => rfl
  | cons e es ih => simp [reactAll, ih]

/-- The keyboard leads to what it can come to. -/
theorem Operated.reactAll {table : TableSettings} (h : Operated table c)
    (es : List TerminalEvent) : Operated table (c.reactAll es).1 := by
  induction es generalizing c with
  | nil => exact h
  | cons e es ih => exact ih (h.react e)

/-- Events that put a form in place of the one there is, and do nothing else. -/
structure Fills (c : Console) (es : List TerminalEvent) (f : LoginForm) : Prop where
  atForm : (c.reactAll es).1.AtForm f
  session : (c.reactAll es).1.session = c.session
  followups : ∀ x ∈ (c.reactAll es).2, x = {}

theorem AtForm.fills_nil (h : c.AtForm f) : c.Fills [] f := ⟨h, rfl, by simp [reactAll]⟩

theorem Fills.append (h : c.Fills es f) (h' : (c.reactAll es).1.Fills es' f') :
    c.Fills (es ++ es') f' := by
  constructor
  · rw [reactAll_append]
    exact h'.atForm
  · rw [reactAll_append]
    exact h'.session.trans h.session
  · rw [reactAll_append]
    intro x hx
    exact (List.mem_append.1 hx).elim (h.followups x) (h'.followups x)

/-- An edit of the form leaves the overlay alone, and nothing to do. -/
theorem edit_inert {a : Action} (ha : a.reach = [.login]) (c : Console) :
    (c.place.after a).overlay = c.place.overlay ∧ (c.change a).2 = {} := by
  have hform : a.OfForm := Action.ofForm_of_mem_reach (by simp [ha])
  cases hform with
  | type | delete | next | prev => exact ⟨rfl, rfl⟩
  | submit => simp [Action.reach] at ha

/-- A key that edits the form does nothing else. -/
theorem AtForm.fills_key (h : c.AtForm f) {k : Key} {a : Action} (hk : k.ctrl = false)
    (hka : k.onLogin = a) (ha : a.reach = [.login]) :
    c.Fills [.pressed k] (f.after c.session.phase.isActive a) := by
  have hreact : c.react (.pressed k) = c.handle a := congrArg c.handle ((h.action hk).trans hka)
  have hall : c.reactAll [.pressed k] = ((c.handle a).1, [(c.handle a).2]) := by
    simp only [reactAll, hreact]
  have hoverlay : (c.handle a).1.display.overlay = c.display.overlay :=
    (congrArg Place.overlay (c.place_handle a)).trans (edit_inert ha c).1
  have hscreen : (c.handle a).1.screen = c.screen := screen_handle (by simp [ha]) (by simp [ha])
  have hfollowups : (c.handle a).2 = {} := by
    rw [handle_of_login_mem_reach (by simp [ha])]
    exact (edit_inert ha _).2
  constructor
  · rw [hall, ← h.login]
    exact ⟨hscreen.trans h.screen, hoverlay.trans h.overlay, c.login_handle a⟩
  · rw [hall]
    exact c.handle_agree (p := .session) a (by simp [ha]) (by decide)
  · simp [hall, hfollowups]

theorem AtForm.fills_tab (h : c.AtForm f) : c.Fills [tab] f.focusNext :=
  h.fills_key (k := { code := .tab }) rfl rfl rfl

/-- **What is typed at the form is in it**, whatever the keys mean elsewhere. -/
theorem AtForm.fills_typing (h : c.AtForm f) (text : String) :
    c.Fills (typing text) (f.type text) := by
  have hchars : ∀ (cs : List Char) {c : Console} {f : LoginForm}, c.AtForm f →
      c.Fills (cs.map fun ch => .pressed (.ofChar ch)) (cs.foldl LoginForm.insert f) := by
    intro cs
    induction cs with
    | nil => exact fun h => h.fills_nil
    | cons ch cs ih =>
        intro c f h
        have hkey : c.Fills [.pressed (.ofChar ch)] (f.insert ch) :=
          h.fills_key rfl (Key.onLogin_ofChar ch) rfl
        exact hkey.append (ih hkey.atForm)
  exact hchars _ h

theorem AtForm.fills_field (h : c.AtForm f) (hnone : f.validation = none)
    (hempty : f.value f.focus = "") (text : String) :
    c.Fills (typing text) (f.setValue f.focus text) := by
  have htext := LoginForm.type_eq hnone text
  rw [hempty, String.empty_append] at htext
  exact htext ▸ h.fills_typing text

/-- At an empty form, the keys leave in every field what was typed for it. -/
theorem AtForm.fills_filling (h : c.AtForm {}) (u n p : String) :
    c.Fills (filling u n p) { url := u, username := n, password := p, focus := .password } := by
  have hurl : c.Fills (typing u) { url := u } := h.fills_field rfl rfl u
  have hname := hurl.append hurl.atForm.fills_tab
  have hname := hname.append (hname.atForm.fills_field rfl rfl n)
  have hpassword := hname.append hname.atForm.fills_tab
  exact hpassword.append (hpassword.atForm.fills_field rfl rfl p)

/-! ### What is sent -/

/-- The enter key sends the form. -/
theorem Fills.reactAll_enter (h : c.Fills es f) : c.reactAll (es ++ [enter])
    = (((c.reactAll es).1.handle .submitLogin).1,
      (c.reactAll es).2 ++ [((c.reactAll es).1.handle .submitLogin).2]) := by
  have hreact : (c.reactAll es).1.react enter = (c.reactAll es).1.handle .submitLogin :=
    congrArg (c.reactAll es).1.handle (h.atForm.action (k := { code := .enter }) rfl)
  rw [reactAll_append]
  simp only [reactAll, hreact]

theorem Fills.effects_enter (h : c.Fills es f) :
    (c.reactAll (es ++ [enter])).2.flatMap (·.effects)
      = ((c.reactAll es).1.handle .submitLogin).2.effects := by
  have hnone : (c.reactAll es).2.flatMap (·.effects) = [] :=
    List.flatMap_eq_nil_iff.2 fun x hx => by rw [h.followups x hx]
  rw [h.reactAll_enter, List.flatMap_append, hnone]
  simp

/-- A form that is in order starts a collection, if none is in flight. -/
theorem submitLogin_of_ok {k : Credentials} (h : c.login.credentials = .ok k)
    (hi : c.session.phase.isActive = false) :
    (c.handle .submitLogin).2.effects = [.connect c.session.generation.next k] ∧
      (c.handle .submitLogin).1.login = { c.login with password := "", validation := none } := by
  constructor
  · have hevent : c.event? .submitLogin = some (.start k) := by simp [event?, h]
    rw [effects_of_event hevent, Session.step_start, Session.start_of_inactive hi]
  · rw [login_handle]
    simp [LoginForm.after, LoginForm.submit, h, hi, Except.isOk, Except.toBool,
      LoginForm.clearPassword]

/-- A form that is not in order is kept, with what is wrong with it. -/
theorem submitLogin_of_error {fault : LoginFault} (h : c.login.credentials = .error fault) :
    (c.handle .submitLogin).2.effects = [] ∧ (c.handle .submitLogin).1.session = c.session ∧
      (c.handle .submitLogin).1.login
        = { c.login with validation := some fault.toFault.message } := by
  refine ⟨?_, session_of_no_event (by simp [event?, h]), ?_⟩
  · obtain ⟨_, _, hdismissed⟩ := c.dismissError_eq
    rw [handle_of_login_mem_reach (by simp [Action.reach]), hdismissed]
    simp [change, withEffects, submitLogin, LoginForm.submit, h]
  · rw [login_handle]
    simp [LoginForm.after, LoginForm.submit, h, Except.isOk, Except.toBool]

/-- **Only sending the form starts a collection.** -/
theorem submits_of_connect {a : Action} {g : Generation} {k : Credentials}
    (h : .connect g k ∈ (c.handle a).2.effects) :
    a = .submitLogin ∧ c.login.credentials = .ok k := by
  have hs := c.handle_session a
  cases he : c.event? a with
  | none =>
      -- at most the inventory is asked for
      rw [he] at hs
      rcases hs.2 with hnone | hinventory
      · rw [hnone] at h
        cases h
      · rw [hinventory] at h
        simp at h
  | some e =>
      obtain rfl := Session.start_of_connect (effects_of_event he ▸ h)
      cases a with
      | submitLogin =>
          refine ⟨rfl, ?_⟩
          cases hchecks : c.login.credentials with
          | error fault => simp [event?, hchecks] at he
          | ok k' => simpa [event?, hchecks] using he
      | deliver d =>
          rcases d with ⟨g, fault | r⟩ | ⟨g, fault | r⟩ | ⟨g, fault | r⟩ | ⟨g, fault | r⟩ |
            ⟨g, result⟩ | fault | status <;> cases he
      | _ => cases he

/-- **What is typed is what is sent.**  From the start of the console, the keys
that fill the form in and the enter key ask for one connection, with the texts
that were typed, blanks around URL and user name dropped, if these are
admissible; the password is gone then.  If they are not, nothing is asked for,
the session is as it was, and the form keeps what was typed, with what is wrong
with it.  Whatever the console has come to, nothing but sending the form asks for
a connection, and never with other credentials. -/
theorem sent_as_typed (table : TableSettings) (u n p : String) :
    let typed : LoginForm := { url := u, username := n, password := p, focus := .password }
    let k : Credentials := ⟨Text.trim u, Text.trim n, p⟩
    let r := (start table).reactAll (filling u n p ++ [enter])
    (k.Admissible → r.2.flatMap (·.effects) = [.connect ⟨1⟩ k] ∧
        r.1.login = { typed with password := "" }) ∧
      (¬k.Admissible → r.2.flatMap (·.effects) = [] ∧ r.1.session = (start table).session ∧
        ∃ fault, typed.credentials = .error fault ∧
          r.1.login = { typed with validation := some fault.toFault.message }) ∧
      ∀ (c : Console) (a : Action) (g : Generation) (k : Credentials),
        .connect g k ∈ (c.handle a).2.effects → a = .submitLogin ∧ k = c.login.trimmed ∧
          k.Admissible := by
  intro typed k r
  have hfills := (atForm_start table).fills_filling u n p
  have hlogin : ((start table).reactAll (filling u n p)).1.login = typed := hfills.atForm.login
  have hsession := hfills.session
  have heffects : r.2.flatMap (·.effects) = _ := hfills.effects_enter
  have hr : r.1 = _ := congrArg Prod.fst hfills.reactAll_enter
  rw [heffects, hr]
  refine ⟨fun hk => ?_, fun hk => ?_, fun c a g k h => ?_⟩
  · have hok : typed.credentials = .ok k := LoginForm.credentials_eq_ok_iff.2 ⟨rfl, hk⟩
    rw [← hlogin] at hok
    obtain ⟨hsent, hcleared⟩ := submitLogin_of_ok hok (by rw [hsession]; rfl)
    rw [hsent, hcleared, hlogin, hsession]
    exact ⟨rfl, rfl⟩
  · cases hchecks : typed.credentials with
    | ok k' =>
        obtain ⟨rfl, hk'⟩ := LoginForm.credentials_eq_ok_iff.1 hchecks
        exact absurd hk' hk
    | error fault =>
        rw [← hlogin] at hchecks
        obtain ⟨hnone, hsame, hkept⟩ := submitLogin_of_error hchecks
        refine ⟨hnone, hsame.trans hsession, fault, rfl, ?_⟩
        rw [hkept, hlogin]
  · obtain ⟨ha, hok⟩ := submits_of_connect h
    exact ⟨ha, LoginForm.credentials_eq_ok_iff.1 hok⟩

/-- Blanks before the URL and after the user name are not sent, and stay in the form. -/
theorem sent_without_blanks :
    let k : Credentials := ⟨"http://h", "u", "p"⟩
    let r := (start {}).reactAll (filling " http://h" "u " "p" ++ [enter])
    k.Admissible ∧ r.2.flatMap (·.effects) = [.connect ⟨1⟩ k] ∧
      r.1.login = { url := " http://h", username := "u ", focus := .password } := by
  intro k r
  have hurl : Text.trim " http://h" = "http://h" := by decide +kernel
  have hname : Text.trim "u " = "u" := by decide +kernel
  have hk : k.Admissible :=
    ⟨LoginForm.urlFault?_eq_none_iff.1 (by decide +kernel), by decide, by decide⟩
  have hsent := (sent_as_typed {} " http://h" "u " "p").1
  rw [hurl, hname] at hsent
  exact ⟨hk, hsent hk⟩

end Console

end VmAssessment
