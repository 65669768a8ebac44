/-
VmAssessment/Proofs/Console/Dismissing.lean

How an overlay is got rid of.  The escape key closes it wherever the key means
`closeOverlay`, and nothing else happens then.  It does not mean that
everywhere: on the login screen the keys of the form come before those of a
menu, so that a menu which lies over the login screen is stranded there.

No key strands a menu.  Menus are opened on the report only, and while one is
open no key takes the report away (`not_stranded_react`).  An answer that comes
in can do it: it may move the session out of the collected phase, and the menu
stays open.  The menu is then still drawn, with its hint that escape closes it,
and escape stops the collection instead (`menu_outlives_report`).
-/
import VmAssessment.Console.Key
import VmAssessment.Proofs.Console.Places
import VmAssessment.Proofs.Console.Selecting

namespace VmAssessment

/-- The escape key, with nothing held down beside it. -/
def Key.escape : Key := { code := .esc }

/-- The overlays with lines to choose from. -/
def Overlay.isMenu : Overlay → Bool
  | .filterMenu | .exportMenu | .sortMenu => true
  | .none | .help => false

/-- Where no overlay is open, a menu comes from nothing but its opening. -/
theorem Place.openOverlay_of_isMenu {line : Nat} {a : Action}
    (h : (Place.after ⟨.none, line⟩ a).overlay.isMenu = true) :
    ∃ overlay, a = .openOverlay overlay := by
  cases a with
  | openOverlay overlay => exact ⟨overlay, rfl⟩
  | menuDown => simp [after, Overlay.menuLength, Overlay.isMenu] at h
  | _ => simp [after, Overlay.isMenu] at h

/-! ### What keys mean -/

namespace KeyContext

variable {x : KeyContext}

/-- Which keys are looked up. -/
theorem keyAction_cases (x : KeyContext) (k : Key) :
    x.keyAction k = .quit ∨
      (x.overlay = .help ∧ x.keyAction k = k.onHelp) ∨
      (x.overlay ≠ .help ∧ x.screen = .login ∧ x.keyAction k = k.onLogin) ∨
      (x.overlay = .none ∧ x.screen = .report ∧ x.mode = .search ∧ x.keyAction k = k.onSearch) ∨
      (x.overlay = .none ∧ x.screen = .report ∧ x.mode = .browse ∧ x.keyAction k = k.onReport) ∨
      (x.overlay.isMenu = true ∧ x.screen = .report ∧ x.keyAction k = k.onMenu) := by
  obtain ⟨screen, mode, overlay⟩ := x
  by_cases hq : k.ctrl = true ∧ k.code = .char 'c'
  · exact .inl (if_pos hq)
  · right
    simp only [keyAction, if_neg hq]
    cases overlay <;> cases screen <;> cases mode <;> simp [Overlay.isMenu]

/-- While an overlay is open, escape closes it, but for a menu over the login
screen. -/
theorem action_escape (ho : x.overlay ≠ .none) : x.action (.pressed .escape)
    = if x.overlay.isMenu = true ∧ x.screen = .login then .stopCollection else .closeOverlay := by
  obtain ⟨screen, mode, overlay⟩ := x
  cases overlay <;> first | exact absurd rfl ho | cases screen <;> cases mode <;> rfl

/-- No key opens a menu on the login screen or takes the report away from under
one. -/
theorem keeps_report (hx : x.overlay.isMenu = true → x.screen = .report) (line : Nat)
    (e : TerminalEvent) (h : (Place.after ⟨x.overlay, line⟩ (x.action e)).overlay.isMenu = true) :
    x.screen = .report ∧ .session ∉ (x.action e).reach ∧ .inventory ∉ (x.action e).reach := by
  cases e with
  | pressed k =>
      simp only [action] at h ⊢
      rcases x.keyAction_cases k with hk | ⟨ho, hk⟩ | ⟨hhelp, hs, hk⟩ | ⟨ho, hs, -, hk⟩ |
        ⟨ho, hs, -, hk⟩ | ⟨ho, hs, hk⟩ <;> rw [hk] at h ⊢
      · exact ⟨hx h, by simp [Action.reach], by simp [Action.reach]⟩
      · -- the help page is no menu, and no key of its makes it one
        rw [ho] at h
        unfold Key.onHelp at h
        split at h <;> cases h
      · have ho : x.overlay = .none := by
          cases hoverlay : x.overlay <;> simp_all [Overlay.isMenu]
        obtain ⟨overlay, hopen⟩ := Place.openOverlay_of_isMenu (ho ▸ h)
        unfold Key.onLogin at hopen
        split at hopen
        all_goals first | cases hopen | split at hopen <;> cases hopen
      · obtain ⟨overlay, hopen⟩ := Place.openOverlay_of_isMenu (ho ▸ h)
        exact ⟨hs, by simp [hopen, Action.reach], by simp [hopen, Action.reach]⟩
      · obtain ⟨overlay, hopen⟩ := Place.openOverlay_of_isMenu (ho ▸ h)
        exact ⟨hs, by simp [hopen, Action.reach], by simp [hopen, Action.reach]⟩
      · refine ⟨hs, ?_⟩
        unfold Key.onMenu
        split <;> simp [Action.reach]
  | resized | released | pasted | focused =>
      exact ⟨hx h, by simp [action, Action.reach], by simp [action, Action.reach]⟩

end KeyContext

namespace Console

variable {c : Console}

/-- What happens at an event of the terminal. -/
def react (c : Console) (e : TerminalEvent) : Console × Followups :=
  c.handle (c.keyContext.action e)

/-! ### Stranded menus -/

/-- A menu lies over the login screen. -/
def Stranded (c : Console) : Prop := c.display.overlay.isMenu = true ∧ c.screen = .login

/-- At a stranded menu, escape is the key that stops the collection. -/
theorem Stranded.action_escape (h : c.Stranded) :
    c.keyContext.action (.pressed .escape) = .stopCollection := by
  have ho : c.keyContext.overlay ≠ .none := fun ho => by
    have hmenu : c.keyContext.overlay.isMenu = true := h.1
    rw [ho] at hmenu
    cases hmenu
  exact (KeyContext.action_escape ho).trans (if_pos h)

/-- The screen is a matter of the session and of the inventory. -/
theorem screen_congr {c' : Console} (hsession : c'.session = c.session)
    (hinventory : c'.inventory = c.inventory) : c'.screen = c.screen := by
  rw [screen, screen, hsession, hinventory]

theorem screen_handle {a : Action} (hs : .session ∉ a.reach) (hi : .inventory ∉ a.reach) :
    (c.handle a).1.screen = c.screen :=
  screen_congr (c.handle_agree (p := .session) a hs (by decide))
    (c.handle_agree (p := .inventory) a hi (by decide))

/-- **No key strands a menu.** -/
theorem not_stranded_react (h : ¬c.Stranded) (e : TerminalEvent) : ¬(c.react e).1.Stranded := by
  intro ⟨hmenu, hlogin⟩
  have hreport : c.keyContext.overlay.isMenu = true → c.keyContext.screen = .report := fun ho => by
    cases hs : c.screen with
    | report => exact hs
    | login => exact absurd ⟨ho, hs⟩ h
  have hplace : (c.react e).1.place = c.place.after (c.keyContext.action e) := c.place_handle _
  obtain ⟨hs, hsession, hinventory⟩ :=
    KeyContext.keeps_report hreport c.display.menuCursor e (hplace ▸ hmenu)
  have hsame : (c.react e).1.screen = c.screen := screen_handle hsession hinventory
  rw [hsame] at hlogin
  exact absurd (hs.symm.trans hlogin) (by simp)

/-- Closing the overlay changes nothing else. -/
theorem Shown.closeOverlay (h : c.Shown) :
    (c.handle .closeOverlay).1.display.overlay = .none ∧
      (c.handle .closeOverlay).1.session = c.session ∧
      (c.handle .closeOverlay).1.query = c.query ∧
      (c.handle .closeOverlay).1.selection = c.selection ∧
      (c.handle .closeOverlay).1.login = c.login ∧ (c.handle .closeOverlay).2 = {} := by
  refine ⟨congrArg Place.overlay (c.place_handle .closeOverlay), ?_, ?_, ?_, ?_, ?_⟩
  · exact c.handle_agree (p := .session) .closeOverlay (by decide) (by decide)
  · exact (h.same_page_handle (by simp [Action.reach]) (by simp [Action.reach])).1
  · exact c.handle_agree (p := .selection) .closeOverlay (by decide) (by decide)
  · exact c.handle_agree (p := .login) .closeOverlay (by decide) (by decide)
  · rw [handle_of_users rfl (by simp)]
    rfl

/-! ### Consoles that are reached -/

/-- What the console can come to at the keyboard, with answers of any kind in
between. -/
inductive Operated (table : TableSettings) : Console → Prop
  | start : Operated table (.start table)
  | react {c : Console} (e : TerminalEvent) : Operated table c → Operated table (c.react e).1
  | deliver {c : Console} (d : Delivery) :
      Operated table c → Operated table (c.handle (.deliver d)).1

theorem Operated.reached {table : TableSettings} (h : Operated table c) : Reached table c := by
  induction h with
  | start => exact .start
  | react e _ ih => exact ih.handle _
  | deliver d _ ih => exact ih.handle _

/-- **Escape closes an overlay unless it is stranded.**  The overlay is closed
then, and session, query, selection and login form are as they were.  At a menu
that lies over the login screen, escape is the key that stops the collection,
and the menu stays.  No event of the terminal brings that about. -/
theorem Reached.escape_closes_unless_stranded {table : TableSettings} (h : Reached table c)
    (ho : c.display.overlay ≠ .none) :
    let a := c.keyContext.action (.pressed .escape)
    let r := c.react (.pressed .escape)
    (¬c.Stranded → a = .closeOverlay ∧ r.1.display.overlay = .none ∧ r.1.session = c.session ∧
        r.1.query = c.query ∧ r.1.selection = c.selection ∧ r.1.login = c.login ∧ r.2 = {}) ∧
      (c.Stranded → a = .stopCollection ∧ r.1.display.overlay = c.display.overlay) ∧
      (¬c.Stranded → ∀ e, ¬(c.react e).1.Stranded) := by
  intro a r
  refine ⟨fun hstranded => ?_, fun hstranded => ?_, not_stranded_react⟩
  · have ha : a = .closeOverlay :=
      (KeyContext.action_escape (x := c.keyContext) ho).trans (if_neg hstranded)
    have hr : r = c.handle .closeOverlay := congrArg c.handle ha
    rw [hr]
    exact ⟨ha, h.shown.closeOverlay⟩
  · have ha : a = .stopCollection := hstranded.action_escape
    have hr : r = c.handle .stopCollection := congrArg c.handle ha
    rw [hr]
    exact ⟨ha, congrArg Place.overlay (c.place_handle .stopCollection)⟩

/-- On an empty report the menu to sort by is opened, and escape closes it. -/
theorem Reached.sort_menu_closed :
    let report := ((Console.start {}).handle
      (.deliver (.synced {} (.ok { phase := .collected })))).1
    let stocked := (report.handle (.deliver (.inventory {} (.ok [])))).1
    let c := (stocked.react (.pressed { code := .char 's' })).1
    let r := c.react (.pressed .escape)
    Reached {} c ∧ c.display.overlay = .sortMenu ∧ c.screen = .report ∧
      c.keyContext.action (.pressed .escape) = .closeOverlay ∧ r.1.display.overlay = .none ∧
      r.1.session = c.session ∧ r.1.query = c.query ∧ r.1.selection = c.selection ∧
      r.1.login = c.login ∧ r.2 = {} := by
  intro report stocked c r
  have hreached : Reached {} c := ((Reached.start.handle _).handle _).handle _
  have hmenu : c.display.overlay = .sortMenu := by decide +kernel
  have hscreen : c.screen = .report := by decide +kernel
  have hcloses := hreached.escape_closes_unless_stranded (by rw [hmenu]; simp)
  have hstranded : ¬c.Stranded := fun h => absurd (hscreen.symm.trans h.2) (by simp)
  exact ⟨hreached, hmenu, hscreen, hcloses.1 hstranded⟩

/-- **A menu outlives the report it was opened on.**  While two questions for
the status are open, the report is shown and its menu of filters is opened; the
second answer takes the report away.  Escape then does not close the menu but
stops the collection. -/
theorem menu_outlives_report :
    let refresh : TerminalEvent := .pressed { code := .function 5 }
    let asked := (((Console.start {}).react refresh).1.react refresh).1
    let report := (asked.handle (.deliver (.synced {} (.ok { phase := .collected })))).1
    let stocked := (report.handle (.deliver (.inventory {} (.ok [])))).1
    let opened := (stocked.react (.pressed { code := .char 'f' })).1
    let c := (opened.handle (.deliver (.synced {} (.ok { phase := .collecting })))).1
    let r := c.react (.pressed .escape)
    Operated {} c ∧ c.display.overlay = .filterMenu ∧ c.screen = .login ∧
      c.keyContext.action (.pressed .escape) = .stopCollection ∧
      r.1.display.overlay = .filterMenu ∧ r.1.session.phase ≠ c.session.phase ∧
      r.2.effects = [.stopPolling, .disconnect r.1.session.generation] := by
  intro refresh asked report stocked opened c r
  have hoperated : Operated {} c :=
    .deliver _ (.react _ (.deliver _ (.deliver _ (.react _ (.react _ .start)))))
  have hstranded : c.Stranded := by unfold Stranded; decide +kernel
  exact ⟨hoperated, by decide +kernel, hstranded.2, hstranded.action_escape, by decide +kernel,
    by decide +kernel, by decide +kernel⟩

end Console

end VmAssessment
