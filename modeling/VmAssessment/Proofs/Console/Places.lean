/-
VmAssessment/Proofs/Console/Places.lean

Where the open overlay stands.  Some forty actions can meet an open overlay,
and what becomes of it and of the line under its cursor is a function of the
two and of the action (`Place.after`); nothing else in the console is looked at
(`place_handle`).  Six actions move it.  The answers of the agent are not among
them, whatever they do to the screen below.
-/
import VmAssessment.Proofs.Console.Shown

namespace VmAssessment

/-- The open overlay, and the line under its cursor. -/
structure Place where
  overlay : Overlay
  line : Nat
deriving DecidableEq, Repr

/-- The place after an action. -/
def Place.after (p : Place) : Action → Place
  | .toggleHelp => if p.overlay = .help then { p with overlay := .none } else ⟨.help, 0⟩
  | .openOverlay overlay => ⟨overlay, 0⟩
  | .closeOverlay => { p with overlay := .none }
  | .menuUp => { p with line := p.line - 1 }
  | .menuDown => if p.line + 1 < p.overlay.menuLength then { p with line := p.line + 1 } else p
  | .menuSelect =>
    if p.overlay = .sortMenu ∨ p.overlay = .exportMenu then { p with overlay := .none } else p
  | _ => p

/-- Only what reaches the overlay or the line moves a place. -/
theorem Place.after_of_unreached {a : Action} (ho : .overlay ∉ a.reach) (hl : .line ∉ a.reach)
    (p : Place) : p.after a = p := by
  cases a with
  | toggleHelp | openOverlay | closeOverlay | menuSelect => simp [Action.reach] at ho
  | menuUp | menuDown => simp [Action.reach] at hl
  | _ => rfl

/-- Such an action is the user's. -/
theorem Action.isUsers_of_reached {a : Action} (ha : .overlay ∈ a.reach ∨ .line ∈ a.reach) :
    a.isUsers = true ∧ a ≠ .quit := by
  cases a with
  | toggleHelp | openOverlay | closeOverlay | menuUp | menuDown | menuSelect => simp [isUsers]
  | deliver d => cases d <;> simp [reach] at ha
  | _ => simp [reach] at ha

/-! ### What becomes of the place -/

namespace Display

variable (d : Display)

/-- Where the display's overlay stands. -/
def place : Place := ⟨d.overlay, d.menuCursor⟩

theorem place_menuUp : d.menuUp.place = d.place.after .menuUp := by
  unfold menuUp
  split
  · rfl
  · have hzero : d.menuCursor - 1 = d.menuCursor := by omega
    simp [Place.after, place, hzero]

theorem place_menuDown : d.menuDown.place = d.place.after .menuDown := by
  by_cases h : d.menuCursor + 1 < d.overlay.menuLength <;>
    simp [menuDown, Place.after, place, h, requestRedraw]

end Display

namespace Console

section Places

variable (c : Console)

/-- Where the console's overlay stands. -/
def place : Place := c.display.place

variable {c} in
theorem place_of_agree {c' : Console} (ho : c.Agree c' .overlay) (hl : c.Agree c' .line) :
    c'.place = c.place := congrArg₂ Place.mk ho hl

theorem place_toggleHelp : c.toggleHelp.place = c.place.after .toggleHelp := by
  by_cases h : c.display.overlay = .help <;>
    simp [toggleHelp, editDisplay, place, Display.place, Place.after, h, Display.openOverlay,
      Display.closeOverlay, Display.requestRedraw]

theorem place_menuSelect : c.menuSelect.place = c.place.after .menuSelect := by
  simp only [menuSelect, place, Place.after, Display.place]
  split <;> rename_i ho
  · split <;> simp [ho, editQuery, homeCursor]
  · split <;> simp [ho, editDisplay, Display.closeOverlay, Display.requestRedraw]
  · split
    · simp only [exportReport]
      split <;> simp [ho, editDisplay, Display.closeOverlay, Display.requestRedraw, notify,
        Display.notify]
    · simp [ho, editDisplay, Display.closeOverlay, Display.requestRedraw]
  · simp [ho]
  · simp [ho]

/-- What an action that reaches the place does to it. -/
theorem place_change {a : Action} (ha : .overlay ∈ a.reach ∨ .line ∈ a.reach) :
    (c.change a).1.place = c.place.after a := by
  cases a with
  | toggleHelp => exact c.place_toggleHelp
  | openOverlay overlay => rfl
  | closeOverlay => rfl
  | menuUp => exact c.display.place_menuUp
  | menuDown => exact c.display.place_menuDown
  | menuSelect => exact c.place_menuSelect
  | deliver d => cases d <;> simp [Action.reach] at ha
  | _ => simp [Action.reach] at ha

/-- **What becomes of the overlay at an action.** -/
theorem place_handle (a : Action) : (c.handle a).1.place = c.place.after a := by
  by_cases ha : .overlay ∈ a.reach ∨ .line ∈ a.reach
  · obtain ⟨hu, hq⟩ := Action.isUsers_of_reached ha
    have hdismissed : c.dismissError.place = c.place :=
      c.sameBut_dismissError.same (g := place) fun _ => rfl
    rw [← hdismissed, ← place_change _ ha]
    exact place_of_agree (agree_handle_of_users hu hq c (by decide))
      (agree_handle_of_users hu hq c (by decide))
  · obtain ⟨ho, hl⟩ := not_or.1 ha
    rw [Place.after_of_unreached ho hl]
    exact place_of_agree (c.handle_agree a ho (by decide)) (c.handle_agree a hl (by decide))

end Places

end Console

end VmAssessment
