/-
VmAssessment/Proofs/Console/Formless.lean

What does not depend on the login form.  An action that leaves the form alone
(`Action.reach`) does not look at it either: with another form in its place
(`withLogin`), the same becomes of the rest of the console, and the same is
left to do (`handle_withLogin`).  Nor does the report look at it when it is
drawn.

What an action makes of the console was said together with what it reaches
(`change_confined`).  Here it is put beside what the action leaves to do, and
the rows are brought up to date.
-/
import VmAssessment.Proofs.Console.Shown

namespace VmAssessment

namespace Console

variable {a : Action}

theorem withLogin_refresh (c : Console) (f : LoginForm) :
    (c.withLogin f).refresh.1 = c.refresh.1.withLogin f := by
  rw [refresh_eq, refresh_eq]
  rfl

/-- What is left to do is a matter of the form for its sending only. -/
theorem followups_withLogin (ha : .login ∉ a.reach) (c : Console) (f : LoginForm) :
    ((c.withLogin f).change a).2 = (c.change a).2 := by
  cases a with
  | submitLogin => simp [Action.reach] at ha
  | reloadInventory =>
      have hsession : (c.withLogin f).session = c.session := rfl
      simp only [change, withEffects, reloadInventory, hsession]
      split <;> rfl
  | deliver d =>
      rcases d with ⟨g, fault | r⟩ | ⟨g, fault | r⟩ | ⟨g, fault | r⟩ | ⟨g, fault | r⟩ |
        ⟨g, result⟩ | fault | status <;> rfl
  | _ => rfl

theorem change_withLogin (ha : .login ∉ a.reach) (c : Console) (f : LoginForm) :
    (c.withLogin f).change a = ((c.change a).1.withLogin f, (c.change a).2) :=
  Prod.ext ((change_confined ha).withLogin ha c f) (followups_withLogin ha c f)

/-- **An action that does not reach the login form does not look at it.** -/
theorem handle_withLogin (ha : .login ∉ a.reach) (c : Console) (f : LoginForm) :
    (c.withLogin f).handle a = ((c.handle a).1.withLogin f, (c.handle a).2) := by
  have hdismissed : (if a.isUsers then (c.withLogin f).dismissError else c.withLogin f)
      = (if a.isUsers then c.dismissError else c).withLogin f := by
    rw [confined_dismissError.withLogin (by decide)]
    exact (apply_ite (withLogin · f) _ _ _).symm
  simp only [handle, hdismissed]
  split
  · rfl
  · rfl
  · rfl
  · simp only [change_withLogin ha, withLogin_refresh]
    rfl

end Console

/-! ### The report as it is drawn -/

open Terminal (Area Canvas)

namespace ReportPage

variable (canvas : Canvas) (c : Console) (f : LoginForm)

theorem drawRows_withLogin (area : Area) (cursor i : Nat) (page : List Vm) :
    drawRows canvas (c.withLogin f) area cursor i page = drawRows canvas c area cursor i page := by
  induction page generalizing canvas i with
  | nil => rfl
  | cons vm rest ih => exact ih _ _

theorem drawTable_withLogin (area : Area) :
    drawTable canvas (c.withLogin f) area = drawTable canvas c area := by
  have hbody : ∀ canvas area page,
      drawBody canvas (c.withLogin f) area page = drawBody canvas c area page := by
    intro canvas area page
    simp only [drawBody, drawRows_withLogin]
    rfl
  simp only [drawTable, hbody]
  rfl

theorem draw_withLogin (summary toolbar table page : Area) :
    draw canvas (c.withLogin f) summary toolbar table page
      = draw canvas c summary toolbar table page := by
  simp only [draw, drawTable_withLogin]
  rfl

end ReportPage

end VmAssessment
