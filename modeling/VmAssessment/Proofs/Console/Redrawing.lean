/-
VmAssessment/Proofs/Console/Redrawing.lean

Why the screen is never out of date.  Between two events the program draws a
frame only if some part is marked to be drawn again, so whatever changes what
is seen has to leave such a mark.  Most actions mark everything.  Three do not
come that far, and each of them changes the message only: to quit takes an
error off the screen, time takes off a message whose own time is over, and both
mark what they change (`dismiss_eq_or_marked`, `expire_eq_or_marked`); the third
does nothing.

What is seen of a console is all of it but the marks themselves, the count of
frames and the age of the message: a frame depends on nothing else
(`frame_seen`).  No mark is ever taken back but by drawing
(`still_or_marked_course`), so what holds of one action holds of a whole course of
them.
-/
import VmAssessment.Proofs.Console.Secrecy

namespace VmAssessment

namespace Display

variable {d : Display} {r : Redraw}

/-- What is asked to be drawn again is marked. -/
theorem needsRedraw_requestRedraw (hr : r.any = true) (d : Display) :
    (d.requestRedraw r).needsRedraw = true := by
  simp only [Redraw.any, Bool.or_eq_true] at hr
  simp only [needsRedraw, requestRedraw, Redraw.union, Redraw.any, Bool.or_eq_true]
  tauto

/-- A message is not taken away without a mark. -/
theorem dismiss_eq_or_marked (d : Display) : d.dismiss = d ∨ d.dismiss.needsRedraw = true := by
  unfold dismiss
  split
  · exact .inr (needsRedraw_requestRedraw rfl _)
  · exact .inl rfl

/-- Nor is it when its time is over. -/
theorem expire_eq_or_marked (d : Display) : d.expire.1 = d ∨ d.expire.1.needsRedraw = true := by
  unfold expire
  split
  · exact .inr (needsRedraw_requestRedraw rfl _)
  · exact .inl rfl

end Display

/-! ### What is seen -/

namespace Console

/-- What is seen of a console. -/
def seen (c : Console) : Console :=
  c.editDisplay fun d => { d with
    redraw := {}
    frames := 0
    notification := d.notification.map fun n => { n with age := 0 } }

end Console

open Terminal (Area Canvas)

variable (canvas : Canvas) (c : Console)

namespace LoginPage

theorem drawFields_seen (places : List (LoginField × Area)) :
    drawFields canvas c.seen places = drawFields canvas c places := by
  induction places generalizing canvas with
  | nil => rfl
  | cons place rest ih => exact ih _

theorem draw_seen (area : Area) : draw canvas c.seen area = draw canvas c area := by
  simp only [draw, drawFields_seen]
  rfl

end LoginPage

namespace ReportPage

theorem drawRows_seen (area : Area) (cursor i : Nat) (page : List Vm) :
    drawRows canvas c.seen area cursor i page = drawRows canvas c area cursor i page := by
  induction page generalizing canvas i with
  | nil => rfl
  | cons vm rest ih => exact ih _ _

theorem drawTable_seen (area : Area) :
    drawTable canvas c.seen area = drawTable canvas c area := by
  have hbody : ∀ canvas area page,
      drawBody canvas c.seen area page = drawBody canvas c area page := by
    intro canvas area page
    simp only [drawBody, drawRows_seen]
    rfl
  simp only [drawTable, hbody]
  rfl

theorem draw_seen (summary toolbar table page : Area) :
    draw canvas c.seen summary toolbar table page = draw canvas c summary toolbar table page := by
  simp only [draw, drawTable_seen]
  rfl

end ReportPage

namespace Console

theorem drawScreen_seen (loadTime : String) (area : Area) :
    drawScreen canvas c.seen loadTime area = drawScreen canvas c loadTime area := by
  simp only [drawScreen, LoginPage.draw_seen, ReportPage.draw_seen]
  rfl

theorem drawOverlays_seen (area : Area) :
    drawOverlays canvas c.seen area = drawOverlays canvas c area := by
  cases h : c.display.notification with
  | none => simp only [drawOverlays, seen, editDisplay, h, Option.map_none]; rfl
  | some n => simp only [drawOverlays, seen, editDisplay, h, Option.map_some]; rfl

/-- **A frame shows nothing but what is seen.** -/
theorem frame_seen (loadTime : String) (width height : UInt16) :
    c.seen.frame loadTime width height = c.frame loadTime width height := by
  simp only [frame, drawScreen_seen, drawOverlays_seen]

/-! ### What leaves a mark -/

/-- Some part of the screen is marked to be drawn again. -/
def Marked (c : Console) : Prop := c.display.needsRedraw = true

theorem dismissError_eq_or_marked : c.dismissError = c ∨ c.dismissError.Marked := by
  unfold dismissError
  split
  · rcases c.display.dismiss_eq_or_marked with h | h
    · exact .inl (by rw [h])
    · exact .inr h
  · exact .inl rfl

/-- **An action marks what it changes**: without a mark, all is as before. -/
theorem handle_eq_or_marked (a : Action) : (c.handle a).1 = c ∨ (c.handle a).1.Marked := by
  have hdismissed : (if a.isUsers then c.dismissError else c) = c ∨
      (if a.isUsers then c.dismissError else c).Marked := by
    split
    · exact c.dismissError_eq_or_marked
    · exact .inl rfl
  cases a with
  | quit | idle => exact hdismissed
  | tick =>
      rcases c.display.expire_eq_or_marked with hd | hd
      · exact .inl (congrArg (fun display => { c with display }) hd)
      · exact .inr hd
  | _ => exact .inr (Display.needsRedraw_requestRedraw rfl _)

/-! ### Between two frames -/

/-- The console after a course of happenings. -/
def course (c : Console) (xs : List Happening) : Console := xs.foldl (fun c x => (c.after x).1) c

/-- Nothing is seen to have changed, and no mark was made or taken back. -/
structure Still (c c' : Console) : Prop where
  seen : c'.seen = c.seen
  marked : c'.Marked ↔ c.Marked

variable {c} {c' : Console}

theorem Still.refl (c : Console) : c.Still c := ⟨rfl, .rfl⟩

/-- Short of drawing a frame, what happens leaves all as it is seen, or a
mark. -/
theorem still_or_marked_after {x : Happening} (hx : x ≠ .draw) :
    c.Still (c.after x).1 ∨ (c.after x).1.Marked := by
  cases x with
  | attach => exact .inl (.refl c)
  | act a =>
      rcases c.handle_eq_or_marked a with h | h
      · exact .inl (by rw [after, h]; exact .refl c)
      · exact .inr h
  | elapse ms =>
      -- the message grows older, which is not seen
      refine .inl ⟨?_, .rfl⟩
      cases h : c.display.notification <;> simp [after, seen, editDisplay, Display.elapse, h]
  | draw => exact absurd rfl hx

/-- **A mark stays until a frame is drawn**, so a course leaves all as it is
seen, or a mark. -/
theorem still_or_marked_course {xs : List Happening} (hxs : .draw ∉ xs) :
    c.Still (c.course xs) ∨ (c.course xs).Marked := by
  induction xs generalizing c with
  | nil => exact .inl (.refl c)
  | cons x rest ih =>
      have hx : x ≠ .draw := fun h => hxs (h ▸ List.mem_cons_self)
      have hrest : .draw ∉ rest := fun h => hxs (List.mem_cons_of_mem x h)
      rcases ih (c := (c.after x).1) hrest with h | h
      · rcases still_or_marked_after (c := c) hx with hfirst | hfirst
        · exact .inl ⟨h.seen.trans hfirst.seen, h.marked.trans hfirst.marked⟩
        · exact .inr (h.marked.2 hfirst)
      · exact .inr h

/-- **No redraw is lost.**  From any console, an action that changes anything
that is seen leaves a mark.  So whatever happens from one frame on, as long as
nothing is marked the next frame would be the same: the program may do without
it. -/
theorem changes_are_redrawn (c : Console) :
    (∀ a : Action, (c.handle a).1.seen ≠ c.seen → (c.handle a).1.display.needsRedraw = true) ∧
      ∀ xs, .draw ∉ xs → (c.course xs).display.needsRedraw = false →
        (c.course xs).seen = c.seen ∧ ∀ loadTime width height,
          (c.course xs).frame loadTime width height = c.frame loadTime width height := by
  refine ⟨fun a hchanged => ?_, fun xs hxs hunmarked => ?_⟩
  · rcases c.handle_eq_or_marked a with h | h
    · exact absurd (by rw [h]) hchanged
    · exact h
  · have hseen : (c.course xs).seen = c.seen := by
      rcases still_or_marked_course (c := c) hxs with h | h
      · exact h.seen
      · rw [Marked, hunmarked] at h
        cases h
    refine ⟨hseen, fun loadTime width height => ?_⟩
    rw [← frame_seen, hseen, frame_seen]

/-- An error is shown, and drawn.  To quit takes it off the screen without any
more ado, which is marked; an hour that passes before changes nothing. -/
theorem quitting_is_redrawn :
    let c := ((start {}).handle (.deliver (.synced {} (.error (.network "timeout"))))).1.drawn
    let hour := [Happening.elapse 3600000, .act .tick, .act .idle]
    c.showsError = true ∧ (c.handle .quit).1.seen ≠ c.seen ∧
      (c.handle .quit).1.display.needsRedraw = true ∧
      .draw ∉ hour ∧ (c.course hour).display.needsRedraw = false ∧
      (c.course hour).frame "" 80 24 = c.frame "" 80 24 := by
  intro c hour
  obtain ⟨haction, hcourse⟩ := c.changes_are_redrawn
  have hchanged : (c.handle .quit).1.seen ≠ c.seen := by decide +kernel
  have hnone : Happening.draw ∉ hour := by simp [hour]
  have hunmarked : (c.course hour).display.needsRedraw = false := by decide +kernel
  exact ⟨by decide +kernel, hchanged, haction _ hchanged, hnone, hunmarked,
    (hcourse hour hnone hunmarked).2 "" 80 24⟩

end Console

end VmAssessment
