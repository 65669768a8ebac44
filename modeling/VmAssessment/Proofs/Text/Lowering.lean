/-
VmAssessment/Proofs/Text/Lowering.lean

What lowering a piece of a text has to do with lowering the whole.  Every
character is lowered by itself but capital sigma, which becomes ς where it ends
a word and σ elsewhere.  To see which, one looks from the sigma to both sides
for the first character that counts (`met`): a letter with case, something
else, or nothing, where the text ends.

What a piece itself shows of the neighbourhood is met before what stands around
it (`met_append`), so a sigma that meets something on the side that matters has
its form settled inside the piece.  Where all are settled the piece is lowered
alike wherever it stands; where one is not, a letter `a` on the open side makes
the difference:

    piece:  Α Σ    alone: α ς    in Α Σ a: α σ a
    piece:  Σ Α    settled: σ, for a letter follows

So a text is found lowered in whatever it was found in as it is if and only if
all of its sigmas are settled (`lower_infix_iff_settled`).
-/
import Mathlib.Data.List.Infix
import VmAssessment.Text.Lowercase

namespace VmAssessment.Text

variable {l r before after : List Char}

/-! ### What a sigma meets -/

/-- The first character that is not case-ignorable: whether it is cased, if
there is one. -/
def met (cs : List Char) : Option Bool := (cs.find? fun c => !isCaseIgnorable c).map isCased

theorem meetsCased_eq_met (cs : List Char) : meetsCased cs = (met cs).getD false := by
  induction cs with
  | nil => rfl
  | cons c cs ih =>
      cases h : isCaseIgnorable c with
      | true => simpa [meetsCased, met, h] using ih
      | false => simp [meetsCased, met, h]

/-- What is nearer is met first. -/
theorem met_append (near far : List Char) : met (near ++ far) = (met near).or (met far) := by
  simp only [met, List.find?_append, Option.map_or]

/-- The form of a sigma between a reversed text and another. -/
def sigmaForm (before after : List Char) : Char :=
  if meetsCased before && !meetsCased after then 'ς' else 'σ'

/-! ### A piece amid a text -/

/-- Lowers the text `cs` that stands between the reversed text `before` and the
text `after`. -/
def lowerAmid (before after : List Char) : List Char → List Char
  | [] => []
  | c :: cs =>
    (if c = 'Σ' then [sigmaForm before (cs ++ after)] else lowerChar c)
      ++ lowerAmid (c :: before) after cs

theorem lowerAmid_nil (before cs : List Char) : lowerAmid before [] cs = lowerFrom before cs := by
  induction cs generalizing before with
  | nil => rfl
  | cons c cs ih =>
      rw [lowerAmid, lowerFrom, ih, List.append_nil]
      rfl

/-- Each of two pieces is part of the neighbourhood of the other. -/
theorem lowerAmid_append (before after as bs : List Char) :
    lowerAmid before after (as ++ bs)
      = lowerAmid before (bs ++ after) as ++ lowerAmid (as.reverse ++ before) after bs := by
  induction as generalizing before with
  | nil => rfl
  | cons a as ih =>
      rw [List.cons_append, lowerAmid, lowerAmid, ih, List.append_assoc, List.append_assoc,
        List.reverse_cons, List.append_assoc]
      rfl

theorem lowerAmid_sigma (before after l r : List Char) :
    lowerAmid before after (l ++ 'Σ' :: r)
      = lowerAmid before ('Σ' :: r ++ after) l ++ sigmaForm (l.reverse ++ before) (r ++ after)
          :: lowerAmid ('Σ' :: (l.reverse ++ before)) after r := by
  rw [lowerAmid_append, lowerAmid, if_pos rfl]
  rfl

/-! ### Where the form is settled -/

/-- The texts next to a sigma settle its form, whatever stands around them. -/
inductive SettledBetween (l r : List Char) : Prop
  /-- A letter follows. -/
  | inner (h : met r = some true)
  /-- What goes before is no letter. -/
  | first (h : met l.reverse = some false)
  /-- A letter goes before, and what follows is none. -/
  | last (hl : met l.reverse = some true) (hr : met r = some false)

/-- Every capital sigma of a text has its form settled by the text. -/
def Settled (cs : List Char) : Prop := ∀ l r, cs = l ++ 'Σ' :: r → SettledBetween l r

theorem settled_of_no_sigma {cs : List Char} (h : 'Σ' ∉ cs) : Settled cs := by
  rintro l r rfl
  exact absurd (List.mem_append_right l List.mem_cons_self) h

theorem SettledBetween.sigmaForm_eq (h : SettledBetween l r) (before after : List Char) :
    sigmaForm (l.reverse ++ before) (r ++ after) = sigmaForm l.reverse r := by
  simp only [sigmaForm, meetsCased_eq_met, met_append]
  cases h with
  | inner h => simp [h]
  | first h => simp [h]
  | last hl hr => simp [hl, hr]

/-- What comes behind the part that is done is lowered as it would be without
the surroundings.  The part that is done is itself among what a sigma meets, so
the induction carries it along. -/
theorem lowerAmid_of_settled (before after done : List Char) {rest : List Char}
    (h : ∀ l r, rest = l ++ 'Σ' :: r → SettledBetween (done ++ l) r) :
    lowerAmid (done.reverse ++ before) after rest = lowerAmid done.reverse [] rest := by
  induction rest generalizing done with
  | nil => rfl
  | cons c cs ih =>
      have hhead : c = 'Σ' → sigmaForm (done.reverse ++ before) (cs ++ after)
          = sigmaForm done.reverse (cs ++ []) := by
        rintro rfl
        have hsettled := h [] cs rfl
        rw [List.append_nil] at hsettled ⊢
        exact hsettled.sigmaForm_eq before after
      have htail := ih (done ++ [c]) fun l r hcs => by
        rw [List.append_assoc]
        exact h (c :: l) r (congrArg (c :: ·) hcs)
      rw [List.reverse_append] at htail
      simp only [lowerAmid]
      congr 1
      split
      next hc => rw [hhead hc]
      next => rfl

theorem Settled.lower_infix {cs name : List Char} (h : Settled cs) (hname : cs <:+: name) :
    lowerFrom [] cs <:+: lowerFrom [] name := by
  obtain ⟨l, r, rfl⟩ := hname
  have hcs : lowerAmid l.reverse r cs = lowerFrom [] cs := by
    rw [← lowerAmid_nil]
    exact lowerAmid_of_settled l.reverse r [] h
  rw [← lowerAmid_nil [] (l ++ cs ++ r), lowerAmid_append, lowerAmid_append, List.append_nil,
    List.append_nil, hcs]
  exact ⟨_, _, rfl⟩

/-! ### Where it is open -/

/-- A sigma that is not settled meets the end of the text, on the side that
matters. -/
theorem open_of_not_settledBetween (h : ¬ SettledBetween l r) :
    met l.reverse = none ∧ meetsCased r = false ∨ met l.reverse = some true ∧ met r = none := by
  rcases hl : met l.reverse with - | - | -
  · refine .inl ⟨rfl, ?_⟩
    rw [meetsCased_eq_met]
    rcases hr : met r with - | - | -
    · rfl
    · rfl
    · exact absurd (.inner hr) h
  · exact absurd (.first hl) h
  · rcases hr : met r with - | - | -
    · exact .inr ⟨rfl, rfl⟩
    · exact absurd (.last hl hr) h
    · exact absurd (.inner hr) h

/-- One form of small sigma for both. -/
def oneForm (c : Char) : Char := if c = 'ς' then 'σ' else c

theorem oneForm_sigmaForm (before after : List Char) : oneForm (sigmaForm before after) = 'σ' := by
  unfold sigmaForm
  split <;> rfl

/-- But for the forms of its sigmas a text is lowered alike everywhere. -/
theorem map_oneForm_lowerAmid (before after before' after' cs : List Char) :
    (lowerAmid before after cs).map oneForm = (lowerAmid before' after' cs).map oneForm := by
  induction cs generalizing before before' with
  | nil => rfl
  | cons c cs ih =>
      simp only [lowerAmid, List.map_append, ih (c :: before) (c :: before')]
      split
      · simp only [List.map_cons, oneForm_sigmaForm]
      · rfl

theorem sigma_mem_lowerAmid (before after l r : List Char) :
    'σ' ∈ (lowerAmid before after (l ++ 'Σ' :: r)).map oneForm := by
  rw [lowerAmid_sigma, List.map_append, List.map_cons, oneForm_sigmaForm]
  exact List.mem_append_right _ List.mem_cons_self

theorem length_lowerAmid (before after before' after' cs : List Char) :
    (lowerAmid before after cs).length = (lowerAmid before' after' cs).length := by
  have hlength := congrArg List.length (map_oneForm_lowerAmid before after before' after' cs)
  rwa [List.length_map, List.length_map] at hlength

/-- A sigma of another form is a difference: what goes before it is equally
long. -/
theorem lowerAmid_ne {before' after' : List Char}
    (h : sigmaForm (l.reverse ++ before) (r ++ after)
      ≠ sigmaForm (l.reverse ++ before') (r ++ after')) :
    lowerAmid before after (l ++ 'Σ' :: r) ≠ lowerAmid before' after' (l ++ 'Σ' :: r) := by
  intro heq
  rw [lowerAmid_sigma, lowerAmid_sigma] at heq
  have htail := List.append_inj_right heq (length_lowerAmid ..)
  exact h (List.cons.inj htail).1

/-- A list that is itself when turned by one place is constant. -/
theorem eq_of_turned {α : Type} {xs : List α} {d e : α} (h : xs ++ [d] = e :: xs) :
    ∀ x ∈ xs, x = e := by
  induction xs generalizing e with
  | nil => simp
  | cons x xs ih =>
      obtain ⟨rfl, hrest⟩ := List.cons.inj h
      intro y hy
      rcases List.mem_cons.1 hy with rfl | hy
      · rfl
      · exact ih hrest y hy

/-- Of two texts that differ in the forms of their sigmas only, neither stands in
the other with one more letter ahead of it. -/
theorem not_infix_cons {xs ys : List Char} {e : Char} (hne : xs ≠ ys)
    (hform : xs.map oneForm = ys.map oneForm) (hsigma : 'σ' ∈ xs.map oneForm)
    (he : oneForm e ≠ 'σ') : ¬ xs <:+: e :: ys := by
  rintro ⟨s, t, h⟩
  have hlength := congrArg List.length hform
  rw [List.length_map, List.length_map] at hlength
  have htotal := congrArg List.length h
  simp only [List.length_append, List.length_cons] at htotal
  rcases s with - | ⟨e', s⟩
  · -- from the first letter on: the text would be its own turn
    obtain ⟨d, rfl⟩ : ∃ d, t = [d] := List.length_eq_one_iff.1 (by simp at htotal; omega)
    have hturned := congrArg (List.map oneForm) h
    rw [List.nil_append, List.map_append, List.map_cons, List.map_nil, List.map_cons, ← hform]
      at hturned
    exact he (eq_of_turned hturned _ hsigma).symm
  · -- behind it: the texts would be equal
    have hs : s = [] := List.length_eq_zero_iff.1 (by simp at htotal; omega)
    have ht : t = [] := List.length_eq_zero_iff.1 (by simp at htotal; omega)
    subst hs ht
    rw [List.append_nil] at h
    exact hne (List.cons.inj h).2

theorem not_infix_concat {xs ys : List Char} {e : Char} (hne : xs ≠ ys)
    (hform : xs.map oneForm = ys.map oneForm) (hsigma : 'σ' ∈ xs.map oneForm)
    (he : oneForm e ≠ 'σ') : ¬ xs <:+: ys ++ [e] := by
  intro h
  have hreverse : xs.reverse <:+: e :: ys.reverse := by
    have := List.reverse_infix.2 h
    rwa [List.reverse_append] at this
  refine not_infix_cons (fun heq => hne (List.reverse_injective heq)) ?_ ?_ he hreverse
  · rw [List.map_reverse, List.map_reverse, hform]
  · rw [List.map_reverse]
    exact List.mem_reverse.2 hsigma

theorem met_a : met ['a'] = some true := by decide +kernel

/-- With a letter `a` on its open side a sigma takes another form. -/
theorem exists_not_infix_of_open (h : ¬ SettledBetween l r) :
    ∃ name, l ++ 'Σ' :: r <:+: name ∧ ¬ lowerFrom [] (l ++ 'Σ' :: r) <:+: lowerFrom [] name := by
  have hform := map_oneForm_lowerAmid
  have ha : oneForm 'a' ≠ 'σ' := by decide
  rcases open_of_not_settledBetween h with ⟨hl, hr⟩ | ⟨hl, hr⟩
  · -- ahead of the piece it makes a word that the sigma ends
    refine ⟨'a' :: (l ++ 'Σ' :: r), List.infix_cons (List.infix_refl _), ?_⟩
    have hne : lowerAmid [] [] (l ++ 'Σ' :: r) ≠ lowerAmid ['a'] [] (l ++ 'Σ' :: r) := by
      apply lowerAmid_ne
      simp [sigmaForm, meetsCased_eq_met l.reverse, meetsCased_eq_met (l.reverse ++ _),
        met_append, met_a, hl, hr]
    rw [← lowerAmid_nil, ← lowerAmid_nil]
    exact not_infix_cons hne (hform ..) (sigma_mem_lowerAmid ..) ha
  · -- behind it the word goes on
    refine ⟨l ++ 'Σ' :: r ++ ['a'], List.infix_append' [] _ _, ?_⟩
    have hne : lowerAmid [] [] (l ++ 'Σ' :: r) ≠ lowerAmid [] ['a'] (l ++ 'Σ' :: r) := by
      apply lowerAmid_ne
      simp [sigmaForm, meetsCased_eq_met, met_append, met_a, hl, hr]
    rw [← lowerAmid_nil, ← lowerAmid_nil, lowerAmid_append [] [] (l ++ 'Σ' :: r)]
    exact not_infix_concat hne (hform ..) (sigma_mem_lowerAmid ..) ha

/-- **A text is found lowered in all that it stands in if and only if its sigmas
are settled.** -/
theorem lower_infix_iff_settled (cs : List Char) :
    (∀ name, cs <:+: name → lowerFrom [] cs <:+: lowerFrom [] name) ↔ Settled cs := by
  refine ⟨fun hall l r hcs => ?_, fun h name => h.lower_infix⟩
  by_contra hopen
  obtain ⟨name, hname, hnot⟩ := exists_not_infix_of_open hopen
  subst hcs
  exact hnot (hall name hname)

/-! ### Characters looked up -/

-- A table that is computed from another does not evaluate as it stands.
theorem caseRunStarts_eq : caseRunStarts = ⟨caseRuns.toList.map (·.first)⟩ := by
  rw [caseRunStarts, ← Array.toList_map]

end VmAssessment.Text
