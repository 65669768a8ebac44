/-
VmAssessment/Proofs/Report/Searching.lean

What a search finds.  A machine is asked for if its status is admitted and its
name contains the search text, both lowered (`admits_iff`).  Whether it does so
as well where the name contains the search text as it is depends on the search
text alone: on whether each of its capital sigmas has the same small form in
every name.
-/
import VmAssessment.Proofs.Report.Sorting
import VmAssessment.Proofs.Text.Lowering

namespace VmAssessment

/-- There is no set of statuses that admits none. -/
theorem StatusFilter.exists_admits (f : StatusFilter) : ∃ s, f.admits s = true := by
  rcases h : f.statuses with - | ⟨s, rest⟩
  · exact ⟨default, by simp [admits, h]⟩
  · exact ⟨s, by simp [admits, contains, h]⟩

namespace Report

variable {q : Query}

theorem occursIn_iff_infix {needle cs : List Char} :
    occursIn needle cs = true ↔ needle <:+: cs := by
  induction cs with
  | nil => simp [occursIn]
  | cons c cs ih =>
      rw [occursIn, Bool.or_eq_true, List.isPrefixOf_iff_prefix, ih, List.infix_cons_iff]

/-- Which machines are asked for; an empty search text occurs in every name. -/
theorem admits_iff {vm : Vm} : (Criteria.of q).admits vm = true ↔
    q.statuses.admits vm.status = true ∧ Text.lower q.search <:+: Text.lower vm.name := by
  rw [Criteria.admits, Bool.and_eq_true, Bool.or_eq_true, occursIn_iff_infix, List.isEmpty_iff]
  refine and_congr_right fun _ => or_iff_right_of_imp fun h => ?_
  rw [Criteria.of] at h ⊢
  rw [h]
  exact List.nil_infix

/-- A machine of that name that the filter lets pass. -/
theorem exists_admitted (q : Query) (name : List Char) :
    ∃ vm : Vm, vm.name.toList = name ∧ q.statuses.admits vm.status = true := by
  obtain ⟨s, hs⟩ := q.statuses.exists_admits
  exact ⟨{ (default : Vm) with name := String.ofList name, status := s },
    String.toList_ofList, hs⟩

/-- **Searching finds what is searched for as it is written** if and only if all
capital sigmas of the search text are settled: among any rows, each of an
admitted status whose name contains the search text stays. -/
theorem verbatim_found_iff_settled (q : Query) :
    (∀ (rows : List Vm) (vm : Vm), vm ∈ rows → q.statuses.admits vm.status = true →
        q.search.toList <:+: vm.name.toList → vm ∈ matching id q rows)
      ↔ Text.Settled q.search.toList := by
  rw [← Text.lower_infix_iff_settled]
  constructor
  · intro hfound name hname
    obtain ⟨vm, rfl, hadmitted⟩ := exists_admitted q name
    have hkept := hfound [vm] vm List.mem_cons_self hadmitted hname
    exact (admits_iff.1 (mem_matching.1 hkept).2).2
  · intro hlower rows vm hmem hadmitted hname
    exact mem_matching.2 ⟨hmem, admits_iff.2 ⟨hadmitted, hlower _ hname⟩⟩

/-- A search text without sigma, in a name with one. -/
theorem plain_text_found :
    let vm : Vm := { (default : Vm) with name := "ΟΔΥΣΣΕΥΣ-db" }
    let q : Query := { search := "-db", pageSize := .one }
    vm ∈ matching id q [vm] := by
  intro vm q
  have hsettled : Text.Settled q.search.toList := Text.settled_of_no_sigma (by decide)
  exact (verbatim_found_iff_settled q).2 hsettled [vm] vm List.mem_cons_self rfl (by decide)

/-- The name goes on where the search text ends. -/
theorem sigma_not_found :
    ¬ ∀ (q : Query) (rows : List Vm) (vm : Vm), vm ∈ rows →
      q.statuses.admits vm.status = true → q.search.toList <:+: vm.name.toList →
      vm ∈ matching id q rows := by
  intro h
  let vm : Vm := { (default : Vm) with name := "ΑΣΑ" }
  let q : Query := { search := "ΑΣ", pageSize := .one }
  -- the sigma ends the search text, and stands inside the name
  have hmet : Text.meetsCased ['Α'] = true ∧ Text.meetsCased [] = false := by decide +kernel
  have halpha : Text.lowerChar 'Α' = ['α'] := by
    rw [Text.lowerChar, Text.lowerCode, Text.caseRunStarts_eq]
    decide +kernel
  have hsearch : Text.lowerFrom [] ['Α', 'Σ'] = ['α', 'ς'] := by
    simp [Text.lowerFrom, hmet, halpha]
  have hname : Text.lowerFrom [] ['Α', 'Σ', 'Α'] = ['α', 'σ', 'α'] := by
    simp [Text.lowerFrom, hmet, halpha]
  have hlower : ¬ Text.lower q.search <:+: Text.lower vm.name := by
    have hqs : q.search.toList = ['Α', 'Σ'] := by decide
    have hvs : vm.name.toList = ['Α', 'Σ', 'Α'] := by decide
    rw [Text.lower, Text.lower, hqs, hvs, hsearch, hname]
    decide
  have hkept := h q [vm] vm List.mem_cons_self rfl (by decide)
  exact hlower (admits_iff.1 (mem_matching.1 hkept).2).2

end Report

end VmAssessment
