/-
VmAssessment/Proofs/Report/Sorting.lean

What filtering and sorting do to rows that carry something beside their
machine.  Both look at the machine alone, so they may as well be done before
the rest is dropped (`matching_map`, `sorted_map`), and neither invents rows
(`matching_sublist`, `sorted_perm`).
-/
import Mathlib.Data.List.Perm.Basic
import VmAssessment.Report.Matching
import VmAssessment.Report.Ordering

namespace VmAssessment.Report

variable {α β : Type}

/-! ### Stable sorting -/

section

variable {before : α → α → Bool} {before' : β → β → Bool}

theorem insertBehind_perm (before : α → α → Bool) (x : α) (xs : List α) :
    (insertBehind before x xs).Perm (x :: xs) := by
  induction xs with
  | nil => exact .refl _
  | cons y ys ih =>
      unfold insertBehind
      split
      · exact (ih.cons y).trans (.swap x y ys)
      · exact .refl _

/-- The rows that are sorted so far and those to come are all the rows. -/
theorem foldl_insertBehind_perm (before : α → α → Bool) (xs done : List α) :
    (xs.foldl (fun sorted x => insertBehind before x sorted) done).Perm (xs ++ done) := by
  induction xs generalizing done with
  | nil => exact .refl _
  | cons x rest ih =>
      rw [List.foldl_cons, List.cons_append]
      have hput : (rest ++ insertBehind before x done).Perm (rest ++ x :: done) :=
        (insertBehind_perm before x done).append_left rest
      exact (ih _).trans (hput.trans List.perm_middle)

theorem stableSort_perm (before : α → α → Bool) (xs : List α) :
    (stableSort before xs).Perm xs := by
  have := foldl_insertBehind_perm before xs []
  rw [List.append_nil] at this
  exact (List.reverse_perm _).trans this

/-- A map that keeps the comparison keeps the place at which a row is put. -/
theorem insertBehind_map {f : α → β} (hf : ∀ a b, before' (f a) (f b) = before a b) (x : α)
    (xs : List α) : insertBehind before' (f x) (xs.map f) = (insertBehind before x xs).map f := by
  induction xs with
  | nil => rfl
  | cons y ys ih =>
      simp only [List.map_cons, insertBehind, hf]
      split
      · rw [ih, List.map_cons]
      · rfl

theorem foldl_insertBehind_map {f : α → β} (hf : ∀ a b, before' (f a) (f b) = before a b)
    (xs done : List α) :
    (xs.map f).foldl (fun sorted x => insertBehind before' x sorted) (done.map f)
      = (xs.foldl (fun sorted x => insertBehind before x sorted) done).map f := by
  induction xs generalizing done with
  | nil => rfl
  | cons x rest ih =>
      simp only [List.map_cons, List.foldl_cons]
      rw [insertBehind_map hf, ih]

theorem stableSort_map {f : α → β} (hf : ∀ a b, before' (f a) (f b) = before a b) (xs : List α) :
    stableSort before' (xs.map f) = (stableSort before xs).map f := by
  have := foldl_insertBehind_map hf xs []
  rw [List.map_nil] at this
  rw [stableSort, stableSort, this, List.map_reverse]

end

/-! ### Rows under a column -/

variable {vmOf : β → Vm} {f : α → β}

/-- Sorting keeps the rows. -/
theorem sorted_perm (vmOf : α → Vm) (column : Option Column) (d : Direction) (rows : List α) :
    (sorted vmOf column d rows).Perm rows := by
  cases column with
  | none => exact .refl _
  | some column =>
      have hp := (stableSort_perm (fun a b : CellKey × α => oriented d (a.1.compare b.1) == .lt)
        (rows.map fun row => (cellKey column (vmOf row), row))).map (·.2)
      rwa [List.map_map, Function.comp_def, List.map_id'] at hp

/-- What rows carry beside their machine has no say in their order. -/
theorem sorted_map (column : Option Column) (d : Direction) (rows : List α) :
    sorted vmOf column d (rows.map f) = (sorted (vmOf ∘ f) column d rows).map f := by
  cases column with
  | none => rfl
  | some column =>
      have hkeyed : ((rows.map f).map fun row => (cellKey column (vmOf row), row))
          = (rows.map fun row => (cellKey column (vmOf (f row)), row)).map (Prod.map id f) := by
        simp only [List.map_map]
        rfl
      simp only [sorted]
      rw [hkeyed, stableSort_map (fun _ _ => rfl), List.map_map, List.map_map]
      rfl

theorem matching_map (q : Query) (rows : List α) :
    matching vmOf q (rows.map f) = (matching (vmOf ∘ f) q rows).map f := by
  simp only [matching, List.filter_map, Function.comp_def]

theorem matching_sublist (vmOf : α → Vm) (q : Query) (rows : List α) :
    (matching vmOf q rows).Sublist rows := List.filter_sublist

theorem mem_matching {vmOf : α → Vm} {q : Query} {rows : List α} {row : α} :
    row ∈ matching vmOf q rows ↔ row ∈ rows ∧ (Criteria.of q).admits (vmOf row) = true :=
  List.mem_filter

end VmAssessment.Report
