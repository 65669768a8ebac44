/-
VmAssessment/Proofs/Report/Stability.lean

What a stable sort is, whatever the rows.  Sorting asks one question only,
whether a row strictly precedes another, so two things can be said without
asking that the answers be consistent:

* rows none of which precedes another keep their order (`filter_stableSort`);
* the result is in any order that bears the answers out
  (`BornOut.pairwise_stableSort`), and so is that of a merge sort.

Under a comparison that is an order, a stable sort is determined by what it is
to do (`StablySorted.unique`): to keep the rows, to put none behind one that
it precedes, and to leave equal ones alone.  Filtering and turning round are
then compared with sorting by what they do to these three.
-/
import VmAssessment.Proofs.Report.Sorting

namespace VmAssessment.Report

variable {α : Type}

/-! ### Rows of which none precedes another -/

section

variable {before : α → α → Bool} {p : α → Bool}

theorem filter_insertBehind {x : α} {done : List α}
    (h : p x = true → ∀ y ∈ done, p y = true → before x y = false) :
    (insertBehind before x done).filter p = (x :: done).filter p := by
  induction done with
  | nil => rfl
  | cons y ys ih =>
      have hrest := ih fun hx z hz => h hx z (List.mem_cons_of_mem _ hz)
      unfold insertBehind
      split
      · rename_i hbefore
        cases hx : p x with
        | false => simp [List.filter_cons, hrest, hx]
        | true =>
            -- the row that is passed is not one of these
            have hy : p y ≠ true := fun hy => by
              rw [h hx y List.mem_cons_self hy] at hbefore
              cases hbefore
            simp [hrest, hx, hy]
      · rfl

theorem filter_foldl_insertBehind
    (h : ∀ x y, p x = true → p y = true → before x y = false) (xs done : List α) :
    (xs.foldl (fun sorted x => insertBehind before x sorted) done).filter p
      = (xs.reverse ++ done).filter p := by
  induction xs generalizing done with
  | nil => rfl
  | cons x rest ih =>
      rw [List.foldl_cons, ih, List.filter_append,
        filter_insertBehind fun hx y _ hy => h x y hx hy, List.reverse_cons, List.append_assoc,
        List.filter_append, List.singleton_append]

/-- Rows none of which precedes another are sorted into the order they had. -/
theorem filter_stableSort (h : ∀ x y, p x = true → p y = true → before x y = false)
    (xs : List α) : (stableSort before xs).filter p = xs.filter p := by
  rw [stableSort, List.filter_reverse, filter_foldl_insertBehind h, List.append_nil,
    List.filter_reverse, List.reverse_reverse]

end

/-! ### Orders that bear a comparison out -/

/-- An order in which a row comes ahead of those it precedes and behind those it
does not.  Nothing is asked of the comparison itself. -/
structure BornOut (before : α → α → Bool) (R : α → α → Prop) : Prop where
  trans : ∀ {x y z}, R x y → R y z → R x z
  of_before : ∀ {x y}, before x y = true → R x y
  of_not_before : ∀ {x y}, before x y = false → R y x

namespace BornOut

variable {before : α → α → Bool} {R : α → α → Prop}

theorem pairwise_insertBehind (h : BornOut before R) {x : α} {done : List α}
    (hdone : done.Pairwise fun a b => R b a) :
    (insertBehind before x done).Pairwise fun a b => R b a := by
  induction done with
  | nil => exact List.pairwise_singleton _ _
  | cons y ys ih =>
      obtain ⟨hy, hys⟩ := List.pairwise_cons.1 hdone
      unfold insertBehind
      split
      · rename_i hbefore
        refine List.pairwise_cons.2 ⟨fun z hz => ?_, ih hys⟩
        rcases List.mem_cons.1 ((insertBehind_perm before x ys).mem_iff.1 hz) with rfl | hz
        · exact h.of_before hbefore
        · exact hy z hz
      · rename_i hbefore
        have hyx : R y x := h.of_not_before (Bool.eq_false_iff.2 hbefore)
        -- what is ahead of `y` is ahead of `x` by way of it
        refine List.pairwise_cons.2 ⟨fun z hz => ?_, hdone⟩
        rcases List.mem_cons.1 hz with rfl | hz
        · exact hyx
        · exact h.trans (hy z hz) hyx

theorem pairwise_foldl_insertBehind (h : BornOut before R) (xs : List α) {done : List α}
    (hdone : done.Pairwise fun a b => R b a) :
    (xs.foldl (fun sorted x => insertBehind before x sorted) done).Pairwise
      fun a b => R b a := by
  induction xs generalizing done with
  | nil => exact hdone
  | cons x rest ih => exact ih (h.pairwise_insertBehind hdone)

/-- Sorting by insertion ends in the order that bears the comparison out. -/
theorem pairwise_stableSort (h : BornOut before R) (xs : List α) :
    (stableSort before xs).Pairwise R :=
  List.pairwise_reverse.2 (h.pairwise_foldl_insertBehind xs .nil)

/-- Two lists in order are merged into one, for the row that is taken has been
held against the first row left of the other list. -/
theorem pairwise_merge (h : BornOut before R) {xs ys : List α} (hxs : xs.Pairwise R)
    (hys : ys.Pairwise R) : (xs.merge ys fun a b => !before b a).Pairwise R := by
  induction xs generalizing ys with
  | nil => simpa using hys
  | cons x xs ihx =>
      induction ys with
      | nil => simpa using hxs
      | cons y ys ihy =>
          obtain ⟨hx, hxs'⟩ := List.pairwise_cons.1 hxs
          obtain ⟨hy, hys'⟩ := List.pairwise_cons.1 hys
          rw [List.cons_merge_cons]
          split
          · rename_i hle
            have hxy : R x y := h.of_not_before (by simpa using hle)
            refine List.pairwise_cons.2 ⟨fun z hz => ?_, ihx hxs' hys⟩
            rcases List.mem_merge.1 hz with hz | hz
            · exact hx z hz
            · rcases List.mem_cons.1 hz with rfl | hz
              · exact hxy
              · exact h.trans hxy (hy z hz)
          · rename_i hle
            have hyx : R y x := h.of_before (by simpa using hle)
            refine List.pairwise_cons.2 ⟨fun z hz => ?_, ihy hys'⟩
            rcases List.mem_merge.1 hz with hz | hz
            · rcases List.mem_cons.1 hz with rfl | hz
              · exact hyx
              · exact h.trans hyx (hx z hz)
            · exact hy z hz

/-- Sorting by merging ends in that order too. -/
theorem pairwise_mergeSort (h : BornOut before R) (xs : List α) :
    (xs.mergeSort fun a b => !before b a).Pairwise R := by
  match xs with
  | [] => simp
  | [x] => simp
  | x :: y :: rest =>
      rw [List.mergeSort]
      exact h.pairwise_merge (h.pairwise_mergeSort _) (h.pairwise_mergeSort _)
termination_by xs.length
decreasing_by
  all_goals
    simp only [List.MergeSort.Internal.splitInTwo_fst, List.MergeSort.Internal.splitInTwo_snd,
      List.length_take, List.length_drop, List.length_cons]
    omega

end BornOut

/-! ### Stably sorted rows -/

/-- The rows in the order of a comparison, equal ones in the order they had:
no row is greater than a later one, and the rows equal to any one are those
they were, in their order. -/
structure StablySorted (cmp : α → α → Ordering) (rows out : List α) : Prop where
  perm : out.Perm rows
  ordered : out.Pairwise fun a b => cmp a b ≠ .gt
  stable : ∀ r, out.filter (cmp r · == .eq) = rows.filter (cmp r · == .eq)

variable {cmp : α → α → Ordering} [Std.TransCmp cmp]

theorem bornOut_compare : BornOut (fun a b => cmp a b == .lt) fun a b => cmp a b ≠ .gt where
  trans hxy hyz := by
    rw [ne_eq, ← Ordering.isLE_iff_ne_gt] at hxy hyz ⊢
    exact Std.TransCmp.isLE_trans hxy hyz
  of_before h := by
    rw [beq_iff_eq.1 h]
    decide
  of_not_before h hgt := by
    rw [Std.OrientedCmp.gt_iff_lt] at hgt
    simp [hgt] at h

/-- Sorting by an order sorts stably. -/
theorem stablySorted_stableSort (rows : List α) :
    StablySorted cmp rows (stableSort (fun a b => cmp a b == .lt) rows) where
  perm := stableSort_perm _ rows
  ordered := bornOut_compare.pairwise_stableSort rows
  stable r := by
    refine filter_stableSort (fun x y hx hy => ?_) rows
    have hxy : cmp x y = .eq :=
      Std.TransCmp.eq_trans (Std.OrientedCmp.eq_symm (beq_iff_eq.1 hx)) (beq_iff_eq.1 hy)
    rw [hxy]
    rfl

/-- The first row is not greater than any. -/
theorem head_ne_gt {x y : α} {xs : List α} (h : (x :: xs).Pairwise fun a b => cmp a b ≠ .gt)
    (hmem : y ∈ x :: xs) : cmp x y ≠ .gt := by
  rcases List.mem_cons.1 hmem with rfl | hmem
  · simp [Std.ReflCmp.compare_self]
  · exact (List.pairwise_cons.1 h).1 y hmem

namespace StablySorted

variable {rows rows' out out' : List α}

/-- There is one such list only: its first row is the first of those equal to
it, and so on. -/
theorem unique (h : StablySorted cmp rows out) (h' : StablySorted cmp rows out') :
    out = out' := by
  have hstable : ∀ r, out.filter (cmp r · == .eq) = out'.filter (cmp r · == .eq) :=
    fun r => (h.stable r).trans (h'.stable r).symm
  have hperm : out.Perm out' := h.perm.trans h'.perm.symm
  have hout := h.ordered
  have hout' := h'.ordered
  clear h h'
  induction out generalizing out' with
  | nil => exact (List.nil_perm.1 hperm).symm
  | cons x xs ih =>
      cases out' with
      | nil => exact absurd hperm.length_eq (by simp)
      | cons y ys =>
          -- each of the two first rows is somewhere in the other list
          have hxy : cmp x y ≠ .gt := head_ne_gt hout (hperm.mem_iff.2 List.mem_cons_self)
          have hyx : cmp y x ≠ .gt := head_ne_gt hout' (hperm.mem_iff.1 List.mem_cons_self)
          have heq : cmp x y = .eq := by
            rw [ne_eq, ← Ordering.isLE_iff_ne_gt] at hxy hyx
            exact Std.OrientedCmp.isLE_antisymm hxy hyx
          obtain rfl : x = y := by
            have hclass := hstable x
            rw [List.filter_cons_of_pos (by simp [Std.ReflCmp.compare_self]),
              List.filter_cons_of_pos (by simp [heq])] at hclass
            exact (List.cons.inj hclass).1
          refine congrArg _ (ih (fun r => ?_) hperm.cons_inv hout.tail hout'.tail)
          have hclass := hstable r
          rw [List.filter_cons, List.filter_cons] at hclass
          split at hclass
          · exact (List.cons.inj hclass).2
          · exact hclass

omit [Std.TransCmp cmp] in
/-- Rows that are dropped leave the order of the others alone. -/
theorem filter (h : StablySorted cmp rows out) (p : α → Bool) :
    StablySorted cmp (rows.filter p) (out.filter p) where
  perm := h.perm.filter p
  ordered := h.ordered.filter p
  stable r := by
    rw [List.filter_comm, h.stable r, List.filter_comm]

/-- Turning both lists round turns the comparison round. -/
theorem reverse (h : StablySorted cmp rows.reverse out) :
    StablySorted (fun a b => (cmp a b).swap) rows out.reverse where
  perm := (List.reverse_perm out).trans (h.perm.trans (List.reverse_perm rows))
  ordered := by
    have hswap : ∀ a b, (cmp a b).swap = cmp b a := fun a b => Std.OrientedCmp.eq_swap.symm
    simp only [hswap]
    exact List.pairwise_reverse.2 h.ordered
  stable r := by
    have hclass : ∀ a, ((cmp r a).swap == .eq) = (cmp r a == .eq) := fun a => by
      cases cmp r a <;> rfl
    simp only [hclass]
    rw [List.filter_reverse, h.stable r, ← List.filter_reverse, List.reverse_reverse]

/-- Where no two rows are equal it makes no difference in which order they
were. -/
theorem of_no_ties (hrows : rows.Pairwise fun a b => cmp a b ≠ .eq) (hperm : rows'.Perm rows)
    (h : StablySorted cmp rows' out) : StablySorted cmp rows out where
  perm := h.perm.trans hperm
  ordered := h.ordered
  stable r := by
    rw [h.stable r]
    have hclass := hperm.filter (cmp r · == .eq)
    have hone := hrows.filter (cmp r · == .eq)
    have hall : ∀ x ∈ rows.filter (cmp r · == .eq), cmp r x = .eq := fun x hx =>
      beq_iff_eq.1 (List.mem_filter.1 hx).2
    generalize rows.filter (cmp r · == .eq) = equals at hclass hone hall ⊢
    rcases equals with - | ⟨x, - | ⟨y, rest⟩⟩
    · exact List.perm_nil.1 hclass
    · exact List.perm_singleton.1 hclass
    · have hxy : cmp x y = .eq :=
        Std.TransCmp.eq_trans (Std.OrientedCmp.eq_symm (hall x (by simp))) (hall y (by simp))
      exact absurd hxy (List.rel_of_pairwise_cons hone List.mem_cons_self)

/-- Of two rows the first stays in front of the second unless it is greater. -/
theorem pair_sublist_iff (h : StablySorted cmp rows out) {a b : α} (hab : [a, b].Sublist rows) :
    [a, b].Sublist out ↔ cmp a b ≠ .gt := by
  constructor
  · exact List.pairwise_iff_forall_sublist.1 h.ordered
  intro hle
  cases hcmp : cmp a b with
  | gt => exact absurd hcmp hle
  | eq =>
      have hclass := hab.filter (cmp a · == .eq)
      rw [← h.stable a, List.filter_cons_of_pos (by simp [Std.ReflCmp.compare_self]),
        List.filter_cons_of_pos (by simp [hcmp]), List.filter_nil] at hclass
      exact hclass.trans List.filter_sublist
  | lt =>
      have hmem : ∀ x ∈ [a, b], x ∈ out := fun x hx => h.perm.mem_iff.2 (hab.subset hx)
      obtain ⟨s, t, rfl⟩ := List.append_of_mem (hmem a (by simp))
      have hb := hmem b (by simp)
      rw [List.mem_append, List.mem_cons] at hb
      rcases hb with hb | rfl | hb
      · -- then it would be in front of the first, which it is not before
        have hba := (List.pairwise_append.1 h.ordered).2.2 b hb a List.mem_cons_self
        rw [ne_eq, Std.OrientedCmp.gt_iff_lt] at hba
        exact absurd hcmp hba
      · simp [Std.ReflCmp.compare_self] at hcmp
      · exact ((List.singleton_sublist.2 hb).cons_cons a).trans (List.sublist_append_right s _)

end StablySorted

end VmAssessment.Report
