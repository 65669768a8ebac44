/-
VmAssessment/Proofs/Settings/PageSizes.lean

Going on from one page size to the next.  The size after an option is looked up
by its value: it is what stands behind the option's first occurrence, and the
first option behind the last one (`nextPageSize_of_mem`).  So a repeated option
is never gone on from, and whether all options come up in turn hangs on where
the repetitions stand.

They all do if and only if the options begin with a round of all of them, none
repeated, and go on from the first one, if they go on at all (`cycles_iff`).
Settings are accepted whatever is repeated.
-/
import Mathlib.Data.List.Cycle
import Mathlib.Data.Finset.Dedup
import VmAssessment.Settings.Basic

namespace VmAssessment.TableSettings

variable {t : TableSettings} {size first turn : UInt64} {l round rest : List UInt64}

/-! ### Successors -/

theorem successor?_of_mem (h : size ∈ l) :
    successor? size first l = some (l.nextOr size first) := by
  fun_induction successor? size first l with
  | case1 => cases h
  | case2 => rfl
  | case3 x hne => exact absurd (List.mem_singleton.1 h).symm hne
  | case4 y rest => rw [List.nextOr_self_cons_cons]
  | case5 x y rest hne ih =>
      have hrest : size ∈ y :: rest := (List.mem_cons.1 h).resolve_left (Ne.symm hne)
      rw [ih hrest, List.nextOr_cons_of_ne _ _ _ _ (Ne.symm hne)]

/-- The option after one of the options, found by its value. -/
theorem nextPageSize_of_mem (h : size ∈ t.pageSizeOptions) :
    t.nextPageSize size = t.pageSizeOptions.next size h := by
  unfold nextPageSize List.next
  generalize t.pageSizeOptions = options at h
  cases options with
  | nil => cases h
  | cons first rest =>
      simp only [successor?_of_mem h, Option.getD_some]
      rfl

/-- The sizes that it goes on to from an option are options. -/
theorem iterate_mem (h : size ∈ t.pageSizeOptions) (n : ℕ) :
    t.nextPageSize^[n] size ∈ t.pageSizeOptions := by
  have hnext : Set.MapsTo t.nextPageSize {x | x ∈ t.pageSizeOptions}
      {x | x ∈ t.pageSizeOptions} := by
    intro x hx
    rw [nextPageSize_of_mem hx]
    exact List.next_mem _ _ _
  exact hnext.iterate n h

theorem next_eq_nextOr (hfirst : l.head? = some first) (h : size ∈ l) :
    l.next size h = l.nextOr size first := by
  cases l with
  | nil => cases h
  | cons x xs =>
      obtain rfl := Option.some.inj hfirst
      rfl

/-- From the last option of a first part it goes on with the second. -/
theorem nextOr_append (h : size ∈ round) (turn : UInt64) (rest : List UInt64) :
    (round ++ turn :: rest).nextOr size first = round.nextOr size turn := by
  induction round with
  | nil => cases h
  | cons x xs ih =>
      cases xs with
      | nil =>
          obtain rfl := List.mem_singleton.1 h
          exact List.nextOr_self_cons_cons _ _ _ _
      | cons y ys =>
          by_cases hx : size = x
          · rw [hx, List.nextOr_self_cons_cons]
            exact List.nextOr_self_cons_cons _ _ _ _
          · have hxs : size ∈ y :: ys := (List.mem_cons.1 h).resolve_left hx
            rw [List.cons_append, List.nextOr_cons_of_ne _ _ _ _ hx, ih hxs,
              List.nextOr_cons_of_ne _ _ _ _ hx]

/-- What comes after a size stands behind the first one, or is what it turns to
at the end. -/
theorem nextOr_mem_tail_or (l : List UInt64) (size turn : UInt64) :
    l.nextOr size turn ∈ l.tail ∨ l.nextOr size turn = turn := by
  induction l with
  | nil => exact .inr rfl
  | cons x xs ih =>
      cases xs with
      | nil => exact .inr rfl
      | cons y ys =>
          by_cases hx : size = x
          · rw [hx, List.nextOr_self_cons_cons]
            exact .inl List.mem_cons_self
          · rw [List.nextOr_cons_of_ne _ _ _ _ hx]
            exact ih.imp_left (List.mem_cons_of_mem y)

/-! ### Rounds -/

/-- The sizes of a round follow each other, none of them twice, and `turn`, one
of them, follows the last. -/
structure Follows (t : TableSettings) (round : List UInt64) (turn : UInt64) : Prop where
  nodup : round.Nodup
  turn_mem : turn ∈ round
  next : ∀ size ∈ round, t.nextPageSize size = round.nextOr size turn

/-- The first options, up to the first repetition. -/
theorem exists_round : ∀ {l : List UInt64}, l ≠ [] → ∃ round rest turn, l = round ++ rest ∧
    (rest ++ round).head? = some turn ∧ round.Nodup ∧ turn ∈ round := by
  intro l
  induction l using List.reverseRecOn with
  | nil => exact fun h => absurd rfl h
  | append_singleton l x ih =>
      intro _
      by_cases hl : l = []
      · exact ⟨[x], [], x, by simp [hl]⟩
      · obtain ⟨round, rest, turn, rfl, hturn, hnodup, hmem⟩ := ih hl
        cases rest with
        | nil =>
            by_cases hx : x ∈ round
            · exact ⟨round, [x], x, by simp, rfl, hnodup, hx⟩
            · -- still nothing is repeated, and the first size is the one it was
              refine ⟨round ++ [x], [], turn, by simp, ?_, ?_, List.mem_append_left _ hmem⟩
              · rw [List.nil_append] at hturn ⊢
                rw [List.head?_append, hturn]
                rfl
              · exact List.nodup_append.2 ⟨hnodup, List.nodup_singleton x, by grind⟩
        | cons y rest => exact ⟨round, y :: rest ++ [x], turn, by simp, hturn, hnodup, hmem⟩

theorem follows_of_eq (hoptions : t.pageSizeOptions = round ++ rest)
    (hturn : (rest ++ round).head? = some turn) (hnodup : round.Nodup) (hmem : turn ∈ round) :
    t.Follows round turn := by
  refine ⟨hnodup, hmem, fun size hsize => ?_⟩
  have hoption : size ∈ t.pageSizeOptions := hoptions ▸ List.mem_append_left rest hsize
  rw [nextPageSize_of_mem hoption]
  cases rest with
  | nil =>
      rw [List.append_nil] at hoptions
      rw [List.nil_append, ← hoptions] at hturn
      rw [next_eq_nextOr hturn, hoptions]
  | cons y rest =>
      obtain rfl := Option.some.inj hturn
      simp only [hoptions]
      exact nextOr_append hsize _ _

namespace Follows

variable (h : t.Follows round turn)
include h

/-- A round is never left. -/
theorem iterate_mem_round (hsize : size ∈ round) (n : ℕ) : t.nextPageSize^[n] size ∈ round := by
  have hnext : Set.MapsTo t.nextPageSize {x | x ∈ round} {x | x ∈ round} := by
    intro x hx
    rw [h.next x hx]
    exact List.nextOr_mem h.turn_mem
  exact hnext.iterate n hsize

/-- Who comes to the first size comes from the last. -/
theorem head_eq_turn (hsize : size ∈ round) (hnext : round.head? = some (t.nextPageSize size)) :
    round.head? = some turn := by
  rw [h.next size hsize] at hnext
  have hnodup := h.nodup
  cases round with
  | nil => cases hsize
  | cons x xs =>
      have hx := Option.some.inj hnext
      rcases nextOr_mem_tail_or (x :: xs) size turn with htail | hturn
      · rw [← hx] at htail
        exact absurd htail (List.nodup_cons.1 hnodup).1
      · rw [hnext, hturn]

/-- In a round that turns to its first size it goes round. -/
theorem getElem?_iterate (hturn : round.head? = some turn) {i : ℕ} (hi : round[i]? = some size)
    (n : ℕ) : round[(i + n) % round.length]? = some (t.nextPageSize^[n] size) := by
  induction n with
  | zero => rwa [Nat.add_zero, Nat.mod_eq_of_lt (List.getElem?_eq_some_iff.1 hi).1]
  | succ n ih =>
      obtain ⟨hlt, hsize⟩ := List.getElem?_eq_some_iff.1 ih
      have hmem := List.getElem_mem hlt
      have hpos : 0 < round.length := List.length_pos_of_mem hmem
      rw [Function.iterate_succ_apply', ← hsize, h.next _ hmem, ← next_eq_nextOr hturn hmem,
        List.next_getElem _ h.nodup, List.getElem?_eq_getElem (Nat.mod_lt _ hpos)]
      congr 2
      rw [Nat.mod_add_mod, Nat.add_assoc]

end Follows

/-! ### All options in turn -/

/-- From the configured size on, every option comes up, and after as many steps
as there are different options the configured size is back. -/
structure Cycles (t : TableSettings) : Prop where
  visits : ∀ size ∈ t.pageSizeOptions, ∃ n, t.nextPageSize^[n] t.pageSize = size
  returns : t.nextPageSize^[t.pageSizeOptions.toFinset.card] t.pageSize = t.pageSize

/-- The options are a round without repetition; what stands behind it, if
anything does, only repeats, and the first size before all others. -/
def GoesRound (t : TableSettings) : Prop :=
  ∃ round rest, t.pageSizeOptions = round ++ rest ∧ round.Nodup ∧ rest ⊆ round ∧
    (rest ++ round).head? = round.head?

theorem GoesRound.cycles (h : t.GoesRound) (hmem : t.pageSize ∈ t.pageSizeOptions) : t.Cycles := by
  obtain ⟨round, rest, hoptions, hnodup, hrest, hturn⟩ := h
  have hround : ∀ size, size ∈ t.pageSizeOptions ↔ size ∈ round := fun size => by
    rw [hoptions, List.mem_append]
    exact or_iff_left_of_imp (@hrest size)
  obtain ⟨i, hi⟩ := List.mem_iff_getElem?.1 ((hround _).1 hmem)
  have hlt : i < round.length := (List.getElem?_eq_some_iff.1 hi).1
  obtain ⟨turn, hfirst⟩ : ∃ turn, round.head? = some turn :=
    Option.isSome_iff_exists.1 (List.isSome_head?.2 (List.ne_nil_of_length_pos (by omega)))
  have hfollows := follows_of_eq hoptions (hturn.trans hfirst) hnodup (List.mem_of_head? hfirst)
  have hiterate := hfollows.getElem?_iterate hfirst hi
  have hcard : t.pageSizeOptions.toFinset.card = round.length := by
    rw [← List.toFinset_card_of_nodup hnodup]
    congr 1
    ext size
    rw [List.mem_toFinset, List.mem_toFinset, hround]
  constructor
  · intro size hsize
    obtain ⟨j, hj⟩ := List.mem_iff_getElem?.1 ((hround _).1 hsize)
    have hjlt : j < round.length := (List.getElem?_eq_some_iff.1 hj).1
    have hsteps : i + (j + (round.length - i)) = j + round.length := by omega
    have hcome := hiterate (j + (round.length - i))
    rw [hsteps, Nat.add_mod_right, Nat.mod_eq_of_lt hjlt, hj] at hcome
    exact ⟨_, (Option.some.inj hcome).symm⟩
  · have hcome := hiterate round.length
    rw [Nat.add_mod_right, Nat.mod_eq_of_lt hlt, hi] at hcome
    rw [hcard]
    exact (Option.some.inj hcome).symm

/-- Wherever it has gone on to, the configured size is still to come. -/
theorem Cycles.comes_back (h : t.Cycles) (hmem : t.pageSize ∈ t.pageSizeOptions) (n : ℕ) :
    ∃ m, t.nextPageSize^[m + 1] (t.nextPageSize^[n] t.pageSize) = t.pageSize := by
  have hcard : 0 < t.pageSizeOptions.toFinset.card :=
    Finset.card_pos.2 ⟨_, List.mem_toFinset.2 hmem⟩
  have hrounds : t.nextPageSize^[t.pageSizeOptions.toFinset.card * (n + 1)] t.pageSize
      = t.pageSize := by
    rw [Function.iterate_mul]
    exact Function.iterate_fixed h.returns (n + 1)
  obtain ⟨m, hm⟩ : ∃ m, t.pageSizeOptions.toFinset.card * (n + 1) = m + 1 + n := by
    have hle := Nat.le_mul_of_pos_left (n + 1) hcard
    exact ⟨t.pageSizeOptions.toFinset.card * (n + 1) - (n + 1), by omega⟩
  rw [hm, Function.iterate_add_apply] at hrounds
  exact ⟨m, hrounds⟩

theorem Cycles.goesRound (h : t.Cycles) (hmem : t.pageSize ∈ t.pageSizeOptions) :
    t.GoesRound := by
  obtain ⟨round, rest, turn, hoptions, hturn, hnodup, hturnmem⟩ :=
    exists_round (List.ne_nil_of_mem hmem)
  have hfollows := follows_of_eq hoptions hturn hnodup hturnmem
  obtain ⟨first, hfirst⟩ : ∃ first, round.head? = some first :=
    Option.isSome_iff_exists.1 (List.isSome_head?.2 (List.ne_nil_of_mem hturnmem))
  have hround : first ∈ round := List.mem_of_head? hfirst
  -- the first size comes up, and from there on the round is not left
  obtain ⟨n, hn⟩ := h.visits first (hoptions ▸ List.mem_append_left rest hround)
  obtain ⟨m, hm⟩ := h.comes_back hmem n
  rw [hn] at hm
  have hstart : t.pageSize ∈ round := hm ▸ hfollows.iterate_mem_round hround (m + 1)
  refine ⟨round, rest, hoptions, hnodup, fun size hsize => ?_, ?_⟩
  · obtain ⟨k, rfl⟩ := h.visits size (hoptions ▸ List.mem_append_right round hsize)
    exact hfollows.iterate_mem_round hstart k
  · -- so it comes up again, and from a size of the round
    have hagain : t.nextPageSize (t.nextPageSize^[n + m] first) = first := by
      have hsteps : t.nextPageSize^[n + (m + 1)] first = first := by
        rw [Function.iterate_add_apply, hm, hn]
      rwa [← Nat.add_assoc, Function.iterate_succ_apply'] at hsteps
    have hlast := hfollows.head_eq_turn (hfollows.iterate_mem_round hround (n + m))
      (by rw [hagain, hfirst])
    rw [hturn, hlast]

/-- **When all options come up in turn.** -/
theorem cycles_iff (hmem : t.pageSize ∈ t.pageSizeOptions) : t.Cycles ↔ t.GoesRound :=
  ⟨fun h => h.goesRound hmem, fun h => h.cycles hmem⟩

end VmAssessment.TableSettings
