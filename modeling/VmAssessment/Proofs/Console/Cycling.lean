/-
VmAssessment/Proofs/Console/Cycling.lean

The command that goes on to the next page size, given again and again from the
start of the console.  The pages are then as large as the sizes that the
settings go through (`pageSize_cycled`), so a user gets to all options if and
only if the settings do (`page_sizes_cycle_iff`).
-/
import VmAssessment.Proofs.Console.Spots
import VmAssessment.Proofs.Settings.PageSizes

namespace VmAssessment

/-- Of accepted settings the page size is one of its options, and no option is
zero. -/
theorem Settings.options_of_accepted {s : Settings} (hs : s.fault? = none) :
    s.table.pageSize ∈ s.table.pageSizeOptions ∧ 0 ∉ s.table.pageSizeOptions := by
  unfold fault? at hs
  repeat' split at hs
  all_goals simp_all

namespace Console

open Number (Positive)

variable {c : Console} {s : Settings} {t : TableSettings} {size : UInt64}

/-- The console after a number of commands to go on to the next page size. -/
def cycled (c : Console) (n : ℕ) : Console := (fun c => (c.handle .cyclePageSize).1)^[n] c

theorem pageSize_refresh (c : Console) : c.refresh.1.query.pageSize = c.query.pageSize := by
  rw [refresh_eq]
  rfl

/-- The command takes the size that the settings name next. -/
theorem pageSize_cyclePageSize (hsize : c.query.pageSize.val = size.toNat)
    (hnext : t.nextPageSize size ≠ 0) (ht : c.table = t) :
    c.cyclePageSize.query.pageSize.val = (t.nextPageSize size).toNat := by
  have hpos : 0 < (t.nextPageSize size).toNat :=
    Nat.pos_of_ne_zero fun hzero => hnext (UInt64.toNat_inj.1 hzero)
  have hsome : Positive.ofNat? (t.nextPageSize size).toNat = some ⟨_, hpos⟩ := dif_pos hpos
  simp only [cyclePageSize, hsize, UInt64.ofNat_toNat, ht, hsome]
  rfl

theorem pageSize_handle_cyclePageSize (hsize : c.query.pageSize.val = size.toNat)
    (hnext : c.table.nextPageSize size ≠ 0) :
    (c.handle .cyclePageSize).1.query.pageSize.val = (c.table.nextPageSize size).toNat := by
  have hquery : c.dismissError.query = c.query :=
    c.sameBut_dismissError.agree (p := .query) (by decide)
  rw [handle_of_users rfl (by simp)]
  simp only [editDisplay, pageSize_refresh]
  exact pageSize_cyclePageSize (by rw [hquery, hsize]) hnext c.sameBut_dismissError.table

theorem table_cycled (c : Console) (n : ℕ) : (c.cycled n).table = c.table := by
  induction n with
  | zero => rfl
  | succ n ih =>
      rw [cycled, Function.iterate_succ_apply']
      exact (table_handle _ _).trans ih

theorem pageSize_cycled (hs : s.fault? = none) (n : ℕ) :
    ((start s.table).cycled n).query.pageSize.val
      = (s.table.nextPageSize^[n] s.table.pageSize).toNat := by
  obtain ⟨hmem, hzero⟩ := Settings.options_of_accepted hs
  have hpos : ∀ n, s.table.nextPageSize^[n] s.table.pageSize ≠ 0 := fun n h =>
    hzero (h ▸ TableSettings.iterate_mem hmem n)
  induction n with
  | zero =>
      have hstart : 0 < s.table.pageSize.toNat :=
        Nat.pos_of_ne_zero fun h => hpos 0 (UInt64.toNat_inj.1 h)
      have hsome : Positive.ofNat? s.table.pageSize.toNat = some ⟨_, hstart⟩ := dif_pos hstart
      simp [cycled, start, hsome, Query.withPageSize]
  | succ n ih =>
      have htable : ((start s.table).cycled n).table = s.table := table_cycled _ n
      have hnext := hpos (n + 1)
      rw [Function.iterate_succ_apply'] at hnext ⊢
      rw [cycled, Function.iterate_succ_apply', ← cycled]
      have hgone := pageSize_handle_cyclePageSize ih (by rwa [htable])
      rwa [htable] at hgone

/-- **The page sizes come up in turn if and only if the options go round.**  Of
accepted settings every option comes up from the configured page size on, and
this comes back after as many steps as there are different options, if and only
if the options are all different up to the first repetition, nothing new comes
after it, and it repeats the first of them.  The command that goes on to the
next page size takes the console through the same sizes. -/
theorem page_sizes_cycle_iff (hs : s.fault? = none) :
    (s.table.Cycles ↔ s.table.GoesRound) ∧
      ∀ n, ((start s.table).cycled n).query.pageSize.val
        = (s.table.nextPageSize^[n] s.table.pageSize).toNat :=
  ⟨TableSettings.cycles_iff (Settings.options_of_accepted hs).1, pageSize_cycled hs⟩

/-- An option that is repeated behind all others does no harm. -/
theorem repetition_goes_round :
    let t : TableSettings := { pageSize := 20, pageSizeOptions := [10, 20, 50, 10, 20] }
    let s : Settings := { table := t }
    s.fault? = none ∧ t.Cycles ∧
      ∀ n, ((start t).cycled n).query.pageSize.val = (t.nextPageSize^[n] 20).toNat := by
  intro t s
  have hs : s.fault? = none := by decide +kernel
  obtain ⟨hcycles, hcycled⟩ := page_sizes_cycle_iff hs
  have hround : t.GoesRound :=
    ⟨[10, 20, 50], [10, 20], by decide, by decide, by decide, by decide⟩
  exact ⟨hs, hcycles.2 hround, hcycled⟩

/-- The settings are accepted, and the command never leaves the first size. -/
theorem second_option_never_comes_up :
    ¬ ∀ s : Settings, s.fault? = none → s.table.Cycles := by
  intro h
  let t : TableSettings := { pageSize := 10, pageSizeOptions := [10, 10, 20] }
  have hcycles : t.Cycles := h { table := t } (by decide +kernel)
  obtain ⟨n, hn⟩ := hcycles.visits 20 (by decide)
  have hstuck : t.nextPageSize^[n] t.pageSize = t.pageSize := Function.iterate_fixed (by decide) n
  rw [hstuck] at hn
  revert hn
  decide

end Console

end VmAssessment
