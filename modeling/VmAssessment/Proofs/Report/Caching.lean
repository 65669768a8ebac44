/-
VmAssessment/Proofs/Report/Caching.lean

A view keeps positions where `orderedRows` gives machines, and it keeps them
for as long as its key says so.  Three things are to be shown for that.

* The positions stand for the rows: put back into the inventory they give
  `orderedRows`, page by page as well (`ordered_eq`, `pageRows_eq`).
* The key tells enough.  Two keys are the same if they have the same basis,
  in which the statuses are a set (`same_iff`), and the positions depend on
  the basis alone (`positions_congr`).
* The key is never behind.  Whatever query it fits, the positions are that
  query's (`View.Sound`), before and after a batch is taken or refused.

A `Listing` is an inventory, a query and a view in use.  Whatever is done to
them, a refresh brings the rows of the moment, and works them out just when
their basis is another than at the refresh before (`view_refines_rows`).
-/
import Mathlib.Data.Finset.Card
import VmAssessment.Proofs.Inventory.Accepting
import VmAssessment.Proofs.Report.Paging
import VmAssessment.Proofs.Report.Sorting
import VmAssessment.Report.View

namespace VmAssessment

/-! ### Sets of statuses -/

namespace StatusFilter

variable {f g : StatusFilter}

theorem sameSet_iff (f g : StatusFilter) :
    f.sameSet g = true ↔ f.statuses.toFinset = g.statuses.toFinset := by
  have hf := List.toFinset_card_of_nodup f.nodup
  have hg := List.toFinset_card_of_nodup g.nodup
  have hsub : f.statuses.all g.contains = true ↔ f.statuses.toFinset ⊆ g.statuses.toFinset := by
    simp [contains, Finset.subset_iff]
  simp only [sameSet, Bool.and_eq_true, beq_iff_eq, hsub]
  constructor
  · rintro ⟨hlen, h⟩
    exact Finset.eq_of_subset_of_card_le h (by omega)
  · intro h
    rw [← hf, ← hg, h]
    exact ⟨rfl, subset_rfl⟩

/-- What a filter admits depends on the set only. -/
theorem admits_congr (h : f.statuses.toFinset = g.statuses.toFinset) (s : VmStatus) :
    f.admits s = g.admits s := by
  have hempty : f.statuses.isEmpty = g.statuses.isEmpty := by
    rw [Bool.eq_iff_iff, List.isEmpty_iff, List.isEmpty_iff, ← List.toFinset_eq_empty_iff, h,
      List.toFinset_eq_empty_iff]
  have hmem : f.contains s = g.contains s := by
    rw [Bool.eq_iff_iff, contains, contains, List.contains_iff_mem, List.contains_iff_mem,
      ← List.mem_toFinset, h, List.mem_toFinset]
  rw [admits, admits, hempty, hmem]

end StatusFilter

namespace Report

open Inventory (replace_of_fault replace_of_good)

variable {records : List Vm} {p q : Query} {inventory : Inventory} {view : View}

/-! ### What rows depend on -/

/-- What the shown rows depend on, with the statuses as a set. -/
structure Basis where
  /-- How many batches were accepted. -/
  batches : Nat
  search : String
  statuses : Finset VmStatus
  column : Option Column
  direction : Direction
deriving DecidableEq

/-- What the rows of a query depend on after so many batches. -/
def Basis.of (batches : Nat) (q : Query) : Basis :=
  ⟨batches, q.search, q.statuses.statuses.toFinset, q.column, q.direction⟩

/-- What a key stands for. -/
def ViewKey.basis (k : ViewKey) : Basis :=
  ⟨k.version, k.search, k.statuses.statuses.toFinset, k.column, k.direction⟩

theorem ViewKey.same_iff (a b : ViewKey) : a.same b = true ↔ a.basis = b.basis := by
  simp only [same, basis, Basis.mk.injEq, Bool.and_eq_true, beq_iff_eq,
    StatusFilter.sameSet_iff, and_assoc]

/-- Queries of one basis ask for the same machines. -/
theorem admits_of_basis {n : Nat} (h : Basis.of n p = Basis.of n q) (vm : Vm) :
    (Criteria.of p).admits vm = (Criteria.of q).admits vm := by
  simp only [Basis.of, Basis.mk.injEq] at h
  obtain ⟨-, hsearch, hstatuses, -, -⟩ := h
  simp only [Criteria.of, Criteria.admits, hsearch, StatusFilter.admits_congr hstatuses]

theorem positions_congr {n : Nat} (h : Basis.of n p = Basis.of n q) (records : List Vm) :
    View.positions records p = View.positions records q := by
  have hmatching : matching (·.1) p records.zipIdx = matching (·.1) q records.zipIdx := by
    simp only [matching, admits_of_basis h]
  simp only [Basis.of, Basis.mk.injEq] at h
  obtain ⟨-, -, -, hcolumn, hdirection⟩ := h
  rw [View.positions, View.positions, hmatching, hcolumn, hdirection]

theorem length_orderedRows (records : List Vm) (q : Query) :
    (orderedRows records q).length = (matching id q records).length :=
  (sorted_perm _ _ _ _).length_eq

namespace View

/-! ### Positions for rows -/

/-- The rows of a query, each with its position in the inventory. -/
def placed (records : List Vm) (q : Query) : List (Vm × Nat) :=
  sorted (·.1) q.column q.direction (matching (·.1) q records.zipIdx)

theorem positions_eq (records : List Vm) (q : Query) :
    positions records q = (placed records q).map (·.2) := rfl

theorem placed_perm (records : List Vm) (q : Query) :
    (placed records q).Perm (matching (·.1) q records.zipIdx) := sorted_perm _ _ _ _

theorem mem_placed {x : Vm × Nat} :
    x ∈ placed records q ↔ records[x.2]? = some x.1 ∧ (Criteria.of q).admits x.1 = true := by
  rw [(placed_perm records q).mem_iff, mem_matching, List.mem_zipIdx_iff_getElem?]

/-- Without their positions the rows are those of the query. -/
theorem map_fst_placed (records : List Vm) (q : Query) :
    (placed records q).map (·.1) = orderedRows records q := by
  have hrecords : records = records.zipIdx.map (·.1) := by simp
  rw [orderedRows, placed]
  conv_rhs => rw [hrecords, matching_map, sorted_map]
  rfl

/-- Rows are found again at their positions. -/
theorem filterMap_placed {rows : List (Vm × Nat)}
    (h : ∀ x ∈ rows, records[x.2]? = some x.1) :
    (rows.map (·.2)).filterMap (records[·]?) = rows.map (·.1) := by
  induction rows with
  | nil => rfl
  | cons x rest ih =>
      rw [List.map_cons, List.map_cons, List.filterMap_cons_some (h x List.mem_cons_self),
        ih fun y hy => h y (List.mem_cons_of_mem _ hy)]

/-- No machine is shown twice. -/
theorem positions_nodup (records : List Vm) (q : Query) : (positions records q).Nodup := by
  rw [positions_eq, ((placed_perm records q).map (·.2)).nodup_iff]
  refine ((matching_sublist (·.1) q records.zipIdx).map (·.2)).nodup ?_
  rw [List.zipIdx_map_snd]
  exact List.nodup_range'

theorem mem_positions {i : Nat} : i ∈ positions records q ↔
    ∃ vm, records[i]? = some vm ∧ (Criteria.of q).admits vm = true := by
  rw [positions_eq, List.mem_map]
  constructor
  · rintro ⟨⟨vm, j⟩, hx, rfl⟩
    exact ⟨vm, mem_placed.1 hx⟩
  · rintro ⟨vm, hvm⟩
    exact ⟨(vm, i), mem_placed.2 hvm, rfl⟩

theorem length_positions (records : List Vm) (q : Query) :
    (positions records q).length = (matching id q records).length := by
  rw [positions_eq, ← length_orderedRows, ← map_fst_placed, List.length_map, List.length_map]

/-- A view that keeps the positions of a query shows the query's rows. -/
theorem ordered_eq (h : view.order = positions inventory.records q) :
    view.ordered inventory = orderedRows inventory.records q := by
  rw [ordered, h, positions_eq, filterMap_placed fun x hx => (mem_placed.1 hx).1, map_fst_placed]

/-- It shows them page by page, too. -/
theorem pageRows_eq (h : view.order = positions inventory.records q) :
    view.pageRows inventory q
      = paginate (orderedRows inventory.records q) q.page.val q.pageSize.val := by
  have hrows : ∀ x ∈ paginate (placed inventory.records q) q.page.val q.pageSize.val,
      inventory.records[x.2]? = some x.1 :=
    fun x hx => (mem_placed.1 ((paginate_sublist _ _ _).subset hx)).1
  rw [pageRows, h, positions_eq, paginate_map, filterMap_placed hrows, ← paginate_map,
    map_fst_placed]

/-! ### Keys that are not behind -/

/-- What the view was worked out for is what the rows of a query depend on. -/
def fits (view : View) (inventory : Inventory) (q : Query) : Bool :=
  view.key.any (·.same (.of inventory q))

theorem fits_iff (view : View) (inventory : Inventory) (q : Query) :
    view.fits inventory q = true ↔
      view.key.map (·.basis) = some (Basis.of inventory.version q) := by
  cases hk : view.key with
  | none => simp [fits, hk]
  | some k =>
      rw [fits, hk, Option.any_some, ViewKey.same_iff, Option.map_some, Option.some.injEq]
      rfl

/-- The view was worked out for no later batch than the last, and it keeps the
positions of every query that it fits. -/
structure Sound (view : View) (inventory : Inventory) : Prop where
  version : ∀ k, view.key = some k → k.version ≤ inventory.version
  order : ∀ q, view.fits inventory q = true → view.order = positions inventory.records q

theorem sound_new (inventory : Inventory) : Sound {} inventory where
  version k hk := by cases hk
  order q hq := by cases hq

theorem refresh_of_fits (h : view.fits inventory q = true) :
    view.refresh inventory q = (view, false) := if_pos h

theorem refresh_of_not_fits (h : view.fits inventory q = false) :
    view.refresh inventory q
      = (⟨some (.of inventory q), positions inventory.records q, view.recomputes + 1⟩, true) :=
  if_neg (by rw [← fits, h]; exact Bool.false_ne_true)

/-- After a refresh the key is up to date. -/
theorem key_refresh (view : View) (inventory : Inventory) (q : Query) :
    (view.refresh inventory q).1.key.map (·.basis) = some (Basis.of inventory.version q) := by
  cases hf : view.fits inventory q with
  | true =>
      rw [refresh_of_fits hf]
      exact (view.fits_iff inventory q).1 hf
  | false =>
      rw [refresh_of_not_fits hf]
      rfl

/-- **After a refresh a sound view keeps the positions of the query.** -/
theorem Sound.order_refresh (h : view.Sound inventory) (q : Query) :
    (view.refresh inventory q).1.order = positions inventory.records q := by
  cases hf : view.fits inventory q with
  | true =>
      rw [refresh_of_fits hf]
      exact h.order q hf
  | false => rw [refresh_of_not_fits hf]

theorem Sound.refresh (h : view.Sound inventory) (q : Query) :
    (view.refresh inventory q).1.Sound inventory where
  version k hk := by
    have hbasis := view.key_refresh inventory q
    rw [hk, Option.map_some, Option.some.injEq] at hbasis
    exact Nat.le_of_eq (congrArg Basis.batches hbasis)
  order p hp := by
    -- the key fits both queries, so they have one basis
    rw [fits_iff, view.key_refresh inventory q, Option.some.injEq] at hp
    rw [h.order_refresh q]
    exact positions_congr hp _

/-- What is remembered of a failure is nothing to the rows. -/
theorem Sound.of_same (h : view.Sound inventory) {inventory' : Inventory}
    (hversion : inventory'.version = inventory.version)
    (hrecords : inventory'.records = inventory.records) : view.Sound inventory' where
  version k hk := hversion ▸ h.version k hk
  order q hq := by
    rw [fits_iff, hversion, ← fits_iff] at hq
    rw [hrecords]
    exact h.order q hq

/-- A new batch has a number that no key fits yet. -/
theorem Sound.of_newer (h : view.Sound inventory) {inventory' : Inventory}
    (hversion : inventory'.version = inventory.version + 1) : view.Sound inventory' where
  version k hk := by
    have := h.version k hk
    omega
  order q hq := by
    rw [fits_iff, Option.map_eq_some_iff] at hq
    obtain ⟨k, hk, hbasis⟩ := hq
    have hbatches : k.version = inventory'.version := congrArg Basis.batches hbasis
    have := h.version k hk
    omega

/-- Whether a batch is taken or refused, no view becomes unsound. -/
theorem Sound.replace (h : view.Sound inventory) (batch : List Vm) :
    view.Sound (inventory.replace batch).1 := by
  cases hf : Inventory.fault? batch with
  | none =>
      rw [replace_of_good hf]
      exact h.of_newer rfl
  | some fault =>
      rw [replace_of_fault hf]
      exact h.of_same rfl rfl

end View

/-! ### Listings -/

/-- What can be done to an inventory, to a query and to the view of them. -/
inductive Operation
  /-- A batch comes, and is taken over or refused. -/
  | replace (batch : List Vm)
  /-- A batch could not be fetched. -/
  | recordFailure (message : String)
  /-- The query is edited, in whatever way. -/
  | edit (f : Query → Query)
  | refresh

/-- What the rows do not depend on: another page, pages of another size, a
batch that is refused, a failure; and a refresh itself. -/
inductive Operation.Quiet : Operation → Prop
  | page (n : Nat) : Quiet (.edit (·.setPage n))
  | pageSize (n : Number.Positive) : Quiet (.edit (·.setPageSize n))
  | refused {batch : List Vm} {fault : Fault} (h : Inventory.fault? batch = some fault) :
      Quiet (.replace batch)
  | failure (message : String) : Quiet (.recordFailure message)
  | refresh : Quiet .refresh

/-- An inventory, a query and a view in use.  Beside them stands how many
batches were accepted so far, and what the rows depended on at the last
refresh. -/
structure Listing where
  inventory : Inventory := {}
  query : Query
  view : View := {}
  accepted : Nat := 0
  last : Option Basis := none

namespace Listing

/-- Nothing was done yet. -/
def start (q : Query) : Listing := { query := q }

/-- What the rows depend on. -/
def basis (l : Listing) : Basis := .of l.accepted l.query

/-- What an operation does. -/
def apply (l : Listing) : Operation → Listing
  | .replace batch =>
    { l with
      inventory := (l.inventory.replace batch).1
      accepted := if (l.inventory.replace batch).2 = none then l.accepted + 1 else l.accepted }
  | .recordFailure message => { l with inventory := l.inventory.recordFailure message }
  | .edit f => { l with query := f l.query }
  | .refresh => { l with view := (l.view.refresh l.inventory l.query).1, last := some l.basis }

/-- What operations do, one after the other. -/
def run (l : Listing) (ops : List Operation) : Listing := ops.foldl apply l

/-- Versions count accepted batches, the view is sound, and its key is that of
the last refresh. -/
structure Kept (l : Listing) : Prop where
  version : l.inventory.version = l.accepted
  sound : l.view.Sound l.inventory
  key : l.view.key.map (·.basis) = l.last

theorem kept_start (q : Query) : (start q).Kept := ⟨rfl, View.sound_new _, rfl⟩

variable {l : Listing}

/-- **Every operation keeps the view sound.** -/
theorem Kept.apply (h : l.Kept) (o : Operation) : (l.apply o).Kept := by
  cases o with
  | replace batch =>
      refine ⟨?_, h.sound.replace batch, h.key⟩
      cases hf : Inventory.fault? batch with
      | none =>
          simp only [Listing.apply, replace_of_good hf, if_pos]
          rw [h.version]
      | some fault =>
          simp only [Listing.apply, replace_of_fault hf]
          exact h.version
  | recordFailure message => exact ⟨h.version, h.sound.of_same rfl rfl, h.key⟩
  | edit f => exact ⟨h.version, h.sound, h.key⟩
  | refresh =>
      refine ⟨h.version, h.sound.refresh l.query, ?_⟩
      rw [Listing.apply, View.key_refresh, h.version]
      rfl

theorem Kept.run (h : l.Kept) (ops : List Operation) : (l.run ops).Kept := by
  induction ops generalizing l with
  | nil => exact h
  | cons o rest ih => exact ih (h.apply o)

/-- A refresh has nothing to do if the rows depend on what they did at the
last. -/
theorem Kept.fits_iff (h : l.Kept) :
    l.view.fits l.inventory l.query = true ↔ l.last = some l.basis := by
  rw [View.fits_iff, h.key, h.version]
  rfl

/-- A quiet operation leaves what the rows depend on as it was. -/
theorem last_apply_of_quiet {o : Operation} (ho : o.Quiet) (h : l.last = some l.basis) :
    (l.apply o).last = some (l.apply o).basis := by
  cases ho with
  | page n => exact h
  | pageSize n => exact h
  | refused hf =>
      rw [apply, replace_of_fault hf]
      exact h
  | failure message => exact h
  | refresh => rfl

theorem last_run_of_quiet {ops : List Operation} (ho : ∀ o ∈ ops, o.Quiet)
    (h : l.last = some l.basis) : (l.run ops).last = some (l.run ops).basis := by
  induction ops generalizing l with
  | nil => exact h
  | cons o rest ih =>
      exact ih (fun o' ho' => ho o' (List.mem_cons_of_mem _ ho'))
        (last_apply_of_quiet (ho o List.mem_cons_self) h)

/-- **A view refines the rows of the query.**  Whatever was done before, a
refresh brings the rows that the query asks for, each kept by its position and
none twice.  It works them out if and only if their basis differs from that of
the refresh before, if there was one; so it never does for another page, for
pages of another size, or for a batch that was refused. -/
theorem view_refines_rows (q : Query) (ops : List Operation) :
    let l := (start q).run ops
    let r := l.view.refresh l.inventory l.query
    r.1.ordered l.inventory = orderedRows l.inventory.records l.query ∧
      r.1.order.Nodup ∧
      (∀ i, i ∈ r.1.order ↔ ∃ vm, l.inventory.records[i]? = some vm ∧
        (Criteria.of l.query).admits vm = true) ∧
      (r.2 = true ↔ l.last ≠ some l.basis) ∧
      r.1.recomputes = l.view.recomputes + (if r.2 then 1 else 0) ∧
      ∀ later : List Operation, (∀ o ∈ later, o.Quiet) →
        let l' := l.run (.refresh :: later)
        (l'.view.refresh l'.inventory l'.query).2 = false := by
  intro l r
  have hkept : l.Kept := (kept_start q).run ops
  have horder : r.1.order = View.positions l.inventory.records l.query :=
    hkept.sound.order_refresh l.query
  refine ⟨View.ordered_eq horder, ?_, fun i => ?_, ?_, ?_, fun later hlater => ?_⟩
  · rw [horder]
    exact View.positions_nodup _ _
  · rw [horder]
    exact View.mem_positions
  · rw [Ne, ← hkept.fits_iff]
    cases hf : l.view.fits l.inventory l.query with
    | true => simp [r, View.refresh_of_fits hf]
    | false => simp [r, View.refresh_of_not_fits hf]
  · cases hf : l.view.fits l.inventory l.query with
    | true => simp [r, View.refresh_of_fits hf]
    | false => simp [r, View.refresh_of_not_fits hf]
  · have hkept' : (l.run (.refresh :: later)).Kept := hkept.run _
    have hfits := hkept'.fits_iff.2 (last_run_of_quiet (l := l.apply .refresh) hlater rfl)
    simp only [View.refresh_of_fits hfits]

/-- Once shown, the rows of a search are kept for its second page, for a batch
that repeats an id, and for a failure. -/
theorem rows_kept_after_refusal :
    let l := (start default).run [.replace [default], .edit (·.setSearch "vm")]
    let later : List Operation :=
      [.edit (·.setPage 2), .replace [default, default], .recordFailure "timeout"]
    (∀ o ∈ later, o.Quiet) ∧
      let l' := l.run (.refresh :: later)
      (l'.view.refresh l'.inventory l'.query).2 = false := by
  intro l later
  have hrefused : Inventory.fault? [default, default] = some (.duplicateId "") := by decide
  have hlater : ∀ o ∈ later, o.Quiet := by
    simp only [later, List.forall_mem_cons]
    exact ⟨.page 2, .refused hrefused, .failure "timeout", List.forall_mem_nil _⟩
  exact ⟨hlater, (view_refines_rows default _).2.2.2.2.2 later hlater⟩

end Listing

end Report

end VmAssessment
