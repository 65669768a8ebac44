/-
VmAssessment/Proofs/Report/Columns.lean

What the rows of a table are sorted by.  Under a status or a size each row has
a number, and sorting is stable sorting by these numbers: the result is
determined (`ranked_columns_sorted`), and filtering before or after it comes
to the same (`filtering_keeps_order`).

Under a text nothing of the kind holds below the folded form, for there the
comparison may go in circles.  But whatever it says is borne out by the folded
forms, and in their order the rows end up (`texts_in_folded_order`).
-/
import VmAssessment.Proofs.Report.Stability
import VmAssessment.Proofs.Text.Collating
import VmAssessment.Report.View

namespace VmAssessment

namespace Column

/-- The text a column shows of a machine, if it shows one. -/
def text? : Column → Option (Vm → String)
  | .name => some (·.name)
  | .status => some (·.status.wireName)
  | .datacenter => some (·.datacenter)
  | .cluster => some (·.cluster)
  | .diskSize | .memorySize => none

/-- The size a column shows of a machine, if it shows one. -/
def size? : Column → Option (Vm → Number.Binary64)
  | .diskSize => some (·.diskGb)
  | .memorySize => some (·.memoryGb)
  | .name | .status | .datacenter | .cluster => none

end Column

namespace Report

variable {α : Type} {column : Column}

/-! ### Comparing two rows -/

/-- How two rows compare under a column as a direction sees it. -/
def compareRows (vmOf : α → Vm) (column : Column) (d : Direction) (a b : α) : Ordering :=
  oriented d ((cellKey column (vmOf a)).compare (cellKey column (vmOf b)))

/-- Sorting by keys that are worked out first is sorting by rows. -/
theorem sorted_some (vmOf : α → Vm) (column : Column) (d : Direction) (rows : List α) :
    sorted vmOf (some column) d rows
      = stableSort (fun a b => compareRows vmOf column d a b == .lt) rows := by
  have hkeyed : stableSort (fun a b : CellKey × α => oriented d (a.1.compare b.1) == .lt)
      (rows.map fun row => (cellKey column (vmOf row), row))
        = (stableSort (fun a b => compareRows vmOf column d a b == .lt) rows).map
            fun row => (cellKey column (vmOf row), row) := stableSort_map (fun _ _ => rfl) rows
  simp only [sorted, hkeyed, List.map_map, Function.comp_def, List.map_id']

theorem cellKey_of_text? {text : Vm → String} (h : column.text? = some text) (vm : Vm) :
    cellKey column vm = .text (.of (text vm)) := by
  cases column <;> cases h <;> rfl

theorem cellKey_of_size? {size : Vm → Number.Binary64} (h : column.size? = some size) (vm : Vm) :
    cellKey column vm = .number (size vm) := by
  cases column <;> cases h <;> rfl

theorem transCmp_oriented (d : Direction) {cmp : α → α → Ordering} [Std.TransCmp cmp] :
    Std.TransCmp fun a b => oriented d (cmp a b) := by
  cases d with
  | asc => assumption
  | desc =>
      have hswap : ∀ a b, (cmp a b).swap = cmp b a := fun a b => Std.OrientedCmp.eq_swap.symm
      simp only [oriented, hswap]
      exact Std.TransCmp.opposite

/-! ### Columns of numbers -/

/-- The columns under which rows are ranked: by their sizes, and by their
status. -/
def rankedColumns : List Column := [.status, .diskSize, .memorySize]

/-- The names of statuses are in the order of the menus. -/
theorem compareText_wireName (s t : VmStatus) : Text.compareText s.wireName t.wireName
    = compare (VmStatus.all.idxOf s : ℤ) (VmStatus.all.idxOf t : ℤ) := by
  unfold Text.compareText Text.SortKey.of Text.decompose Text.fold Text.decomposeChar
    Text.lowerChar Text.lowerCode
  rw [Text.decompositionKeys_eq, Text.caseRunStarts_eq]
  cases s <;> cases t <;> decide +kernel

theorem exists_rank (hcolumn : column ∈ rankedColumns) : ∃ rank : Vm → ℤ, ∀ a b,
    (cellKey column a).compare (cellKey column b) = compareOn rank a b := by
  simp only [rankedColumns, List.mem_cons, List.not_mem_nil, or_false] at hcolumn
  rcases hcolumn with rfl | rfl | rfl
  · exact ⟨fun vm => VmStatus.all.idxOf vm.status, fun a b => compareText_wireName _ _⟩
  · exact ⟨fun vm => vm.diskGb.orderIndex, fun a b => rfl⟩
  · exact ⟨fun vm => vm.memoryGb.orderIndex, fun a b => rfl⟩

theorem transCmp_compareRows (hcolumn : column ∈ rankedColumns) (vmOf : α → Vm)
    (d : Direction) : Std.TransCmp (compareRows vmOf column d) := by
  obtain ⟨rank, hrank⟩ := exists_rank hcolumn
  have hrow : compareRows vmOf column d
      = fun a b => oriented d (compareOn (fun row => rank (vmOf row)) a b) :=
    funext fun a => funext fun b => congrArg (oriented d) (hrank (vmOf a) (vmOf b))
  rw [hrow]
  exact transCmp_oriented d

/-- Under such a column rows are stably sorted. -/
theorem stablySorted_sorted (hcolumn : column ∈ rankedColumns) (vmOf : α → Vm) (d : Direction)
    (rows : List α) :
    StablySorted (compareRows vmOf column d) rows (sorted vmOf (some column) d rows) := by
  have := transCmp_compareRows hcolumn vmOf d
  rw [sorted_some]
  exact stablySorted_stableSort rows

/-- **Under a status or a size sorting does what it is to do**, and nothing is
left open: the rows are stably sorted, whatever bits their sizes have; the
descending order is the ascending order of the rows from the last to the first,
turned round; and if no two rows compare equal it is the ascending order turned
round. -/
theorem ranked_columns_sorted (hcolumn : column ∈ rankedColumns) (vmOf : α → Vm)
    (rows : List α) :
    (∀ d, StablySorted (compareRows vmOf column d) rows (sorted vmOf (some column) d rows)) ∧
      sorted vmOf (some column) .desc rows
        = (sorted vmOf (some column) .asc rows.reverse).reverse ∧
      (rows.Pairwise (fun a b => compareRows vmOf column .asc a b ≠ .eq) →
        sorted vmOf (some column) .desc rows = (sorted vmOf (some column) .asc rows).reverse) := by
  have hasc := transCmp_compareRows hcolumn vmOf .asc
  have hdesc := transCmp_compareRows hcolumn vmOf .desc
  have hsorted : ∀ d rows,
      StablySorted (compareRows vmOf column d) rows (sorted vmOf (some column) d rows) :=
    fun d rows => stablySorted_sorted hcolumn vmOf d rows
  have hturned : sorted vmOf (some column) .desc rows
      = (sorted vmOf (some column) .asc rows.reverse).reverse :=
    (hsorted .desc rows).unique (hsorted .asc rows.reverse).reverse
  refine ⟨fun d => hsorted d rows, hturned, fun hties => ?_⟩
  have hsame : sorted vmOf (some column) .asc rows.reverse = sorted vmOf (some column) .asc rows :=
    ((hsorted .asc rows.reverse).of_no_ties hties (List.reverse_perm rows)).unique
      (hsorted .asc rows)
  rw [hturned, hsame]

/-- Both zeros, both kinds of NaN and an infinity by their sizes. -/
theorem oddest_sizes_sorted :
    let sizes : List Number.Binary64 := [⟨0x7FF8000000000000⟩, .negZero, ⟨0x7FF0000000000000⟩,
      .zero, ⟨0xFFF8000000000000⟩]
    let rows := sizes.map fun size => { (default : Vm) with diskGb := size }
    .diskSize ∈ rankedColumns ∧
      rows.Pairwise (fun a b => compareRows id .diskSize .asc a b ≠ .eq) ∧
      StablySorted (compareRows id .diskSize .desc) rows
        (sorted id (some .diskSize) .desc rows) ∧
      sorted id (some .diskSize) .desc rows = (sorted id (some .diskSize) .asc rows).reverse := by
  intro sizes rows
  have hties : rows.Pairwise fun a b => compareRows id .diskSize .asc a b ≠ .eq := by
    decide +kernel
  have hcolumn : .diskSize ∈ rankedColumns := by decide
  obtain ⟨hsorted, -, hturned⟩ := ranked_columns_sorted hcolumn id rows
  exact ⟨hcolumn, hties, hsorted .desc, hturned hties⟩

/-! ### Filtering -/

/-- Sorting what is asked for is asking of what is sorted. -/
theorem sorted_matching {c : Option Column} (hcolumn : ∀ column ∈ c, column ∈ rankedColumns)
    (vmOf : α → Vm) (d : Direction) (q : Query) (rows : List α) :
    sorted vmOf c d (matching vmOf q rows) = matching vmOf q (sorted vmOf c d rows) := by
  cases c with
  | none => rfl
  | some column =>
      have := transCmp_compareRows (hcolumn column rfl) vmOf d
      have hsorted := stablySorted_sorted (hcolumn column rfl) vmOf d
      exact (hsorted (matching vmOf q rows)).unique ((hsorted rows).filter _)

/-- Without a search text and a status every machine is asked for. -/
theorem matching_unfiltered (vmOf : α → Vm) (q : Query) (rows : List α) :
    matching vmOf (q.clearStatuses.setSearch "") rows = rows := by
  refine List.filter_eq_self.2 fun row _ => ?_
  simp [Criteria.admits, Criteria.of, StatusFilter.admits, Query.setSearch, Query.clearStatuses,
    Query.resetPage, Text.lower, Text.lowerFrom]

theorem sorted_matching_sublist {c : Option Column}
    (hcolumn : ∀ column ∈ c, column ∈ rankedColumns) (vmOf : α → Vm) (d : Direction) (q : Query)
    (rows : List α) :
    (sorted vmOf c d (matching vmOf q rows)).Sublist
      (sorted vmOf c d (matching vmOf (q.clearStatuses.setSearch "") rows)) := by
  rw [sorted_matching hcolumn, matching_unfiltered]
  exact matching_sublist vmOf q _

/-- **Filtering never puts rows in another order**: if the rows are not sorted,
or by a status or a size, filtering before sorting and after it come to the
same; so the rows that are shown, and their positions in the inventory, are in
the order in which all are shown without the filter. -/
theorem filtering_keeps_order {q : Query} (hcolumn : ∀ column ∈ q.column, column ∈ rankedColumns)
    (records : List Vm) :
    sorted id q.column q.direction (matching id q records)
        = matching id q (sorted id q.column q.direction records) ∧
      (orderedRows records q).Sublist (orderedRows records (q.clearStatuses.setSearch "")) ∧
      (View.positions records q).Sublist
        (View.positions records (q.clearStatuses.setSearch "")) := by
  refine ⟨sorted_matching hcolumn id _ q records, ?_, ?_⟩
  · exact sorted_matching_sublist hcolumn id q.direction q records
  · exact (sorted_matching_sublist hcolumn Prod.fst q.direction q records.zipIdx).map Prod.snd

/-- Names that contain a text, by memory size from the greatest. -/
theorem databases_by_memory :
    let q : Query := { search := "DB", column := some .memorySize, direction := .desc,
                       pageSize := .one }
    let records := [("db-1", 16), ("web", 64), ("Db-2", 16), ("old-db", 32)].map fun (name, gb) =>
      { (default : Vm) with name := name, memoryGb := .ofNat gb }
    (∀ column ∈ q.column, column ∈ rankedColumns) ∧
      sorted id q.column q.direction (matching id q records)
        = matching id q (sorted id q.column q.direction records) ∧
      (orderedRows records q).Sublist (orderedRows records (q.clearStatuses.setSearch "")) ∧
      (View.positions records q).Sublist
        (View.positions records (q.clearStatuses.setSearch "")) := by
  intro q records
  have hcolumn : ∀ column ∈ q.column, column ∈ rankedColumns := by simp [q, rankedColumns]
  exact ⟨hcolumn, filtering_keeps_order hcolumn records⟩

/-! ### Columns of texts -/

/-- Two texts in order as far as their folded forms go: by code points the second
form is not before the first, or not behind it in a descending order. -/
def InFoldedOrder (d : Direction) (s t : String) : Prop :=
  match d with
  | .asc => Text.compareChars (Text.SortKey.of s).folded (Text.SortKey.of t).folded ≠ .gt
  | .desc => Text.compareChars (Text.SortKey.of s).folded (Text.SortKey.of t).folded ≠ .lt

theorem inFoldedOrder_iff {d : Direction} {s t : String} : InFoldedOrder d s t ↔
    (oriented d (Text.compareChars (Text.SortKey.of s).folded (Text.SortKey.of t).folded)).isLE
      = true := by
  unfold InFoldedOrder oriented
  cases d <;> cases Text.compareChars (Text.SortKey.of s).folded (Text.SortKey.of t).folded <;>
    decide

theorem InFoldedOrder.trans {d : Direction} {s t u : String} (hst : InFoldedOrder d s t)
    (htu : InFoldedOrder d t u) : InFoldedOrder d s u := by
  have : Std.TransCmp fun cs cs' => oriented d (Text.compareChars cs cs') := transCmp_oriented d
  rw [inFoldedOrder_iff] at hst htu ⊢
  exact this.isLE_trans hst htu

/-- In either direction what comes second has no say against what comes
first. -/
theorem isLE_of_oriented_then {d : Direction} {first second : Ordering}
    (h : (oriented d (first.then second)).isLE = true) : (oriented d first).isLE = true := by
  revert h
  cases d <;> cases first <;> cases second <;> decide

theorem inFoldedOrder_of_oriented {d : Direction} {s t : String}
    (h : (oriented d (Text.compareText s t)).isLE = true) : InFoldedOrder d s t :=
  inFoldedOrder_iff.2 (isLE_of_oriented_then h)

/-- Whatever the order of texts says, in circles or not, the folded forms bear
it out. -/
theorem bornOut_inFoldedOrder {text : Vm → String} (hcolumn : column.text? = some text)
    (vmOf : α → Vm) (d : Direction) :
    BornOut (fun a b => compareRows vmOf column d a b == .lt)
      fun a b => InFoldedOrder d (text (vmOf a)) (text (vmOf b)) := by
  have hrow : ∀ a b, compareRows vmOf column d a b
      = oriented d (Text.compareText (text (vmOf a)) (text (vmOf b))) := fun a b => by
    rw [compareRows, cellKey_of_text? hcolumn, cellKey_of_text? hcolumn]
    rfl
  have hswap : ∀ a b, compareRows vmOf column d b a = (compareRows vmOf column d a b).swap := by
    intro a b
    rw [hrow, hrow, Text.compareText_swap]
    cases d <;> rfl
  exact {
    trans := fun hxy hyz => hxy.trans hyz
    of_before := fun {a b} h => by
      refine inFoldedOrder_of_oriented ?_
      rw [← hrow, beq_iff_eq.1 h]
      rfl
    of_not_before := fun {a b} h => by
      refine inFoldedOrder_of_oriented ?_
      rw [← hrow, hswap]
      cases hcmp : compareRows vmOf column d a b with
      | lt => simp [hcmp] at h
      | eq => rfl
      | gt => rfl }

/-- **Under a text the rows end up in the order of the folded forms**, even
where the comparison below these goes in circles, and whether the rows are
sorted by insertion or by merging. -/
theorem texts_in_folded_order {text : Vm → String} (hcolumn : column.text? = some text)
    (vmOf : α → Vm) (d : Direction) (rows : List α) :
    ∀ out ∈ [sorted vmOf (some column) d rows,
        rows.mergeSort fun a b => compareRows vmOf column d b a != .lt],
      out.Perm rows ∧
        out.Pairwise fun a b => InFoldedOrder d (text (vmOf a)) (text (vmOf b)) := by
  have hborn := bornOut_inFoldedOrder hcolumn vmOf d
  refine List.forall_mem_cons.2 ⟨⟨sorted_perm _ _ _ _, ?_⟩, List.forall_mem_singleton.2
    ⟨List.mergeSort_perm _ _, hborn.pairwise_mergeSort rows⟩⟩
  rw [sorted_some]
  exact hborn.pairwise_stableSort rows

/-- Names of which each compares less than the next, and the last less than the
first. -/
theorem circle_in_folded_order :
    let names := ["йж", "и\u0306Ж", "иж"]
    let rows := names.map fun name => { (default : Vm) with name := name }
    Column.text? .name = some (·.name) ∧
      (Text.compareText "йж" "и\u0306Ж" = .lt ∧ Text.compareText "и\u0306Ж" "иж" = .lt ∧
        Text.compareText "иж" "йж" = .lt) ∧
      (sorted id (some .name) .asc rows).Perm rows ∧
      (sorted id (some .name) .asc rows).Pairwise fun a b => InFoldedOrder .asc a.name b.name := by
  intro names rows
  have hcircle : Text.compareText "йж" "и\u0306Ж" = .lt ∧
      Text.compareText "и\u0306Ж" "иж" = .lt ∧ Text.compareText "иж" "йж" = .lt := by
    unfold Text.compareText Text.SortKey.of Text.decompose Text.fold Text.decomposeChar
      Text.lowerChar Text.lowerCode
    rw [Text.decompositionKeys_eq, Text.caseRunStarts_eq]
    decide +kernel
  have hcolumn : Column.text? .name = some (·.name) := rfl
  have hout := texts_in_folded_order hcolumn id .asc rows
  exact ⟨hcolumn, hcircle, hout _ List.mem_cons_self⟩

end Report

end VmAssessment
