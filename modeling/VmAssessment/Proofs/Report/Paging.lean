/-
VmAssessment/Proofs/Report/Paging.lean

Pages as windows.  A window depends on the number of rows only, so pages are
cut alike from rows and from what stands for them (`paginate_map`).  There are
as many pages as it takes, one at least (`pageCount_eq`).

Windows are worked out with machine words, and whatever a word cannot hold is
cut down to the largest one.  This never moves a window out of the rows
(`window_within`), and as long as the rows can be counted by a word it does not
show at all: a page takes up where the pages before it end
(`paginate_eq_take_drop`).  So the pages tile the rows, all of them full but
the last, which has a row if there is one, and none behind it
(`pages_tile_rows`).
-/
import Mathlib.Algebra.Order.Floor.Div
import VmAssessment.Report.Window

namespace VmAssessment.Report

variable {α β : Type} {len page pageSize : Nat} {rows : List α}

theorem paginate_map (f : α → β) (rows : List α) (page pageSize : Nat) :
    paginate (rows.map f) page pageSize = (paginate rows page pageSize).map f := by
  simp only [paginate, Window.slice, List.length_map, List.map_take, List.map_drop]

theorem paginate_sublist (rows : List α) (page pageSize : Nat) :
    (paginate rows page pageSize).Sublist rows :=
  (List.take_sublist _ _).trans (List.drop_sublist _ _)

/-- How many rows a page has, of so many. -/
def pageLength (len page pageSize : Nat) : Nat :=
  (window len page pageSize).stop - (window len page pageSize).start

theorem length_paginate (rows : List α) (page pageSize : Nat) :
    (paginate rows page pageSize).length = pageLength rows.length page pageSize := by
  have hstop : (window rows.length page pageSize).stop ≤ rows.length := Nat.min_le_right _ _
  simp only [paginate, Window.slice, pageLength, List.length_take, List.length_drop]
  omega

/-! ### Where a window lies -/

/-- A window lies within the rows, whatever page is asked for. -/
theorem window_within (len page pageSize : Nat) :
    (window len page pageSize).start ≤ (window len page pageSize).stop ∧
      (window len page pageSize).stop ≤ len := by
  simp only [window, addUpTo, mulUpTo]
  omega

/-- The largest word cuts off nothing that a word can count. -/
theorem window_eq (hlen : len ≤ maxWord) (page pageSize : Nat) :
    window len page pageSize
      = ⟨min ((page - 1) * pageSize) len, min ((page - 1) * pageSize + pageSize) len⟩ := by
  have hstart : min (mulUpTo (page - 1) pageSize) len = min ((page - 1) * pageSize) len := by
    simp only [mulUpTo]
    omega
  simp only [window, hstart, addUpTo, Window.mk.injEq, true_and]
  omega

/-- A page takes up where the pages before it end. -/
theorem paginate_eq_take_drop (hlen : rows.length ≤ maxWord) (page pageSize : Nat) :
    paginate rows page pageSize = (rows.drop ((page - 1) * pageSize)).take pageSize := by
  rw [paginate, window_eq hlen, Window.slice, ← List.drop_take, ← List.take_eq_take_min]
  generalize (page - 1) * pageSize = before
  rcases Nat.le_total before rows.length with hbefore | hbefore
  · rw [Nat.min_eq_left hbefore, List.drop_take, Nat.add_sub_cancel_left]
  · -- the pages before hold all the rows
    rw [Nat.min_eq_right hbefore, List.drop_eq_nil_of_le hbefore, List.take_nil]
    exact List.drop_eq_nil_of_le (List.length_take_le' _ _)

/-! ### How many pages there are -/

/-- As many pages as it takes, and one for no rows. -/
theorem pageCount_eq (len : Nat) (h : 0 < pageSize) :
    pageCount len pageSize = max 1 (len ⌈/⌉ pageSize) := by
  rw [pageCount, if_neg (Nat.ne_of_gt h), Nat.ceilDiv_eq_add_pred_div, Nat.max_comm]

theorem pageCount_pos (len pageSize : Nat) : 0 < pageCount len pageSize := by
  unfold pageCount
  split <;> omega

/-- The pages there are hold all the rows. -/
theorem le_pageCount_mul (len : Nat) (hsize : 0 < pageSize) :
    len ≤ pageCount len pageSize * pageSize := by
  rw [Nat.mul_comm, ← ceilDiv_le_iff_le_mul hsize, pageCount_eq len hsize]
  exact Nat.le_max_right 1 _

/-- No pages but the last hold all the rows. -/
theorem mul_lt_of_lt_pageCount (hpos : 1 ≤ page) (hsize : 0 < pageSize)
    (hpage : page < pageCount len pageSize) : page * pageSize < len := by
  rw [pageCount_eq len hsize] at hpage
  by_contra hge
  have hfew : len ⌈/⌉ pageSize ≤ page := by
    rw [ceilDiv_le_iff_le_mul hsize, Nat.mul_comm]
    exact Nat.le_of_not_lt hge
  omega

/-- The pages before one that there is do not hold all the rows. -/
theorem lt_of_le_pageCount (hlen : 0 < len) (hsize : 0 < pageSize)
    (hpage : page ≤ pageCount len pageSize) : (page - 1) * pageSize < len := by
  rcases Nat.eq_zero_or_pos (page - 1) with hfirst | hlater
  · rwa [hfirst, Nat.zero_mul]
  · exact mul_lt_of_lt_pageCount hlater hsize (by omega)

/-- **Every page that there is shows rows**, if there are any. -/
theorem paginate_ne_nil (hrows : rows ≠ []) (hlen : rows.length ≤ maxWord)
    (hsize : 0 < pageSize) (hpage : page ≤ pageCount rows.length pageSize) :
    paginate rows page pageSize ≠ [] := by
  have hlt := lt_of_le_pageCount (List.length_pos_iff.2 hrows) hsize hpage
  rw [paginate_eq_take_drop hlen, ← List.length_pos_iff, List.length_take, List.length_drop]
  omega

/-! ### All pages together -/

/-- The first pages, one behind the other, are the first rows.  By induction on
how many pages there are: the next one takes up where they end. -/
theorem flatMap_paginate (hlen : rows.length ≤ maxWord) (pageSize count : Nat) :
    (List.range' 1 count).flatMap (paginate rows · pageSize) = rows.take (count * pageSize) := by
  induction count with
  | zero => simp
  | succ count ih =>
      rw [List.range'_1_concat, List.flatMap_append, ih, List.flatMap_singleton,
        paginate_eq_take_drop hlen, Nat.add_sub_cancel_left, ← List.take_add, Nat.succ_mul]

theorem length_paginate_of_lt_pageCount (hlen : rows.length ≤ maxWord) (hsize : 0 < pageSize)
    (hpos : 1 ≤ page) (hpage : page < pageCount rows.length pageSize) :
    (paginate rows page pageSize).length = pageSize := by
  have hlt := mul_lt_of_lt_pageCount hpos hsize hpage
  have hpage : page * pageSize = (page - 1) * pageSize + pageSize := by
    rw [← Nat.succ_mul, Nat.succ_eq_add_one, Nat.sub_add_cancel hpos]
  rw [paginate_eq_take_drop hlen, List.length_take, List.length_drop]
  omega

theorem paginate_eq_nil (hlen : rows.length ≤ maxWord) (hsize : 0 < pageSize)
    (hpage : pageCount rows.length pageSize < page) : paginate rows page pageSize = [] := by
  have hall := le_pageCount_mul rows.length hsize
  have hbefore : pageCount rows.length pageSize * pageSize ≤ (page - 1) * pageSize :=
    Nat.mul_le_mul_right _ (Nat.le_sub_one_of_lt hpage)
  rw [paginate_eq_take_drop hlen, List.drop_eq_nil_of_le (hall.trans hbefore), List.take_nil]

/-- **The pages tile the rows**, which are counted by a machine word.  One
behind the other they are the rows; all are full but the last, which is not
empty unless there are no rows; and the pages behind it are empty.  Whatever
page and size are asked for, zero and the largest word included, the window
lies within the rows, so that there is always something to cut out. -/
theorem pages_tile_rows :
    (∀ (rows : List α) (pageSize : Nat), rows.length ≤ maxWord → 1 ≤ pageSize →
      let count := pageCount rows.length pageSize
      (List.range' 1 count).flatMap (paginate rows · pageSize) = rows ∧
        (∀ page, 1 ≤ page → page < count → (paginate rows page pageSize).length = pageSize) ∧
        (rows ≠ [] → paginate rows count pageSize ≠ []) ∧
        ∀ page, count < page → paginate rows page pageSize = []) ∧
    ∀ len page pageSize : Nat,
      (window len page pageSize).start ≤ (window len page pageSize).stop ∧
        (window len page pageSize).stop ≤ len := by
  refine ⟨?_, window_within⟩
  intro rows pageSize hlen hsize count
  refine ⟨?_, ?_, ?_, ?_⟩
  · rw [flatMap_paginate hlen]
    exact List.take_of_length_le (le_pageCount_mul _ hsize)
  · intro page hpos hpage
    exact length_paginate_of_lt_pageCount hlen hsize hpos hpage
  · intro hrows
    exact paginate_ne_nil hrows hlen hsize le_rfl
  · intro page hpage
    exact paginate_eq_nil hlen hsize hpage

/-- Five rows by two, with the odd one on the last page. -/
theorem five_rows_by_two :
    let rows := [1, 2, 3, 4, 5]
    rows.length ≤ maxWord ∧ 1 ≤ 2 ∧ pageCount rows.length 2 = 3 ∧
      (List.range' 1 3).flatMap (paginate rows · 2) = rows ∧
      (paginate rows 2 2).length = 2 ∧ paginate rows 3 2 ≠ [] ∧ paginate rows maxWord 2 = [] := by
  intro rows
  have hlen : rows.length ≤ maxWord := by decide
  have hcount : pageCount rows.length 2 = 3 := by decide
  obtain ⟨hall, hfull, hlast, hnone⟩ := pages_tile_rows.1 rows 2 hlen (by decide)
  rw [hcount] at hall hfull hlast hnone
  exact ⟨hlen, by decide, hcount, hall, hfull 2 (by decide) (by decide), hlast (by decide),
    hnone maxWord (by decide)⟩

end VmAssessment.Report
