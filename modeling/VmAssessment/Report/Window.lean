/-
VmAssessment/Report/Window.lean

Pages: windows on a list of rows.  Numbers are those of a 64-bit machine
word, and arithmetic that would exceed it stops at the largest word.
-/
import VmAssessment.Number.Word

namespace VmAssessment.Report

/-- The largest machine word. -/
def maxWord : Nat := Number.wordLimit - 1

/-- The sum, or the largest word. -/
def addUpTo (a b : Nat) : Nat := min (a + b) maxWord

/-- The product, or the largest word. -/
def mulUpTo (a b : Nat) : Nat := min (a * b) maxWord

/-- The rows from `start` up to but not including `stop`. -/
structure Window where
  start : Nat
  stop : Nat
deriving DecidableEq, Repr

/-- The window of a page, clipped to the rows there are. -/
def window (len page pageSize : Nat) : Window :=
  let start := min (mulUpTo (page - 1) pageSize) len
  ⟨start, min (addUpTo start pageSize) len⟩

/-- The rows in a window. -/
def Window.slice (w : Window) (rows : List α) : List α :=
  (rows.drop w.start).take (w.stop - w.start)

/-- The rows of a page. -/
def paginate (rows : List α) (page pageSize : Nat) : List α :=
  (window rows.length page pageSize).slice rows

/-- How many pages there are; no rows still make one page. -/
def pageCount (len pageSize : Nat) : Nat :=
  if pageSize = 0 then 1 else max ((len + pageSize - 1) / pageSize) 1

end VmAssessment.Report
