/-
VmAssessment/Terminal/Snapshot.lean

What can be read off a canvas: the text of its rows, and where on a row the
style changes.
-/
import VmAssessment.Terminal.Canvas

namespace VmAssessment.Terminal

/-- A row as it is shown, given how many cells the glyph before still
covers: a covered cell shows nothing of its own. -/
def uncovered : Nat → List Cell → List Cell
  | _, [] => []
  | n + 1, _ :: rest => {} :: uncovered n rest
  | 0, cell :: rest => cell :: uncovered (columns (glyphsOf {} cell.symbol) - 1) rest

/-- The rows of a canvas as they are shown. -/
def Canvas.shown (c : Canvas) : List (List Cell) :=
  c.rows.toList.map fun row => uncovered 0 row.toList

/-- The text of a row, without the blanks at its end. -/
def rowText (row : List Cell) : String :=
  String.ofList (((row.flatMap (·.symbol.toList)).reverse.dropWhile Text.isBlank).reverse)

/-- The columns from `x` on at which the style differs from the one before,
each with the style that starts there. -/
def styleChanges (before : Option Style) (x : Nat) : List Cell → List (Nat × Style)
  | [] => []
  | cell :: rest =>
    if before = some cell.style then styleChanges before (x + 1) rest
    else (x, cell.style) :: styleChanges (some cell.style) (x + 1) rest

/-- The runs of cells of one style: where each starts, and the style. -/
def styleRuns (row : List Cell) : List (Nat × Style) := styleChanges none 0 row

end VmAssessment.Terminal
