/-
VmAssessment/Export.lean

What can be done with a report, and when: exporting needs machines, deep
inspection needs a selection.
-/
import VmAssessment.Inventory
import VmAssessment.Selection

namespace VmAssessment

/-- The formats a report can be exported in. -/
inductive ExportFormat
  | pdf | csv
deriving DecidableEq, Repr, Inhabited

namespace ExportFormat

/-- Every format, in the order menus show them. -/
def all : List ExportFormat := [.pdf, .csv]

/-- The format's line in a menu. -/
def label : ExportFormat → String
  | .pdf => "Export as PDF"
  | .csv => "Export as CSV"

end ExportFormat

/-- A line of the export menu. -/
structure ExportChoice where
  format : ExportFormat
  enabled : Bool
deriving DecidableEq, Repr

/-- The export menu; its lines are enabled once there are machines. -/
def Inventory.exportChoices (inventory : Inventory) : List ExportChoice :=
  ExportFormat.all.map fun format => ⟨format, !inventory.records.isEmpty⟩

/-- Whether machines can be sent to deep inspection. -/
def Selection.allowsInspection (s : Selection) : Bool := !s.isEmpty

end VmAssessment
