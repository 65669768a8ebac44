/-
VmAssessment/Console/Action.lean

What can happen to the console: commands of the user, replies of the agent,
and the passing of time.
-/
import VmAssessment.Agent
import VmAssessment.Display
import VmAssessment.Export
import VmAssessment.Fault
import VmAssessment.Query
import VmAssessment.Session.Basic

namespace VmAssessment

/-- The outcome of a request to the agent.  What concerns the session carries
the generation under which it was asked for. -/
inductive Delivery
  | started (generation : Generation) (result : Except Fault StatusReport)
  | stopped (generation : Generation) (result : Except Fault (Option StatusReport))
  | polled (generation : Generation) (result : Except Fault StatusReport)
  | synced (generation : Generation) (result : Except Fault StatusReport)
  | inventory (generation : Generation) (result : Except Fault (List Vm))
  | agent (result : Except Fault AgentStatus)

namespace Delivery

/-- The generation under which it was asked for. -/
def tag? : Delivery → Option Generation
  | .started g _ | .stopped g _ | .polled g _ | .synced g _ | .inventory g _ => some g
  | .agent _ => none

/-- Whether the request succeeded. -/
def isOk : Delivery → Bool
  | .started _ r | .polled _ r | .synced _ r => r.isOk
  | .stopped _ r => r.isOk
  | .inventory _ r => r.isOk
  | .agent r => r.isOk

end Delivery

/-- What can happen to the console. -/
inductive Action
  /-- A character is typed into the login form. -/
  | typeLogin (c : Char)
  | deleteLogin
  | nextField
  | prevField
  /-- The form is sent. -/
  | submitLogin
  | stopCollection
  /-- The agent's status is asked for. -/
  | syncStatus
  /-- The inventory is asked for again. -/
  | reloadInventory
  | enterSearch
  | leaveSearch
  /-- A character is typed into the search text. -/
  | typeSearch (c : Char)
  | deleteSearch
  | clearSearch
  | toggleStatus (status : VmStatus)
  /-- The filter chip with a label is removed. -/
  | removeChip (label : String)
  /-- The filter chip that came last is removed. -/
  | removeLastChip
  | removeAllChips
  | sortBy (column : Column)
  | nextPage
  | prevPage
  | firstPage
  | lastPage
  | cyclePageSize
  | cursorUp
  | cursorDown
  | toggleRow
  /-- The box in the table's header is pressed. -/
  | togglePage
  | clearSelection
  | toggleHelp
  | openOverlay (overlay : Overlay)
  | closeOverlay
  | menuUp
  | menuDown
  | menuSelect
  | exportReport (format : ExportFormat)
  | inspectDeeply
  | toggleAgentMode
  | deliver (delivery : Delivery)
  | resize (width height : UInt16)
  /-- Time has passed. -/
  | tick
  | idle
  | quit

namespace Action

/-- Whether the user did it. -/
def isUsers : Action → Bool
  | .tick | .idle | .resize _ _ | .deliver _ => false
  | _ => true

end Action

end VmAssessment
