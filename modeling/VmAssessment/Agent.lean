/-
VmAssessment/Agent.lean

The discovery agent's mode and its link to this console.
-/

namespace VmAssessment

/-- Whether the agent works with the console or on its own; the same two
words also say whether its link to the console is up. -/
inductive AgentMode
  | connected | disconnected
deriving DecidableEq, Repr

namespace AgentMode

instance : Inhabited AgentMode := ⟨.disconnected⟩

/-- The other mode. -/
def toggled : AgentMode → AgentMode
  | .connected => .disconnected
  | .disconnected => .connected

/-- The name on the wire. -/
def wireName : AgentMode → String
  | .connected => "connected"
  | .disconnected => "disconnected"

/-- The name on the screen. -/
def label : AgentMode → String
  | .connected => "Connected"
  | .disconnected => "Disconnected"

/-- The mode of a wire name. -/
def ofWireName? (s : String) : Option AgentMode :=
  [connected, disconnected].find? (·.wireName == s)

end AgentMode

/-- What the agent says of itself. -/
structure AgentStatus where
  mode : AgentMode
  link : AgentMode
deriving DecidableEq, Repr, Inhabited

/-- What the console knows of the agent. -/
structure Agent where
  mode : AgentMode := .disconnected
  link : AgentMode := .disconnected
  /-- A change of mode was asked for. -/
  loading : Bool := false
  error : Option String := none
deriving DecidableEq, Repr, Inhabited

namespace Agent

/-- A change of mode is asked for. -/
def beginRequest (a : Agent) : Agent := { a with loading := true }

/-- The agent answered. -/
def applyStatus (_ : Agent) (s : AgentStatus) : Agent := ⟨s.mode, s.link, false, none⟩

/-- The agent could not be asked. -/
def recordFailure (a : Agent) (message : String) : Agent :=
  { a with loading := false, error := some message }

end Agent

end VmAssessment
