/-
VmAssessment/Wire/Status.lean

The collector's and the agent's status on the wire, read and written, and
what the console sends.
-/
import VmAssessment.Agent
import VmAssessment.Session.Basic
import VmAssessment.Wire.Record

namespace VmAssessment.Wire

/-- A status report; the phase stands under `status` or `state`. -/
def statusReport? (v : Json) : Option StatusReport := do
  match ← record? [["status", "state"], ["hasCredentials"], ["error"]] v with
  | [phase, hasCredentials, error] =>
    return ⟨← required (choice? Phase.ofWireName?) phase,
      ← optional bool? hasCredentials, ← optional text? error⟩
  | _ => none

/-- A field that is left out when there is nothing in it. -/
def unlessNone (name : String) (f : α → Json) : Option α → List (String × Json)
  | some a => [(name, f a)]
  | none => []

/-- The written form of a status report. -/
def ofStatusReport (r : StatusReport) : Json :=
  .fields ([("status", .text r.phase.wireName)]
    ++ unlessNone "hasCredentials" Json.bool r.hasCredentials
    ++ unlessNone "error" Json.text r.error)

/-- An agent status. -/
def agentStatus? (v : Json) : Option AgentStatus := do
  match ← record? [["mode"], ["console_connection"]] v with
  | [mode, link] =>
    return ⟨← required (choice? AgentMode.ofWireName?) mode,
      ← required (choice? AgentMode.ofWireName?) link⟩
  | _ => none

/-- The written form of an agent status. -/
def ofAgentStatus (s : AgentStatus) : Json :=
  .fields [("mode", .text s.mode.wireName), ("console_connection", .text s.link.wireName)]

/-- The written form of credentials. -/
def ofCredentials (c : Credentials) : Json :=
  .fields [("url", .text c.url), ("username", .text c.username), ("password", .text c.password)]

/-- A request for a mode. -/
def ofModeRequest (mode : AgentMode) : Json := .fields [("mode", .text mode.wireName)]

/-- The agent's own words in an error answer. -/
def errorText? (v : Json) : Option String := do
  match ← record? [["error"]] v with
  | [error] => required text? error
  | _ => none

end VmAssessment.Wire
