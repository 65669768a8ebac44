/-
VmAssessment/Fault.lean

What can go wrong, by cause, with one wording for each cause.
-/
import VmAssessment.Text.Quoted

namespace VmAssessment

/-- Everything that can go wrong in the console. -/
inductive Fault
  /-- Reading or writing a file failed. -/
  | io (detail : String)
  /-- The settings file is not well-formed. -/
  | settingsSyntax (detail : String)
  /-- The settings cannot be written down. -/
  | settingsText (detail : String)
  /-- The settings file at a path cannot be used. -/
  | settingsFile (path detail : String)
  /-- The settings are well-formed but make no sense together. -/
  | badSettings (detail : String)
  /-- A payload is not well-formed. -/
  | payload (detail : String)
  /-- Credentials refused before any request. -/
  | badCredentials (field detail : String)
  /-- The agent could not be reached. -/
  | network (detail : String)
  /-- The agent answered with a failure status. -/
  | refused (status : Nat) (message : String)
  /-- The agent's answer does not decode. -/
  | undecodable (endpoint reason : String)
  /-- Two machines of a batch share an id. -/
  | duplicateId (id : String)
  /-- A machine has a value outside its domain. -/
  | badRecord (id reason : String)
  /-- The terminal failed. -/
  | terminal (detail : String)
  /-- Called off. -/
  | cancelled
  /-- Anything else. -/
  | other (detail : String)
deriving DecidableEq, Repr, Inhabited

namespace Fault

/-- The fault in words. -/
def message : Fault → String
  | io detail => "I/O error: " ++ detail
  | settingsSyntax detail => "Config parse error: " ++ detail
  | settingsText detail => "Config serialize error: " ++ detail
  | settingsFile path detail =>
    "Failed to access config file " ++ Text.quotePath path ++ ": " ++ detail
  | badSettings detail => "Invalid configuration: " ++ detail
  | payload detail => "Serialization error: " ++ detail
  | badCredentials field detail => "Invalid " ++ field ++ ": " ++ detail
  | network detail => "Network error: " ++ detail
  | refused status text => "Agent returned " ++ toString status ++ ": " ++ text
  | undecodable endpoint reason => "Unexpected response from " ++ endpoint ++ ": " ++ reason
  | duplicateId id => "Inventory contains duplicate VM id " ++ id
  | badRecord id reason => "Inventory record " ++ id ++ " is invalid: " ++ reason
  | terminal detail => "Terminal error: " ++ detail
  | cancelled => "Operation was cancelled"
  | other detail => "Unexpected error: " ++ detail

/-- The one line shown to the user: the agent's own words where it sent
some, else the full wording. -/
def userMessage : Fault → String
  | refused _ text => text
  | f => f.message

/-- Whether the fault comes from talking to the agent. -/
def isNetwork : Fault → Bool
  | network _ | refused _ _ | undecodable _ _ => true
  | _ => false

/-- The fault with a remark on what was being done. -/
def withContext (context : String) (f : Fault) : Fault := other (context ++ ": " ++ f.message)

end Fault

end VmAssessment
