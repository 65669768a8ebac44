/-
VmAssessment/Settings/Basic.lean

The console's settings, their defaults, and which of them make sense.
-/
import VmAssessment.Duration
import VmAssessment.Fault
import VmAssessment.Url.Parser

namespace VmAssessment

/-- How the agent is reached. -/
structure AgentSettings where
  baseUrl : String := "http://localhost:8000/api/v1"
  connectTimeout : Duration := .seconds 5
  requestTimeout : Duration := .seconds 30
  acceptInvalidCerts : Bool := true
deriving DecidableEq, Repr, Inhabited

/-- How machines are listed.  Sizes are machine words. -/
structure TableSettings where
  pageSize : UInt64 := 20
  pageSizeOptions : List UInt64 := [10, 20, 50, 100]
deriving DecidableEq, Repr, Inhabited

/-- Where the log goes. -/
structure LogSettings where
  level : String := "info"
  dir : String := "logs"
deriving DecidableEq, Repr, Inhabited

/-- The settings. -/
structure Settings where
  agent : AgentSettings := {}
  pollInterval : Duration := .seconds 2
  table : TableSettings := {}
  log : LogSettings := {}
deriving DecidableEq, Repr, Inhabited

namespace TableSettings

/-- The option after one of the options, round to the first. -/
def successor? (size : UInt64) (first : UInt64) : List UInt64 → Option UInt64
  | [] => none
  | [x] => if x = size then some first else none
  | x :: y :: rest => if x = size then some y else successor? size first (y :: rest)

/-- The page size after the current one.  A current size that is no option
leads to the configured one. -/
def nextPageSize (t : TableSettings) (current : UInt64) : UInt64 :=
  match t.pageSizeOptions with
  | [] => t.pageSize
  | first :: rest => (successor? current first (first :: rest)).getD t.pageSize

end TableSettings

/-- Why settings make no sense. -/
inductive SettingsFault
  | noOptions
  | zeroOption
  | notAnOption (size : UInt64) (options : List UInt64)
  | noInterval
  | badBaseUrl (fault : Url.ParseFault)
deriving DecidableEq, Repr

namespace SettingsFault

/-- A list of sizes as it is shown. -/
def listText (l : List UInt64) : String :=
  "[" ++ ", ".intercalate (l.map fun n => toString n.toNat) ++ "]"

/-- What is wrong. -/
def detail : SettingsFault → String
  | noOptions => "table.page_size_options must not be empty"
  | zeroOption => "table.page_size_options must be positive"
  | notAnOption size options =>
    "table.page_size " ++ toString size.toNat ++ " is not one of " ++ listText options
  | noInterval => "collector.poll_interval must be positive"
  | badBaseUrl fault => "api.base_url: " ++ fault.message

/-- The refusal as a fault of the console. -/
def toFault (f : SettingsFault) : Fault := .badSettings f.detail

end SettingsFault

namespace Settings

/-- The first reason why the settings make no sense. -/
def fault? (s : Settings) : Option SettingsFault :=
  if s.table.pageSizeOptions.isEmpty then some .noOptions
  else if s.table.pageSizeOptions.contains 0 then some .zeroOption
  else if !s.table.pageSizeOptions.contains s.table.pageSize then
    some (.notAnOption s.table.pageSize s.table.pageSizeOptions)
  else if s.pollInterval.isZero then some .noInterval
  else
    match Url.parse s.agent.baseUrl with
    | .error fault => some (.badBaseUrl fault)
    | .ok _ => none

/-- The settings with the agent's URL taken from the environment, unless
that is blank. -/
def withEnvironment (s : Settings) (baseUrl : Option String) : Settings :=
  match baseUrl with
  | some url => if (Text.trim url).isEmpty then s else { s with agent.baseUrl := url }
  | none => s

end Settings

end VmAssessment
