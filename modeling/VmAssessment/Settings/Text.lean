/-
VmAssessment/Settings/Text.lean

Settings as a TOML document: a table for each group.  A group that is
missing has its defaults; a group that is there must be complete.
-/
import VmAssessment.Number.Word
import VmAssessment.Settings.Basic
import VmAssessment.Toml.Reader

namespace VmAssessment

namespace Settings

/-! ### Reading -/

/-- The values of a group's fields: by name from a table, in order from an
array. -/
def groupFields? (names : List String) : Toml → Option (List Toml)
  | .table entries => names.mapM (Toml.entry? entries)
  | .array items => if names.length ≤ items.length then some (items.take names.length) else none
  | _ => none

/-- A text. -/
def text? : Toml → Option String
  | .string s => some s
  | _ => none

/-- A truth value. -/
def boolean? : Toml → Option Bool
  | .boolean b => some b
  | _ => none

/-- A machine word. -/
def word? : Toml → Option UInt64
  | .integer n => if 0 ≤ n && n.toNat < Number.wordLimit then some (UInt64.ofNat n.toNat) else none
  | _ => none

/-- A list of machine words. -/
def words? : Toml → Option (List UInt64)
  | .array items => items.mapM word?
  | _ => none

/-- A length of time. -/
def duration? (v : Toml) : Option Duration := do Duration.parse? (← text? v)

/-- How the agent is reached. -/
def agent? (v : Toml) : Option AgentSettings := do
  let names := ["base_url", "connect_timeout", "request_timeout", "accept_invalid_certs"]
  match ← groupFields? names v with
  | [url, connect, request, certs] =>
    return ⟨← text? url, ← duration? connect, ← duration? request, ← boolean? certs⟩
  | _ => none

/-- How often the collector is asked. -/
def collector? (v : Toml) : Option Duration := do
  match ← groupFields? ["poll_interval"] v with
  | [interval] => duration? interval
  | _ => none

/-- How machines are listed. -/
def table? (v : Toml) : Option TableSettings := do
  match ← groupFields? ["page_size", "page_size_options"] v with
  | [size, options] => return ⟨← word? size, ← words? options⟩
  | _ => none

/-- Where the log goes. -/
def log? (v : Toml) : Option LogSettings := do
  match ← groupFields? ["level", "log_dir"] v with
  | [level, dir] => return ⟨← text? level, ← text? dir⟩
  | _ => none

/-- A group of a document, with its defaults if it is missing. -/
def group? (entries : List (String × Toml)) (name : String) (read : Toml → Option α)
    (fallback : α) : Option α :=
  match Toml.entry? entries name with
  | some v => read v
  | none => some fallback

/-- The settings that a document holds. -/
def ofEntries? (entries : List (String × Toml)) : Option Settings := do
  return ⟨← group? entries "api" agent? {},
    ← group? entries "collector" collector? ({} : Settings).pollInterval,
    ← group? entries "table" table? {}, ← group? entries "logging" log? {}⟩

/-- The settings that a text denotes. -/
def parse (s : String) : Except Fault Settings :=
  match (Toml.read? s).bind ofEntries? with
  | some settings => .ok settings
  | none => .error (.settingsSyntax "not a settings document")

/-! ### Writing -/

/-- A line with a key and a value. -/
def line (key : String) (value : List Char) : List Char :=
  key.toList ++ " = ".toList ++ value ++ ['\n']

/-- A truth value. -/
def writeBoolean (b : Bool) : List Char := (if b then "true" else "false").toList

/-- A machine word. -/
def writeWord (n : UInt64) : List Char := (toString n.toNat).toList

/-- A list of machine words; more than one take a line each. -/
def writeWords : List UInt64 → List Char
  | [] => "[]".toList
  | [n] => '[' :: writeWord n ++ [']']
  | l => "[\n".toList ++ l.flatMap (fun n => "    ".toList ++ writeWord n ++ ",\n".toList) ++ [']']

/-- A length of time. -/
def writeDuration (d : Duration) : List Char := Toml.writeText d.text

/-- The settings as a text. -/
def write (s : Settings) : String := String.ofList <|
  "[api]\n".toList ++ line "base_url" (Toml.writeText s.agent.baseUrl)
    ++ line "connect_timeout" (writeDuration s.agent.connectTimeout)
    ++ line "request_timeout" (writeDuration s.agent.requestTimeout)
    ++ line "accept_invalid_certs" (writeBoolean s.agent.acceptInvalidCerts)
    ++ "\n[collector]\n".toList ++ line "poll_interval" (writeDuration s.pollInterval)
    ++ "\n[table]\n".toList ++ line "page_size" (writeWord s.table.pageSize)
    ++ line "page_size_options" (writeWords s.table.pageSizeOptions)
    ++ "\n[logging]\n".toList ++ line "level" (Toml.writeText s.log.level)
    ++ line "log_dir" (Toml.writeText s.log.dir)

end Settings

end VmAssessment
