/-
VmAssessment/Client/Basic.lean

Requests to the agent, and what is made of its answers.
-/
import VmAssessment.Client.Reason
import VmAssessment.Fault
import VmAssessment.Json.Printer
import VmAssessment.Json.Reader
import VmAssessment.Text.Blank
import VmAssessment.Url.Parser
import VmAssessment.Wire.Status
import VmAssessment.Wire.Vm

namespace VmAssessment

namespace Client

/-! ### Addresses -/

/-- A base URL ends with a slash, so that what is resolved against it comes
after its path. -/
def normalize (base : String) : String :=
  let base := Text.trim base
  if base.toList.getLast? == some '/' then base else base.push '/'

/-- The base URL that a text names. -/
def base (text : String) : Except Fault Url :=
  match Url.parse (normalize text) with
  | .ok url => .ok url
  | .error fault => .error (.badSettings ("api.base_url: " ++ fault.message))

/-- The URL of an endpoint. -/
def endpoint (base : Url) (path : String) : Except Fault Url :=
  match base.join path with
  | .ok url => .ok url
  | .error fault => .error (.badSettings ("bad endpoint " ++ path ++ ": " ++ fault.message))

/-! ### Requests -/

/-- How a request acts on its endpoint. -/
inductive Method
  | get | post | delete
deriving DecidableEq, Repr

/-- The method's name. -/
def Method.name : Method → String
  | .get => "GET"
  | .post => "POST"
  | .delete => "DELETE"

/-- What the console asks of the agent. -/
inductive Call
  | status
  | start (credentials : Credentials)
  | stop
  | inventory
  | agent
  | setMode (mode : AgentMode)
deriving DecidableEq, Repr

namespace Call

/-- The method of a call. -/
def method : Call → Method
  | status | inventory | agent => .get
  | start _ | setMode _ => .post
  | stop => .delete

/-- The endpoint of a call. -/
def path : Call → String
  | status | start _ | stop => "collector"
  | inventory => "inventory"
  | agent => "agent"
  | setMode _ => "agent/mode"

/-- The body of a call. -/
def body : Call → String
  | start c => (Wire.ofCredentials c).render
  | setMode mode => (Wire.ofModeRequest mode).render
  | _ => ""

/-- What a call brings.  A stop may bring nothing. -/
def Result : Call → Type
  | status | start _ => StatusReport
  | stop => Option StatusReport
  | inventory => List Vm
  | agent | setMode _ => AgentStatus

end Call

/-- A request as it is sent. -/
structure Request where
  method : Method
  url : Url
  body : String
deriving DecidableEq, Repr

/-- The request of a call. -/
def request (base : Url) (call : Call) : Except Fault Request := do
  return ⟨call.method, ← endpoint base call.path, call.body⟩

/-! ### Answers -/

/-- What came of sending a request. -/
inductive Answer
  /-- An answer arrived as a whole. -/
  | arrived (status : Nat) (body : List UInt8)
  /-- The agent could not be reached, or its answer broke off. -/
  | failed (detail : String)
  /-- The transport could not make sense of the answer. -/
  | garbled (detail : String)
deriving DecidableEq, Repr

/-- Statuses of success. -/
def isSuccess (status : Nat) : Bool := 200 ≤ status && status < 300

/-- What the agent says is wrong: its own words, else the text it sent, else
what its status stands for. -/
def failureText (status : Nat) (body : List UInt8) : String :=
  match (Json.ofBytes? body).bind Wire.errorText? with
  | some text => text
  | none =>
    let text := Text.trim (Text.readLossy body)
    if !text.isEmpty then text
    else (reason? status).getD ("HTTP " ++ toString status)

/-- Blanks of ASCII. -/
def isAsciiBlank (b : UInt8) : Bool := b == 0x20 || b == 0x09 || b == 0x0A || b == 0x0C || b == 0x0D

/-- The body of an answer of success. -/
def bodyOf (url : Url) : Answer → Except Fault (List UInt8)
  | .arrived status body =>
    if isSuccess status then .ok body else .error (.refused status (failureText status body))
  | .failed detail => .error (.network detail)
  | .garbled detail => .error (.undecodable url.text detail)

/-- What a body holds. -/
def decode (url : Url) (read : Json → Option α) (body : List UInt8) : Except Fault α :=
  match (Json.ofBytes? body).bind read with
  | some a => .ok a
  | none => .error (.undecodable url.pathText "the body does not have the expected form")

/-- What a body says of the session; blanks say nothing. -/
def decodeStop (url : Url) (body : List UInt8) : Except Fault (Option StatusReport) :=
  if body.all isAsciiBlank then .ok none else some <$> decode url Wire.statusReport? body

/-- What the body of an answer to a call brings. -/
def read (url : Url) (body : List UInt8) : (call : Call) → Except Fault call.Result
  | .status | .start _ => decode url Wire.statusReport? body
  | .stop => decodeStop url body
  | .inventory => decode url Wire.inventory? body
  | .agent | .setMode _ => decode url Wire.agentStatus? body

/-- What an answer to a call brings. -/
def reply (call : Call) (url : Url) (answer : Answer) : Except Fault call.Result := do
  read url (← bodyOf url answer) call

end Client

end VmAssessment
