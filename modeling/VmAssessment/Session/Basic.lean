/-
VmAssessment/Session/Basic.lean

A discovery session as the console sees it: the phase the agent's collector
is in, the generation that tags requests, and what goes into and comes out
of a transition.
-/

namespace VmAssessment

/-- The phases of a collection. -/
inductive Phase
  | ready | connecting | connected | collecting | collected | error
deriving DecidableEq, Repr, Inhabited

namespace Phase

/-- Every phase, in the order a session runs through them. -/
def all : List Phase := [.ready, .connecting, .connected, .collecting, .collected, .error]

/-- A collection is in flight on the agent. -/
def isActive : Phase → Bool
  | .connecting | .connected | .collecting => true
  | _ => false

/-- A collection may be started. -/
def canStart : Phase → Bool
  | .ready | .error | .collected => true
  | _ => false

/-- The position on the way forward; `ready` and `error` are off it. -/
def progress? : Phase → Option Nat
  | .connecting => some 1
  | .connected => some 2
  | .collecting => some 3
  | .collected => some 4
  | .ready | .error => none

/-- The name on the screen. -/
def label : Phase → String
  | .ready => "Ready"
  | .connecting => "Connecting"
  | .connected => "Connected"
  | .collecting => "Collecting"
  | .collected => "Collected"
  | .error => "Error"

/-- The name on the wire. -/
def wireName : Phase → String
  | .ready => "ready"
  | .connecting => "connecting"
  | .connected => "connected"
  | .collecting => "collecting"
  | .collected => "collected"
  | .error => "error"

/-- The phase of a wire name. -/
def ofWireName? (s : String) : Option Phase := all.find? (·.wireName == s)

/-- Whether `reported` lies further on the way forward than `current`. -/
def isBehind (current reported : Phase) : Bool :=
  match current.progress?, reported.progress? with
  | some c, some r => c < r
  | _, _ => false

end Phase

/-- The collector's status as the agent reports it. -/
structure StatusReport where
  phase : Phase
  hasCredentials : Option Bool := none
  error : Option String := none
deriving DecidableEq, Repr, Inhabited

/-- What the agent logs in with; kept only for the request that carries it. -/
structure Credentials where
  url : String
  username : String
  password : String
deriving DecidableEq, Repr, Inhabited

/-- Counts accepted starts and stops, modulo the machine word; requests and
their replies carry the count they were issued under. -/
structure Generation where
  count : UInt64 := 0
deriving DecidableEq, Repr, Inhabited

namespace Generation

/-- The generation after the next accepted start or stop. -/
def next (g : Generation) : Generation := ⟨g.count + 1⟩

/-- The generation in words. -/
def label (g : Generation) : String := "g" ++ toString g.count.toNat

end Generation

/-- The session. -/
structure Session where
  phase : Phase := .ready
  error : Option String := none
  hasCredentials : Bool := false
  /-- A start or stop request is in flight. -/
  busy : Bool := false
  generation : Generation := {}
deriving DecidableEq, Repr, Inhabited

namespace Session

/-- What can happen to a session: two commands, the console's start-up, and
replies tagged with the generation they answer. -/
inductive Event
  | attach
  | start (credentials : Credentials)
  | startResolved (generation : Generation) (report : StatusReport)
  | startFailed (generation : Generation) (message : String)
  | stop
  | stopResolved (generation : Generation)
  | stopFailed (generation : Generation) (message : String)
  | pollResolved (generation : Generation) (report : StatusReport)
  | statusFetchFailed (generation : Generation) (message : String)
  | statusSynced (generation : Generation) (report : StatusReport)
deriving DecidableEq, Repr

/-- The generation a reply was issued under; commands carry none. -/
def Event.tag? : Event → Option Generation
  | .attach | .start _ | .stop => none
  | .startResolved g _ | .startFailed g _ | .stopResolved g | .stopFailed g _
  | .pollResolved g _ | .statusFetchFailed g _ | .statusSynced g _ => some g

/-- What is to be done after a transition. -/
inductive Effect
  | connect (generation : Generation) (credentials : Credentials)
  | disconnect (generation : Generation)
  | startPolling (generation : Generation)
  | stopPolling
  | syncStatus (generation : Generation)
  | fetchInventory (generation : Generation)
deriving DecidableEq, Repr

/-- The generation an effect is tagged with. -/
def Effect.tag? : Effect → Option Generation
  | .connect g _ | .disconnect g | .startPolling g | .syncStatus g | .fetchInventory g => some g
  | .stopPolling => none

/-- Why a command is refused. -/
inductive Refusal
  | alreadyRunning
  | nothingToStop
deriving DecidableEq, Repr

/-- The refusal in words. -/
def Refusal.message : Refusal → String
  | .alreadyRunning => "a collection is already running"
  | .nothingToStop => "no collection to stop"

/-- What became of an event. -/
inductive Outcome
  | applied
  /-- The command is not valid in this phase. -/
  | rejected (why : Refusal)
  /-- A current reply that carries nothing to apply. -/
  | ignored
  /-- A reply to a request of another generation. -/
  | stale
deriving DecidableEq, Repr

/-- The session after an event, with what is to be done. -/
structure Transition where
  next : Session
  effects : List Effect
  outcome : Outcome
deriving DecidableEq, Repr

end Session

end VmAssessment
