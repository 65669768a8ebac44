/-
VmAssessment/Dispatch/Basic.lean

The console at work: what its actions leave to do is turned into requests to
the agent and into polling.  A request is answered once, and the answer
carries the generation under which it was asked for.  A poller asks for the
status again and again until it is cancelled; the desk holds on to the one
that it started last.
-/
import VmAssessment.Client.Basic
import VmAssessment.Console.Handling

namespace VmAssessment

/-- A request to the agent that is answered once. -/
inductive Errand
  | start (generation : Generation) (credentials : Credentials)
  | stop (generation : Generation)
  | sync (generation : Generation)
  | inventory (generation : Generation)
  | agent
  | setMode (mode : AgentMode)
deriving DecidableEq, Repr

namespace Errand

/-- The call to the agent. -/
def call : Errand → Client.Call
  | start _ credentials => .start credentials
  | stop _ => .stop
  | sync _ => .status
  | inventory _ => .inventory
  | agent => .agent
  | setMode mode => .setMode mode

/-- The answer as it is delivered to the console. -/
def delivery : (e : Errand) → Except Fault e.call.Result → Delivery
  | start g _, result => .started g result
  | stop g, result => .stopped g result
  | sync g, result => .synced g result
  | inventory g, result => .inventory g result
  | agent, result | setMode _, result => .agent result

end Errand

/-- Asks for the status again and again. -/
structure Poller where
  generation : Generation
  /-- When it asks next, in milliseconds. -/
  deadline : Nat
  cancelled : Bool := false
deriving DecidableEq, Repr, Inhabited

/-- The console with its pollers. -/
structure Desk where
  console : Console
  /-- Every poller that was started, in that order. -/
  pollers : List Poller := []
  /-- Which of them can still be cancelled. -/
  held : Option Nat := none
  /-- The time in milliseconds. -/
  now : Nat := 0
  /-- The time between two polls in milliseconds. -/
  interval : Nat
deriving DecidableEq, Repr

namespace Desk

/-- The desk at the console's start. -/
def ofSettings (s : Settings) : Desk :=
  { console := .start s.table, interval := s.pollInterval.toMillis }

/-- Cancels the poller that the desk holds on to. -/
def cancel (d : Desk) : Desk :=
  match d.held with
  | some i =>
    { d with pollers := d.pollers.modify i fun p => { p with cancelled := true }, held := none }
  | none => d

/-- Starts a poller in place of the one before.  It asks one interval from
now, since the status was reported just now. -/
def watch (d : Desk) (generation : Generation) : Desk :=
  let d := d.cancel
  { d with
    pollers := d.pollers ++ [{ generation, deadline := d.now + d.interval }]
    held := some d.pollers.length }

/-- Does what a transition of the session asks for. -/
def perform (d : Desk) : Session.Effect → Desk × List Errand
  | .connect g credentials => (d, [.start g credentials])
  | .disconnect g => (d, [.stop g])
  | .startPolling g => (d.watch g, [])
  | .stopPolling => (d.cancel, [])
  | .syncStatus g => (d, [.sync g])
  | .fetchInventory g => (d, [.inventory g])

/-- Does what several transitions ask for. -/
def performAll (d : Desk) : List Session.Effect → Desk × List Errand
  | [] => (d, [])
  | e :: rest =>
    let (d, errands) := d.perform e
    let (d, more) := d.performAll rest
    (d, errands ++ more)

/-- The request to the agent itself that an action leaves to do; a change of
mode answers a mere question too. -/
def agentErrand (f : Followups) : List Errand :=
  match f.setMode with
  | some mode => [.setMode mode]
  | none => if f.fetchAgent then [.agent] else []

/-- Does what an action leaves to do. -/
def follow (d : Desk) (f : Followups) : Desk × List Errand :=
  let (d, errands) := d.performAll f.effects
  (d, errands ++ agentErrand f)

/-- What an action does; false if the program is to be left. -/
def handle (d : Desk) (a : Action) : Desk × List Errand × Bool :=
  let (console, followups) := d.console.handle a
  let (d, errands) := { d with console }.follow followups
  (d, errands, !followups.quit)

/-- At its start the console asks for the agent's status and mode. -/
def attach (d : Desk) : Desk × List Errand :=
  let (console, effects) := d.console.attach
  { d with console }.follow { effects, fetchAgent := true }

end Desk

end VmAssessment
