/-
VmAssessment/Dispatch/Exchange.lean

A desk that talks to an agent with prepared replies, on a clock that moves
only when it is told to.  Requests are answered as soon as they are made;
the answers wait until they are delivered.
-/
import VmAssessment.Dispatch.Basic

namespace VmAssessment

/-- The replies an agent has prepared for each kind of call. -/
structure PreparedReplies where
  status : List (Except Fault StatusReport) := []
  start : List (Except Fault StatusReport) := []
  stop : List (Except Fault (Option StatusReport)) := []
  inventory : List (Except Fault (List Vm)) := []
  agent : List (Except Fault AgentStatus) := []
  mode : List (Except Fault AgentStatus) := []

namespace PreparedReplies

/-- The first reply, or the fault that there is none. -/
def first (replies : List (Except Fault α)) : Except Fault α :=
  replies.headD (.error (.network "no reply"))

/-- The reply to a call, and what is left. -/
def answer (p : PreparedReplies) : (call : Client.Call) → Except Fault call.Result × PreparedReplies
  | .status => (first p.status, { p with status := p.status.tail })
  | .start _ => (first p.start, { p with start := p.start.tail })
  | .stop => (first p.stop, { p with stop := p.stop.tail })
  | .inventory => (first p.inventory, { p with inventory := p.inventory.tail })
  | .agent => (first p.agent, { p with agent := p.agent.tail })
  | .setMode _ => (first p.mode, { p with mode := p.mode.tail })

end PreparedReplies

/-- A desk, its agent, and the answers on their way. -/
structure Exchange where
  desk : Desk
  replies : PreparedReplies := {}
  /-- The answers that are not delivered yet, the oldest first. -/
  waiting : List Delivery := []
  /-- The calls that were made, the oldest first. -/
  calls : List Client.Call := []

namespace Exchange

/-- Makes a call, and lets its answer wait. -/
def ask (x : Exchange) (call : Client.Call) (delivery : Except Fault call.Result → Delivery) :
    Exchange :=
  let (result, replies) := x.replies.answer call
  { x with replies, waiting := x.waiting ++ [delivery result], calls := x.calls ++ [call] }

/-- Sees to requests, in order. -/
def run (x : Exchange) (errands : List Errand) : Exchange :=
  errands.foldl (fun x e => x.ask e.call e.delivery) x

/-- What an action does; false if the program is to be left. -/
def handle (x : Exchange) (a : Action) : Exchange × Bool :=
  let (desk, errands, running) := x.desk.handle a
  ({ x with desk }.run errands, running)

/-- The console's start. -/
def attach (x : Exchange) : Exchange :=
  let (desk, errands) := x.desk.attach
  { x with desk }.run errands

/-- Cancels the polling. -/
def shutdown (x : Exchange) : Exchange := { x with desk := x.desk.cancel }

/-! ### Time -/

/-- How late a poll may be, in milliseconds, without moving those after
it. -/
def tolerance : Nat := 5

/-- When a poller asks after a poll. -/
def nextDeadline (now interval deadline : Nat) : Nat :=
  if deadline + tolerance < now then now + interval else deadline + interval

/-- Lets a poller ask if it is due. -/
def poll (x : Exchange) (i : Nat) (p : Poller) : Exchange :=
  if p.cancelled || x.desk.now < p.deadline then x
  else
    let deadline := nextDeadline x.desk.now x.desk.interval p.deadline
    let desk := { x.desk with pollers := x.desk.pollers.set i { p with deadline } }
    { x with desk }.ask .status (.polled p.generation)

/-- Lets time pass in one go; each poller that is due asks once. -/
def advance (x : Exchange) (ms : Nat) : Exchange :=
  let x := { x with desk := { x.desk with now := x.desk.now + ms } }
  x.desk.pollers.zipIdx.foldl (fun x (p, i) => x.poll i p) x

/-! ### Delivery -/

/-- Delivers the oldest answer. -/
def deliverOne (x : Exchange) : Exchange × Option Delivery :=
  match x.waiting with
  | [] => (x, none)
  | d :: waiting => (({ x with waiting }.handle (.deliver d)).1, some d)

/-- Delivers up to so many answers, also such as come in meanwhile. -/
def deliver (x : Exchange) : Nat → Exchange × List Delivery
  | 0 => (x, [])
  | n + 1 =>
    match x.deliverOne with
    | (x, none) => (x, [])
    | (x, some d) =>
      let (x, more) := x.deliver n
      (x, d :: more)

/-- Delivers every answer.  One answer leads at most to a request for the
inventory, whose answer leads to none. -/
def deliverAll (x : Exchange) : Exchange × List Delivery := x.deliver (2 * x.waiting.length)

end Exchange

end VmAssessment
