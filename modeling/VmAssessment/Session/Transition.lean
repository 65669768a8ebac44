/-
VmAssessment/Session/Transition.lean

How a session moves: `ready → connecting → connected → collecting →
collected`, with `error` reachable from anywhere.  `step` is a function of
the session and an event.  Every accepted start or stop opens a new
generation, and replies of another generation change nothing.
-/
import VmAssessment.Session.Basic

namespace VmAssessment

namespace Session

/-- Nothing changes and nothing is to be done. -/
def unchanged (s : Session) (outcome : Outcome) : Transition := ⟨s, [], outcome⟩

/-- What an error report without a text is said to be. -/
def collectionFailed : String := "Collection failed"

/-- The collection is over with an error. -/
def fail (s : Session) (message : String) : Transition :=
  ⟨{ s with phase := .error, error := some message, busy := false }, [.stopPolling], .applied⟩

/-- Takes over whether the agent has credentials, if the report says so. -/
def noteCredentials (s : Session) (r : StatusReport) : Session :=
  { s with hasCredentials := r.hasCredentials.getD s.hasCredentials }

/-- Applies a report along the way forward.  `before` is the session before
the reply; `s` is that session with what the reply alone changes. -/
def advance (before s : Session) (r : StatusReport) : Transition :=
  let s := s.noteCredentials r
  if r.phase = .error then s.fail (r.error.getD collectionFailed)
  else if before.phase.isBehind r.phase then
    ⟨{ s with phase := r.phase },
      if r.phase = .collected then [.stopPolling, .fetchInventory s.generation] else [], .applied⟩
  else ⟨s, [], if s = before then .ignored else .applied⟩

/-- A collection is asked for. -/
def start (s : Session) (credentials : Credentials) : Transition :=
  if s.phase.canStart then
    let generation := s.generation.next
    -- Polling waits for the reply: until then the agent may still report
    -- the phase of the session before.
    ⟨{ s with phase := .connecting, error := none, busy := true, generation },
      [.connect generation credentials], .applied⟩
  else s.unchanged (.rejected .alreadyRunning)

/-- The agent answered the start. -/
def startResolved (s : Session) (r : StatusReport) : Transition :=
  let t := advance s { s with busy := false } r
  if t.next.phase.isActive then
    ⟨t.next, t.effects ++ [.startPolling t.next.generation], .applied⟩
  else t

/-- The collection is to be stopped.  The agent is told only if it may have
one in flight. -/
def stop (s : Session) : Transition :=
  if s.phase = .ready then s.unchanged (.rejected .nothingToStop)
  else
    let inFlight := s.phase.isActive || s.busy
    let generation := s.generation.next
    ⟨{ s with phase := .ready, error := none, busy := inFlight, generation },
      .stopPolling :: if inFlight then [.disconnect generation] else [], .applied⟩

/-- The agent answered the stop, or could not be told. -/
def stopAnswered (s : Session) : Transition :=
  if s.busy then ⟨{ s with busy := false }, [], .applied⟩ else s.unchanged .ignored

/-- A poll brought a report. -/
def pollResolved (s : Session) (r : StatusReport) : Transition :=
  if s.phase.isActive then advance s s r else s.unchanged .ignored

/-- The agent's status is taken over as it is. -/
def statusSynced (s : Session) (r : StatusReport) : Transition :=
  let error := if r.phase = .error then some (r.error.getD collectionFailed) else none
  let s := { s with phase := r.phase, error }.noteCredentials r
  let effects :=
    if s.phase.isActive then [.startPolling s.generation]
    else if s.phase = .collected then [.fetchInventory s.generation]
    else []
  ⟨s, effects, .applied⟩

/-- What a current event does. -/
def apply (s : Session) : Event → Transition
  | .attach => ⟨s, [.syncStatus s.generation], .applied⟩
  | .start credentials => s.start credentials
  | .startResolved _ r => s.startResolved r
  | .startFailed _ message | .statusFetchFailed _ message => s.fail message
  | .stop => s.stop
  | .stopResolved _ | .stopFailed _ _ => s.stopAnswered
  | .pollResolved _ r => s.pollResolved r
  | .statusSynced _ r => s.statusSynced r

/-- Whether an event answers a request of another generation. -/
def isStale (s : Session) (e : Event) : Bool := e.tag?.any (· != s.generation)

/-- What an event does. -/
def step (s : Session) (e : Event) : Transition :=
  if s.isStale e then s.unchanged .stale else s.apply e

end Session

end VmAssessment
