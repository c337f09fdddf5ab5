import Mathlib.Algebra.Ring.Nat
import Qaneris.Interfaces.Frames
import Qaneris.Runtime.EventLog

/-!
# Observing a run

`GET /api/runs/{run_id}/stream`: the generator `observe` polls the event log behind its cursor, and ends
at the event that settles the run, or five seconds after it first saw a settled status. A client reads
the frames; when its connection breaks it comes back with the same URL and the id of the last event it
has received. Writers, other requests and the clock go on between any two steps.
-/

namespace Interfaces

open Runtime (EventLog Run RunEvent RunEventType RunStatus Store WriteStep)

/-! ## The server -/

/-- The event that a settled status is announced by. -/
def terminalEvent : RunStatus → Option RunEventType
  | .completed => some .runCompleted
  | .failed => some .runFailed
  | .cancelled => some .runCancelled
  | .blocked => some .runBlocked
  | .waitingUser => some .clarificationRequired
  | _ => none

/-- The cursor of `stream_run`. `int` is Python's; a header without a number counts as zero. -/
def startCursor (int : String → Option Int) (afterSequence : Nat) (lastEventId : Option String) : Nat :=
  match lastEventId with
  | some header =>
    if header ≠ "" ∧ afterSequence = 0 then ((int header).getD 0).toNat else afterSequence
  | none => afterSequence

/-- A retry or an answered clarification that no worker has taken up: the status is the old one. -/
def isQueued (run : Run) : Bool :=
  (run.status = .failed ∧ run.currentStage = "retry_queued") ∨
    (run.status = .waitingUser ∧ run.currentStage = "resume_queued")

/-- How the generator ended. -/
inductive End where
  | terminal (event : RunEvent)
  | expired
  | broken
  deriving DecidableEq, Repr

/-- The next line of `observe`. -/
inductive Phase where
  | polling
  | yielding (events : List RunEvent)
  | reading
  | checking (type : RunEventType)
  | expiring
  | ended (how : End)
  deriving DecidableEq, Repr

/-- One request: the generator, the frames on their way, and what the client has got from it. -/
structure Connection where
  cursor : Nat
  phase : Phase := .polling
  terminalSeenAt : Option Nat := none
  transit : List RunEvent := []
  start : Nat
  delivered : List RunEvent := []
  deriving DecidableEq, Repr

/-- Five seconds of the monotonic clock, in nanoseconds. -/
def terminalPatience : Nat := 5 * 10 ^ 9

namespace Connection

/-- The generator's next step. -/
def serve (c : Connection) (runId : String) (store : Store) (monotonic : Nat) : Connection :=
  match c.phase with
  | .polling => { c with phase := .yielding (store.eventsAfter runId c.cursor) }
  | .yielding (event :: events) =>
    { c with
      cursor := event.sequence
      transit := c.transit ++ [event]
      phase := .yielding events }
  | .yielding [] => { c with phase := .reading }
  | .reading =>
    match store.get runId with
    | .error _ => { c with phase := .ended .broken }
    | .ok run =>
      if isQueued run then { c with phase := .polling }
      else
        match terminalEvent run.status with
        | some type => { c with phase := .checking type }
        | none => { c with phase := .polling }
  | .checking type =>
    match store.lastEvent runId with
    | some last =>
      if last.eventType = type ∧ last.sequence ≤ c.cursor then
        { c with phase := .ended (.terminal last) }
      else { c with phase := .expiring, terminalSeenAt := c.terminalSeenAt.or (some monotonic) }
    | none => { c with phase := .expiring, terminalSeenAt := c.terminalSeenAt.or (some monotonic) }
  | .expiring =>
    if terminalPatience < monotonic - c.terminalSeenAt.getD monotonic then
      { c with phase := .ended .expired }
    else { c with phase := .polling }
  | .ended _ => c

end Connection

/-! ## The client -/

/-- A connection that is over: the cursor it began with and what came through. -/
structure Session where
  start : Nat
  delivered : List RunEvent
  deriving DecidableEq, Repr

/-- A client of one URL. -/
structure Client where
  runId : String
  afterSequence : Nat
  past : List Session := []
  connection : Option Connection := none
  finished : Option End := none
  deriving DecidableEq, Repr

/-- Its connections in order, the one that is open among them. -/
def Client.sessions (client : Client) : List Session :=
  client.past ++ client.connection.toList.map fun c => ⟨c.start, c.delivered⟩

def Client.received (client : Client) : List RunEvent :=
  client.sessions.flatMap Session.delivered

/-- `Last-Event-ID` -/
def Client.lastEventId (client : Client) : Option String :=
  client.received.getLast?.map fun event => toString event.sequence

/-! ## The whole system -/

structure System where
  log : EventLog
  monotonic : Nat := 0
  client : Client

inductive Act where
  | write (writer : Nat) (step : WriteStep)
  | update (runs : List Run)
  | tick (elapsed : Nat)
  | connect
  | serve
  | deliver
  | disconnect
  | finish

namespace System

variable (int : String → Option Int)

/-- What the client's own connection does. -/
def onConnection (s : System) (f : Connection → Option Client) : Option System :=
  match s.client.connection with
  | some c => (f c).map fun client => { s with client }
  | none => none

def act (s : System) : Act → Option System
  | .write writer step => (s.log.write writer step).map fun log => { s with log }
  -- the rows of the runs change under the stream in any way
  | .update runs => some { s with log := { s.log with store := { s.log.store with runs } } }
  | .tick elapsed => some { s with monotonic := s.monotonic + elapsed }
  | .connect =>
    if s.client.connection = none ∧ s.client.finished = none then
      let start := startCursor int s.client.afterSequence s.client.lastEventId
      some { s with client := { s.client with connection := some { cursor := start, start } } }
    else none
  | .serve => s.onConnection fun c =>
    some { s.client with connection := some (c.serve s.client.runId s.log.store s.monotonic) }
  | .deliver => s.onConnection fun c =>
    match c.transit with
    | event :: transit => some { s.client with
        connection := some { c with transit, delivered := c.delivered ++ [event] } }
    | [] => none
  | .disconnect => s.onConnection fun c =>
    some { s.client with
      past := s.client.past ++ [⟨c.start, c.delivered⟩], connection := none }
  -- the end of the response, which comes behind its last frame
  | .finish => s.onConnection fun c =>
    match c.phase, c.transit with
    | .ended (.terminal event), [] => some { s.client with
        past := s.client.past ++ [⟨c.start, c.delivered⟩], connection := none
        finished := some (.terminal event) }
    | .ended .expired, [] => some { s.client with
        past := s.client.past ++ [⟨c.start, c.delivered⟩], connection := none
        finished := some .expired }
    | _, _ => none

def run (s : System) : List Act → Option System
  | [] => some s
  | a :: acts => (s.act int a).bind fun s' => s'.run acts

end System

/-- Before the first writer and the first connection. -/
def System.initial (runId : String) (afterSequence : Nat) (runs : List Run) : System where
  log := { store := { runs } }
  client := { runId, afterSequence }

end Interfaces
