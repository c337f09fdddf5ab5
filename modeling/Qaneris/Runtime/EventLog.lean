import Qaneris.Runtime.Repository

/-!
# Writers of the event log

`append_event` step by step. The transaction is opened by `BEGIN IMMEDIATE`, which takes the write lock
of the database; the number of the event is read, the row is inserted, and readers see it from the
commit on. Any number of writers may be at any of these steps.
-/

namespace Runtime

open Contracts (Instant)
open Infra (Json)

/-- The arguments of `append_event`, and the time it was called. -/
structure Append where
  runId : String
  eventType : RunEventType
  publicPayload : List (String × Json) := []
  occurredAt : Instant
  deriving DecidableEq, Repr

/-- The event of a call, once it has its number. -/
def Append.event (call : Append) (sequence : Nat) : RunEvent where
  runId := call.runId
  sequence := sequence
  eventType := call.eventType
  occurredAt := call.occurredAt
  publicPayload := call.publicPayload

/-- Where a writer is in its transaction. -/
inductive Writer where
  | idle
  | begun (call : Append)
  | numbered (call : Append) (sequence : Nat)
  | inserted (event : RunEvent)
  deriving DecidableEq, Repr

/-- The committed tables, the holder of the write lock, and the writers. -/
structure EventLog where
  store : Store := {}
  holder : Option Nat := none
  writers : Nat → Writer := fun _ => .idle

inductive WriteStep where
  | begin (call : Append)
  | number
  | insert
  | commit
  | rollback
  deriving Repr

namespace EventLog

def setWriter (log : EventLog) (w : Nat) (writer : Writer) : EventLog :=
  { log with writers := Function.update log.writers w writer }

/-- The row of an event, which `PRIMARY KEY(run_id, sequence)` allows once. -/
def conflicts (store : Store) (event : RunEvent) : Bool :=
  store.events.any fun e => e.runId = event.runId ∧ e.sequence = event.sequence

/-- One step of one writer; none where it is not at that step, waits for the lock, or fails. -/
def write (log : EventLog) (w : Nat) : WriteStep → Option EventLog
  | .begin call =>
    if log.holder = none ∧ log.writers w = .idle then
      some { log.setWriter w (.begun call) with holder := some w }
    else none
  | .number =>
    match log.writers w with
    | .begun call => some (log.setWriter w (.numbered call (log.store.nextSequence call.runId)))
    | _ => none
  | .insert =>
    match log.writers w with
    | .numbered call sequence =>
      if conflicts log.store (call.event sequence) then none
      else some (log.setWriter w (.inserted (call.event sequence)))
    | _ => none
  | .commit =>
    match log.writers w with
    | .inserted event =>
      some { log.setWriter w .idle with
        store := { log.store with events := log.store.events ++ [event] }, holder := none }
    | _ => none
  -- an exception or the end of the process, at any step
  | .rollback =>
    if log.holder = some w then some { log.setWriter w .idle with holder := none } else none

end EventLog

end Runtime
