import Mathlib.Data.List.Sort
import Qaneris.Diagnostics.Models

/-!
# Diagnostic checkpoints

`SQLiteDiagnosticRepository`: one checkpoint for each run and its tasks. A document column holds the
value that was dumped into it.
-/

namespace Diagnostics

open Runtime (Failure)

structure CheckpointRow where
  runId : String
  state : DiagnosticCheckpoint
  revision : Nat := 0
  deriving DecidableEq, Repr

structure TaskRow where
  id : String
  runId : String
  round : Int
  ordinal : Nat
  state : DiagnosticTask
  revision : Nat := 0
  deriving DecidableEq, Repr

structure Store where
  checkpoints : List CheckpointRow := []
  tasks : List TaskRow := []
  deriving DecidableEq, Repr

namespace Store

/-! ## Checkpoints -/

def checkpointRow (s : Store) (runId : String) : Option CheckpointRow :=
  s.checkpoints.find? fun row => row.runId = runId

/-- `INSERT OR IGNORE`, then the row that is there. -/
def checkpoint (s : Store) (runId : String) : Store × DiagnosticCheckpoint :=
  match s.checkpointRow runId with
  | some row => (s, row.state)
  | none =>
    ({ s with checkpoints := s.checkpoints ++ [{ runId, state := { runId } }] }, { runId })

/-- `UPDATE diagnostic_checkpoint SET … WHERE run_id=? AND revision=?` -/
def writeCheckpoint (s : Store) (updated : DiagnosticCheckpoint) (expectedRevision : Nat) :
    Except Failure Store :=
  match s.checkpointRow updated.runId with
  | some row =>
    if row.revision = expectedRevision then
      .ok { s with checkpoints := s.checkpoints.map fun row =>
        if row.runId = updated.runId then { row with state := updated, revision := updated.revision }
        else row }
    else .error (.value "diagnostic checkpoint revision conflict")
  | none => .error (.value "diagnostic checkpoint revision conflict")

def saveCheckpoint (s : Store) (state : DiagnosticCheckpoint) :
    Except Failure (Store × DiagnosticCheckpoint) := do
  let updated := { state with revision := state.revision + 1 }
  let s' ← s.writeCheckpoint updated state.revision
  return (s', updated)

/-! ## Tasks -/

/-- `ORDER BY round, ordinal` -/
def tasksOf (s : Store) (runId : String) : List DiagnosticTask :=
  ((s.tasks.filter fun row => row.runId = runId).insertionSort fun a b =>
    a.round < b.round ∨ a.round = b.round ∧ a.ordinal ≤ b.ordinal).map TaskRow.state

/-- `INSERT INTO diagnostic_task`; `id` is unique, and so is `(run_id, round, ordinal)`. -/
def insertTask (rows : List TaskRow) (task : DiagnosticTask) : Except Failure (List TaskRow) :=
  if rows.any fun row => row.id = task.id ∨
      (row.runId = task.runId ∧ row.round = task.round ∧ row.ordinal = task.ordinal) then
    .error .integrity
  else .ok (rows ++ [{
    id := task.id, runId := task.runId, round := task.round, ordinal := task.ordinal, state := task }])

/-- A batch of tasks and the budget it takes, in one transaction. -/
def planRound (s : Store) (checkpoint : DiagnosticCheckpoint) (tasks : List DiagnosticTask) :
    Except Failure (Store × DiagnosticCheckpoint) := do
  let planned := tasks.countP fun task => task.status = .planned
  let updated := { checkpoint with
    revision := checkpoint.revision + 1
    currentRound := checkpoint.currentRound + 1
    questionsPlanned := checkpoint.questionsPlanned + planned
    remainingBudget := checkpoint.remainingBudget - planned }
  let s' ← s.writeCheckpoint updated checkpoint.revision
  let rows ← tasks.foldlM insertTask s'.tasks
  return ({ s' with tasks := rows }, updated)

/-- `UPDATE diagnostic_task SET … WHERE id=? AND revision=?` -/
def saveTask (s : Store) (task : DiagnosticTask) : Except Failure (Store × DiagnosticTask) :=
  match s.tasks.find? fun row => row.id = task.id with
  | some row =>
    if row.revision = task.revision then
      let updated := { task with revision := task.revision + 1 }
      .ok ({ s with tasks := s.tasks.map fun row =>
        if row.id = task.id then { row with state := updated, revision := updated.revision }
        else row }, updated)
    else .error (.value "diagnostic task revision conflict")
  | none => .error (.value "diagnostic task revision conflict")

end Store

end Diagnostics
