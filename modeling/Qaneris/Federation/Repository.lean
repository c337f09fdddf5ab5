import Mathlib.Data.List.Sort
import Qaneris.Federation.Models

/-!
# Federation checkpoints

The tables behind a federated run. Every operation is one transaction: it either returns the new
store or raises, and then the store is the one it started from. A document column holds the value
that was dumped into it.
-/

namespace Federation

structure TaskRow where
  taskId : String
  runId : String
  ordinal : Nat
  state : SourceTask
  revision : Nat
  deriving DecidableEq, Repr

structure MappingRow where
  mappingId : String
  workspaceId : String
  state : JoinMapping
  revision : Nat := 0
  deriving DecidableEq, Repr

/-- The three tables, rows in the order they were inserted. -/
structure Store where
  plans : List (String × FederatedPlan) := []
  tasks : List TaskRow := []
  mappings : List MappingRow := []
  deriving DecidableEq, Repr

namespace Store

/-! ## Plans and source tasks -/

def plan (s : Store) (runId : String) : Option FederatedPlan :=
  s.plans.lookup runId

/-- `INSERT INTO federated_source_task`; both `task_id` and `(run_id, ordinal)` are unique. -/
def insertTask (rows : List TaskRow) (task : SourceTask) : Except Failure (List TaskRow) :=
  if rows.any fun row => row.taskId = task.taskId then .error .integrityError
  else if rows.any fun row => row.runId = task.runId ∧ row.ordinal = task.ordinal then
    .error .integrityError
  else .ok (rows ++ [{
    taskId := task.taskId, runId := task.runId, ordinal := task.ordinal,
    state := task, revision := task.revision }])

def insertTasks (rows : List TaskRow) (tasks : List SourceTask) : Except Failure (List TaskRow) :=
  tasks.foldlM insertTask rows

def createPlan (s : Store) (plan : FederatedPlan) : Except Failure (Store × FederatedPlan) :=
  match s.plan plan.runId with
  | some existing => .ok (s, existing)
  | none =>
    match insertTasks s.tasks plan.sourceTasks with
    | .error e => .error e
    | .ok tasks => .ok ({ s with plans := s.plans ++ [(plan.runId, plan)], tasks }, plan)

/-- `SELECT state_json … WHERE run_id=? ORDER BY ordinal` -/
def tasksOf (s : Store) (runId : String) : List SourceTask :=
  ((s.tasks.filter fun row => row.runId = runId).insertionSort
    fun a b => a.ordinal ≤ b.ordinal).map TaskRow.state

/-- The task as `save_task` writes it. -/
def advance (task : SourceTask) : SourceTask :=
  { task with revision := task.revision + 1 }

/-- `WHERE task_id=? AND revision=?` -/
def Hits (task : SourceTask) (row : TaskRow) : Prop :=
  row.taskId = task.taskId ∧ row.revision = task.revision

instance (task : SourceTask) (row : TaskRow) : Decidable (Hits task row) :=
  inferInstanceAs (Decidable (_ ∧ _))

def updateRow (task : SourceTask) (row : TaskRow) : TaskRow :=
  if Hits task row then { row with state := advance task, revision := task.revision + 1 } else row

def saveTask (s : Store) (task : SourceTask) : Except Failure (Store × SourceTask) :=
  if s.tasks.countP (fun row => Hits task row) = 1 then
    .ok ({ s with tasks := s.tasks.map (updateRow task) }, advance task)
  else .error (.valueError "source task revision conflict")

/-! ## Join mappings -/

def mapping (s : Store) (mappingId : String) : Except Failure JoinMapping :=
  match s.mappings.find? fun row => row.mappingId = mappingId with
  | some row => .ok row.state
  | none => .error (.keyError mappingId)

/-- `SELECT state_json … WHERE workspace_id=? ORDER BY mapping_id` -/
def mappingsOf (s : Store) (workspaceId : String) : List JoinMapping :=
  ((s.mappings.filter fun row => row.workspaceId = workspaceId).insertionSort
    fun a b => a.mappingId ≤ b.mappingId).map MappingRow.state

def saveMapping (s : Store) (now : Instant) (m : JoinMapping) (expectedStatus : JoinMappingStatus) :
    Except Failure (Store × JoinMapping) := do
  let current ← s.mapping m.mappingId
  if current.status ≠ expectedStatus then throw (.valueError "join mapping state conflict")
  let s' : Store := { s with
    mappings := s.mappings.map fun row =>
      if row.mappingId = m.mappingId then
        { row with state := { m with updatedAt := now }, revision := row.revision + 1 }
      else row }
  return (s', ← s'.mapping m.mappingId)

end Store

end Federation
