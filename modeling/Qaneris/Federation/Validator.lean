import Qaneris.Infra.Text
import Qaneris.Federation.Governance

/-!
# Validation of a federated draft

`FederatedPlanValidator.validate`: the checks on a draft in the order they are made, and the plan
that is built once they all hold.
-/

namespace Federation

open Contracts (BusinessQuery)

/-! ## Native query text -/

def nativeWords : List String :=
  ["select", "insert", "update", "delete", "drop", "alter", "create", "from", "where", "join",
   "hgetall", "smembers", "lrange", "mget", "redis_command", "pipeline", "script", "eval", "exec"]

/-- `\bdb\.\w+` at this place. -/
def dbCallAt (before : Option Char) (text : List Char) : Bool :=
  Infra.wordBoundary before text.head? &&
    match Infra.dropWord ['d', 'b', '.'] text with
    | some rest => rest.head?.any Infra.isWord
    | none => false

def nativeAt (before : Option Char) (text : List Char) : Bool :=
  nativeWords.any (fun word => Infra.wordAt word.toList before text) ||
    (Infra.dropWord "$match".toList text).isSome || (Infra.dropWord "$group".toList text).isSome ||
    dbCallAt before text

/-- `_NATIVE.search(text)` -/
def nativeSearch (text : String) : Bool :=
  Infra.searchFrom nativeAt none text.toList

/-! ## The checks -/

/-- `f"source_{index + 1}"` -/
def sourceTaskId (index : Nat) : String :=
  "source_" ++ Nat.repr (index + 1)

def sourceTaskIds (count : Nat) : List String :=
  (List.range count).map sourceTaskId

def expectedShapeOf : MergeOperation → ExpectedShape
  | .compareScalars | .combineScalars => .scalar
  | .unionRows | .keyedJoin => .rows
  | .alignTimeSeries => .timeSeries

namespace FederatedPlanDraft

def sources (draft : FederatedPlanDraft) : List String :=
  draft.sourceTasks.map SourceTaskDraft.datasourceId

/-- The checks before the join mapping. -/
def checkSources (draft : FederatedPlanDraft) (scope : ExecutionScope) (clock : Instant) :
    Except Failure Unit := do
  if clock ≥ scope.deadline then throw (.federation "federation_deadline_exceeded" false false)
  if ¬ (2 ≤ draft.sourceTasks.length ∧ (draft.sourceTasks.length : Int) ≤ scope.maxSources) then
    throw (.blocked "federation_source_limit")
  if draft.sourceTasks.length * scope.maxRowsPerSource > scope.maxTotalRows then
    throw (.blocked "federation_budget_exceeded")
  if draft.sources.any fun source => ¬ scope.allowedDatasourceIds.contains source then
    throw (.blocked "forbidden_datasource")
  if ¬ draft.sources.Nodup then throw (.blocked "duplicate_source_task")
  if draft.sourceTasks.any fun item => nativeSearch item.question || nativeSearch item.purpose then
    throw (.blocked "native_query_forbidden")
  if draft.merge.options ≠ [] then throw (.blocked "unsupported_merge_options")
  if draft.merge.inputTaskIds ≠ [] ∧
      draft.merge.inputTaskIds ≠ sourceTaskIds draft.sources.length then
    throw (.blocked "unknown_source_task_reference")

/-- An optional text that Python takes for true. -/
def given (text : Option String) : Bool :=
  text.any fun t => t ≠ ""

/-- The join mapping: one is required for a keyed join and refused for anything else. -/
def checkMapping (draft : FederatedPlanDraft) (scope : ExecutionScope) (versions : ActiveVersions)
    (clock : Instant) (s : Store) : Store × Except Failure Unit :=
  if draft.merge.operation = .keyedJoin then
    if ¬ scope.allowCrossSourceJoin ∨ ¬ given draft.merge.mappingId then
      (s, .error (.blocked "unconfirmed_mapping"))
    else if draft.sources.length ≠ 2 ∨ draft.merge.joinMode = none then
      (s, .error (.blocked "invalid_join_plan"))
    else
      match executable versions clock s (draft.merge.mappingId.getD "") scope.workspaceId
          draft.sources with
      | (s', .error e) => (s', .error e)
      | (s', .ok m) =>
        if draft.sources ≠ [m.left.datasourceId, m.right.datasourceId] then
          (s', .error (.blocked "join_mapping_source_mismatch"))
        else (s', .ok ())
  else if given draft.merge.mappingId ∨ draft.merge.joinMode ≠ none then
    (s, .error (.blocked "unexpected_join_mapping"))
  else (s, .ok ())

/-- The checks after the join mapping. -/
def checkShape (draft : FederatedPlanDraft) : Except Failure Unit := do
  if draft.sourceTasks.any fun task =>
      task.expectedShape ≠ expectedShapeOf draft.merge.operation then
    throw (.blocked "merge_shape_mismatch")
  if draft.merge.operation = .combineScalars ∧ draft.merge.scalarOperation = none then
    throw (.blocked "missing_scalar_operation")
  if draft.merge.operation = .combineScalars ∧
      draft.merge.scalarOperation = some .percentageDifference then
    throw (.blocked "unsupported_scalar_operation")
  if draft.merge.operation ≠ .compareScalars ∧ draft.merge.operation ≠ .combineScalars ∧
      draft.merge.scalarOperation ≠ none then
    throw (.blocked "unexpected_scalar_operation")

/-! ## The plan -/

/-- What `validate` does not compute itself: the clock, the fresh identifier of the plan, the active
snapshots, and the run the plan is made for. -/
structure Request where
  clock : Instant
  uuid : String
  versions : ActiveVersions
  scope : ExecutionScope
  runId : String
  question : String
  businessQuery : Option BusinessQuery

def toTask (request : Request) (index : Nat) (item : SourceTaskDraft) : SourceTask :=
  { toSourceTaskDraft := item
    taskId := sourceTaskId index
    runId := request.runId
    planId := request.uuid
    ordinal := index }

def toPlan (draft : FederatedPlanDraft) (request : Request) : FederatedPlan :=
  { planId := request.uuid
    runId := request.runId
    workspaceId := request.scope.workspaceId
    question := request.question
    sourceTasks := draft.sourceTasks.mapIdx (toTask request)
    mergePlan := { draft.merge with inputTaskIds := sourceTaskIds draft.sources.length }
    executionScope := request.scope
    businessQuery := request.businessQuery
    createdAt := request.clock }

end FederatedPlanDraft

open FederatedPlanDraft

def validate (draft : FederatedPlanDraft) (request : Request) (s : Store) :
    Store × Except Failure FederatedPlan :=
  match draft.checkSources request.scope request.clock with
  | .error e => (s, .error e)
  | .ok () =>
    match draft.checkMapping request.scope request.versions request.clock s with
    | (s', .error e) => (s', .error e)
    | (s', .ok ()) =>
      match draft.checkShape with
      | .error e => (s', .error e)
      | .ok () => (s', .ok (draft.toPlan request))

end Federation
