import Mathlib.Algebra.Ring.Nat
import Qaneris.Runtime.World

/-!
# Driving a federated run

`FederatedQuestionCapability`: the plan is made once and kept, each of its source tasks is one Ask
invocation with a checkpoint of its own, and the completed tasks are merged into one answer.
-/

namespace Federation

open Contracts (AskRequest AskResponse BusinessQuery)
open Infra (Json)
open Infra.Program (attempt ofExcept)
open Runtime (AskEventRecord AskStream MappingSummary Orchestrator Prog RoutingDecision Run RunStatus
  ask askOk onFederation reading storeCall)

/-- `_TRANSIENT` -/
def transient : List String :=
  ["model_invocation_failed", "graph_unavailable", "datasource_unavailable", "timeout",
   "temporary_unavailable", "rate_limited", "transient_network", "task_interrupted",
   "run_interrupted"]

/-- `_OPERATIONS` -/
def operations : List MergeOperation :=
  [.compareScalars, .combineScalars, .unionRows, .alignTimeSeries, .keyedJoin]

/-- `merge_plan.operation` as it is written in an event. -/
def MergeOperation.value : MergeOperation → String
  | .compareScalars => "compare_scalars"
  | .combineScalars => "combine_scalars"
  | .unionRows => "union_rows"
  | .alignTimeSeries => "align_time_series"
  | .keyedJoin => "keyed_join"

/-- `raise FederationFailure(code, blocked=True)` -/
def blocked {α : Type} (code : String) (h : code ∉ Runtime.retryableCodes := by decide) : Prog α :=
  .throw (.federationBlocked code h)

variable (self : Orchestrator)

/-! ## The mapping of a join -/

/-- A side whose scan is no longer the active one makes the mapping stale. -/
def checkSides (m : JoinMapping) : List MappingSide → Prog JoinMapping
  | [] => pure m
  | side :: sides => do
    let version ← askOk (.activeVersion side.datasourceId) rfl
    if version = none ∨ version ≠ side.scanVersion then
      let now ← ask .clock
      let _ ← storeCall (onFederation fun s => s.saveMapping now { m with status := .stale } .confirmed)
      blocked "stale_join_mapping"
    else checkSides m sides

/-- `governance.executable`, one transaction after the other. -/
def executableMapping (mappingId workspaceId : String) (sources : List String) : Prog JoinMapping := do
  match ← attempt (storeCall (onFederation (reading fun s => s.mapping mappingId))) with
  | .error e => if e = .key mappingId then blocked "unconfirmed_mapping" else .throw e
  | .ok m =>
    if m.workspaceId ≠ workspaceId ∨ m.status ≠ .confirmed then blocked "unconfirmed_mapping"
    else if ¬ sameSet [m.left.datasourceId, m.right.datasourceId] sources then
      blocked "join_mapping_source_mismatch"
    else checkSides m m.sides

/-- The mapping that a plan joins its sources by. -/
def mappingOf (plan : FederatedPlan) (workspaceId : String) (sources : List String) :
    Prog (Option JoinMapping) :=
  if FederatedPlanDraft.given plan.mergePlan.mappingId then
    some <$> executableMapping (plan.mergePlan.mappingId.getD "") workspaceId sources
  else pure none

/-! ## Planning -/

def checkMapping (draft : FederatedPlanDraft) (scope : ExecutionScope) : Prog Unit :=
  if draft.merge.operation = .keyedJoin then
    if ¬ scope.allowCrossSourceJoin ∨ ¬ FederatedPlanDraft.given draft.merge.mappingId then
      blocked "unconfirmed_mapping"
    else if draft.sources.length ≠ 2 ∨ draft.merge.joinMode = none then blocked "invalid_join_plan"
    else do
      let m ← executableMapping (draft.merge.mappingId.getD "") scope.workspaceId draft.sources
      if draft.sources ≠ [m.left.datasourceId, m.right.datasourceId] then
        blocked "join_mapping_source_mismatch"
      else pure ()
  else if FederatedPlanDraft.given draft.merge.mappingId ∨ draft.merge.joinMode ≠ none then
    blocked "unexpected_join_mapping"
  else pure ()

/-- `validator.validate`, one transaction after the other. -/
def validateDraft (draft : FederatedPlanDraft) (scope : ExecutionScope) (runId question : String)
    (businessQuery : Option BusinessQuery) : Prog FederatedPlan := do
  let clock ← ask .clock
  ofExcept ((draft.checkSources scope clock).mapError .ofFederation)
  checkMapping draft scope
  ofExcept (draft.checkShape.mapError .ofFederation)
  let uuid ← ask .uuid
  let now ← ask .clock
  return draft.toPlan {
    clock := now, uuid, versions := fun _ => none, scope, runId, question, businessQuery }

/-- `_scope` -/
def scopeOf (workspaceId : String) (allowed : List String) (maxRows : Int) (now : Instant) :
    ExecutionScope :=
  let budget := self.federationBudget
  { workspaceId, allowedDatasourceIds := allowed
    maxSources := min budget.maxSources allowed.length
    maxRowsPerSource := min maxRows budget.maxRowsPerSource
    maxTotalRows := budget.maxTotalRows
    maxIntermediateBytes := budget.maxIntermediateBytes
    deadline := now + budget.deadlineSeconds * 1000000 }

def summaryOf (m : JoinMapping) : MappingSummary :=
  { mappingId := m.mappingId, businessKey := m.businessKey
    leftDatasourceId := m.left.datasourceId, rightDatasourceId := m.right.datasourceId
    leftGrain := m.left.grain, rightGrain := m.right.grain, cardinality := m.cardinality }

/-- The confirmed mappings between two allowed sources. -/
def mappingSummaries (mappings : List JoinMapping) (allowed : List String) : List MappingSummary :=
  (mappings.filter fun m => m.status = .confirmed ∧
    m.left.datasourceId ∈ allowed ∧ m.right.datasourceId ∈ allowed).map summaryOf

/-- The plan of a run that has none yet. -/
def makePlan (run : Run) (question : String) (memory : Conversations.SemanticMemory)
    (allowed : List String) (decision : RoutingDecision) : Prog FederatedPlan :=
  if ¬ self.federationModel ∨ ¬ self.federationService then
    blocked "federation_planner_unavailable"
  else do
    let now ← ask .clock
    let scope := scopeOf self run.workspaceId allowed run.maxRows now
    let mappings ← storeCall (onFederation (reading fun s => .ok (s.mappingsOf run.workspaceId)))
    self.appendEvent run.runId .federationDiscoveryStarted
      [("allowed_datasource_ids", .arr (allowed.map .str))]
    let draft : Except Runtime.Failure FederatedPlanDraft ← ask (.planFederation {
      question, businessQuery := decision.businessQuery, sources := decision.sources
      confirmedJoinMappings := mappingSummaries mappings allowed
      activeMetrics := memory.activeMetrics, activeDimensions := memory.activeDimensions
      activeTimeExpression := memory.activeTimeExpression
      allowedMergeOperations := operations, executionScope := scope })
    match draft with
    | .error e =>
      if e.cls = .federationFailure then .throw e else blocked "federation_planner_unavailable"
    | .ok draft =>
      let plan ← validateDraft draft scope run.runId question decision.businessQuery
      let plan ← storeCall (onFederation fun s => s.createPlan plan)
      self.appendEvent run.runId .federatedPlanReady
        [("plan_id", .str plan.planId), ("operation", .str plan.mergePlan.operation.value),
         ("datasource_ids", .arr (plan.sourceTasks.map fun task => .str task.datasourceId))]
      return plan

/-- A stored plan is checked against what is allowed now. -/
def resumePlan (run : Run) (allowed : List String) (plan : FederatedPlan) : Prog FederatedPlan :=
  if plan.sourceTasks.any fun task => task.datasourceId ∉ allowed then blocked "forbidden_datasource"
  else do
    let _ ← mappingOf plan run.workspaceId (plan.sourceTasks.map fun task => task.datasourceId)
    return plan

/-- The plan of a run: the one that is stored, or a new one. -/
def planOf (run : Run) (question : String) (memory : Conversations.SemanticMemory)
    (allowed : List String) (decision : RoutingDecision) : Prog FederatedPlan := do
  match ← storeCall (onFederation (reading fun s => .ok (s.plan run.runId))) with
  | none => makePlan self run question memory allowed decision
  | some plan => resumePlan run allowed plan

/-! ## One source task -/

/-- `f"{question}。用户澄清：{clarification}" if clarification else question` -/
def clarified (question : String) : Option String → String
  | none => question
  | some clarification =>
    if clarification = "" then question else question ++ "。用户澄清：" ++ clarification

def saveTask (task : SourceTask) : Prog SourceTask :=
  storeCall (onFederation fun s => s.saveTask task)

def tasksOf (runId : String) : Prog (List SourceTask) :=
  storeCall (onFederation (reading fun s => .ok (s.tasksOf runId)))

/-- `_fail_task` -/
def failTask {α : Type} (run : Run) (task : SourceTask) (code : String) : Prog α := do
  let retryable := decide (code ∈ transient)
  let _ ← saveTask { task with status := .failed, failureCode := some code, retryable }
  self.appendEvent run.runId .sourceTaskFailed
    [("source_task_id", .str task.taskId), ("datasource_id", .str task.datasourceId),
     ("failure_code", .str code)]
  .throw (.federationTransient code transient)

/-- The task of a cancelled run. -/
def skipTask (task : SourceTask) : Prog Unit := do
  let _ ← saveTask { task with status := .skipped, failureCode := some "cancelled" }

/-- What the records of an invocation have brought; `none` when the run was cancelled meanwhile. -/
abbrev Outcome := Option (Option AskResponse × Option Runtime.Failure)

/-- The records of an invocation, each asked for unless the run is cancelled. -/
def consume (run : Run) (task : SourceTask) (raised : Option Runtime.Failure)
    (response : Option AskResponse) (failure : Option Runtime.Failure) :
    List AskEventRecord → Prog Outcome
  | [] =>
    match raised with
    | some e => .throw e
    | none => self.unlessCancelled run none (return some (response, failure))
  | record :: records => do
    self.appendEvent run.runId .askProgress
      [("source_task_id", .str task.taskId), ("datasource_id", .str task.datasourceId),
       ("ask_event_type", .str record.event.eventType.value)]
    self.unlessCancelled run none
      (consume run task raised (record.response <|> response) (record.exception <|> failure) records)

def invokeAndConsume (run : Run) (task : SourceTask) (request : AskRequest) : Prog Outcome :=
  self.beforeInvoking run none do
    let stream ← Orchestrator.invoke run.runId (some task.taskId) request
    consume self run task stream.raised none none stream.records

/-- The rows and the bytes of one task completed before. -/
def taskSize (previous : SourceTask) : Except Runtime.Failure (Nat × Nat) :=
  if previous.status ≠ .completed then .ok (0, 0)
  else
    match previous.responseJson with
    | none => .error .validation
    | some response =>
      match response.result with
      | none => .error .missing
      | some result => .ok (result.rows.length, self.encodedSize result.rows)

def completedSize (tasks : List SourceTask) : Except Runtime.Failure (Nat × Nat) := do
  let sizes ← tasks.mapM (taskSize self)
  return ((sizes.map Prod.fst).sum, (sizes.map Prod.snd).sum)

/-- A completed response within its limits becomes the task's. -/
def completeTask (run : Run) (task : SourceTask) (scope : ExecutionScope) (response : AskResponse)
    (result : Contracts.AskResult) : Prog Unit :=
  let size := self.encodedSize result.rows
  if (result.rowCount : Int) > scope.maxRowsPerSource ∨ (size : Int) > scope.maxIntermediateBytes then
    failTask self run task "result_limit"
  else do
    let tasks ← tasksOf run.runId
    let (rows, bytes) ← ofExcept (completedSize self tasks)
    if (rows + result.rows.length : Int) > scope.maxTotalRows ∨
        (bytes + size : Int) > scope.maxIntermediateBytes then
      failTask self run task "result_limit"
    else
      let now ← ask .clock
      let completed ← saveTask { task with
        status := .completed, responseJson := some response, completedAt := some now }
      self.appendEvent run.runId .sourceTaskCompleted
        [("source_task_id", .str task.taskId), ("datasource_id", .str task.datasourceId),
         ("row_count", .int result.rowCount),
         ("source_started_at", .int (completed.startedAt.getD 0)), ("source_completed_at", .int now)]

/-- What becomes of a task whose invocation has answered. -/
def settleTask (run : Run) (task : SourceTask) (scope : ExecutionScope) (response : AskResponse) :
    Prog Unit :=
  if response.status = .clarificationRequired then do
    let message := response.clarificationText
    let _ ← saveTask { task with status := .waitingUser, responseJson := some response }
    let current ← Orchestrator.get run.runId
    self.waitForUser current (.clarification message task.taskId) message
      [("source_task_id", .str task.taskId)] (some task.taskId)
  else
    match response.result, response.evidence with
    | some result, some evidence =>
      if response.status ≠ .completed ∨ evidence.datasourceId ≠ task.datasourceId then
        failTask self run task ((response.error.map Contracts.ErrorDetail.code).getD
          "source_unverified_result")
      else completeTask self run task scope response result
    | _, _ => failTask self run task ((response.error.map Contracts.ErrorDetail.code).getD
        "source_unverified_result")

/-- `_execute_task` -/
def executeTask (run : Run) (task : SourceTask) (scope : ExecutionScope)
    (clarification : Option String) : Prog Unit := do
  let started ← ask .clock
  let question := clarified task.question clarification
  let task ← saveTask { task with
    status := .running, attempt := task.attempt + 1, startedAt := some started
    failureCode := none, retryable := false }
  self.appendEvent run.runId .sourceTaskStarted
    [("source_task_id", .str task.taskId), ("datasource_id", .str task.datasourceId),
     ("attempt", .int task.attempt)]
  let request ← Orchestrator.askRequest question scope.workspaceId (some task.datasourceId)
    scope.maxRowsPerSource
  match ← invokeAndConsume self run task request with
  | none => skipTask task
  | some (some response, none) => settleTask self run task scope response
  | some (_, failure) =>
    failTask self run task ((failure.bind fun e => e.code).getD "ask_failed")

/-- The tasks of a plan, each with its checkpoint; `false` when the run has stopped at one of them. -/
def runTasks (run : Run) (scope : ExecutionScope) (clarifications : List String) :
    List SourceTask → Prog Bool
  | [] => pure true
  | task :: tasks => self.unlessCancelled run false do
    let now ← ask .clock
    if now ≥ scope.deadline then .throw (.federation "federation_deadline_exceeded")
    else if task.status = .completed then runTasks run scope clarifications tasks
    else if task.status = .waitingUser ∧ clarifications = [] then
      Infra.Program.atomic (Runtime.note fun _ => [.passedOver run.runId])
      return false
    else if task.status = .failed ∧ ¬ task.retryable then
      .throw (.federation (if FederatedPlanDraft.given task.failureCode then task.failureCode.getD ""
        else "source_task_failed"))
    else
      executeTask self run task scope
        (if task.status = .waitingUser then clarifications.getLast? else none)
      let current ← Orchestrator.getNoting Runtime.nothing [] run.runId
        (Orchestrator.overran run.runId)
      if current.status = .waitingUser then return false
      else runTasks run scope clarifications tasks

/-! ## The answer -/

/-- `_record_memory` -/
def recordMemory (run : Run) (plan : FederatedPlan) (merged : MergedResult)
    (previous : Conversations.SemanticMemory) : Prog Unit :=
  match plan.businessQuery with
  | none => .throw .validation
  | some query => do
    let now ← ask .clock
    Orchestrator.putMemory run.conversationId {
      confirmedBusinessQuery := some query
      selectedDatasourceIds := plan.sourceTasks.map fun task => task.datasourceId
      activeMetrics := query.metrics, activeDimensions := query.dimensions
      activeTimeExpression := query.timeExpression, activeFilters := query.filters
      requestedOutput := query.requestedOutput, lastRunId := some run.runId
      lastResultShape := some {
        columns := merged.columns, rowCount := merged.rowCount, truncated := merged.truncated }
      evidenceRefs := ["federated_evidence:" ++ run.runId]
      diagnosticFindings := previous.diagnosticFindings, updatedAt := now }

/-- The evidence of one completed task. -/
def sourceEvidence (task : SourceTask) : Except Runtime.Failure (SourceEvidence × AskResponse) :=
  match task.responseJson, task.startedAt, task.completedAt with
  | some response, some startedAt, some completedAt =>
    match response.result, response.evidence with
    | some result, some evidence => .ok ({
        taskId := task.taskId, datasourceId := task.datasourceId
        scanVersion := evidence.scanVersion, sourceStartedAt := startedAt
        sourceCompletedAt := completedAt, rowCount := result.rowCount
        truncated := result.truncated }, response)
    | _, _ => .error .missing
  | none, _, _ => .error .validation
  | _, _, _ => .error .missing

/-- `AskResponse.model_validate(task.response_json)` for every task. -/
def responsesOf (tasks : List SourceTask) : Except Runtime.Failure (List (String × AskResponse)) :=
  tasks.mapM fun task =>
    match task.responseJson with
    | some response => .ok (task.taskId, response)
    | none => .error .validation

def evidenceOf (plan : FederatedPlan) (sources : List SourceEvidence) (merged : MergedResult) :
    FederatedEvidence :=
  { sourceEvidence := sources
    mergeOperation := plan.mergePlan.operation
    mergeMappingId := plan.mergePlan.mappingId
    inputRowCounts := sources.map fun source => (source.taskId, source.rowCount)
    outputRowCount := merged.rowCount
    truncated := merged.truncated
    warnings := merged.warnings }

def answerOf (question answer answerSource : String) (plan : FederatedPlan) (tasks : List SourceTask)
    (merged : MergedResult) (evidence : FederatedEvidence) : Runtime.FederatedAnswer :=
  { question, answer, answerSource, planId := plan.planId, operation := plan.mergePlan.operation
    datasourceIds := tasks.map fun task => task.datasourceId
    sourceTasks := tasks.map fun task => {
      taskId := task.taskId, datasourceId := task.datasourceId, status := task.status
      attempt := task.attempt }
    mergedResult := self.safeMerged merged, federatedEvidence := evidence }

/-- The merge of the completed tasks, and the end of the run. -/
def mergeAndAnswer (run : Run) (question : String) (memory : Conversations.SemanticMemory)
    (plan : FederatedPlan) (tasks : List SourceTask) : Prog Unit := do
  let responses ← ofExcept (responsesOf tasks)
  let mapping ← mappingOf plan run.workspaceId (tasks.map fun task => task.datasourceId)
  self.appendEvent run.runId .mergeStarted [("operation", .str plan.mergePlan.operation.value)]
  let merged ← askOk (.merge plan.mergePlan responses plan.executionScope mapping) rfl
  let sources ← ofExcept (tasks.mapM sourceEvidence)
  let evidence := evidenceOf plan (sources.map Prod.fst) merged
  self.appendEvent run.runId .mergeCompleted [("row_count", .int merged.rowCount)]
  let run ← Orchestrator.advance run .answering
  let (answer, answerSource) ← askOk (.composeFederated question merged evidence) rfl
  let now ← ask .clock
  let run ← Orchestrator.saveMoved run .completed (fun run => { run with
      responseJson := some (.federated
        (answerOf self question answer answerSource plan tasks merged evidence))
      completedAt := some now })
    [.completed run.runId]
  self.assistantMessage run.conversationId answer run.runId none
  recordMemory run plan merged memory
  self.appendEvent run.runId .runCompleted []

/-- The end of a run whose tasks have been gone through. -/
def finish (run : Run) (question : String) (memory : Conversations.SemanticMemory)
    (plan : FederatedPlan) : Prog Unit :=
  self.unlessCancelled run () do
    let tasks ← tasksOf run.runId
    if tasks.any fun task => task.status ≠ .completed then
      .throw (.federation "source_tasks_incomplete")
    else mergeAndAnswer self run question memory plan tasks

/-- `FederatedQuestionCapability.drive` -/
def drive (run : Run) (question : String) (memory : Conversations.SemanticMemory)
    (allowed : List String) (decision : RoutingDecision) (clarifications : List String) :
    Prog Unit := do
  let plan ← planOf self run question memory allowed decision
  let run ← Orchestrator.advance run .planning
  let run ← Orchestrator.advance run .executing
  let tasks ← tasksOf run.runId
  match ← runTasks self run plan.executionScope clarifications tasks with
  | false => return ()
  | true => finish self run question memory plan

end Federation
