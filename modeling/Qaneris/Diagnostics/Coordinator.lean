import Qaneris.Runtime.World

/-!
# Driving a diagnosis

`DiagnosticCoordinator`: a bounded number of rounds, each of which plans evidence questions and asks
them one after the other; every question is one Ask invocation with a checkpoint of its own. What was
verified becomes the answer.
-/

namespace Diagnostics

open Contracts (AskClarification AskRequest AskResponse)
open Infra.Program (attempt ofExcept)
open Runtime (AskEventRecord AskStream Failure Orchestrator Prog Run RunStatus ask askOk onDiagnostics
  reading storeCall)

/-- `_TRANSIENT` -/
def transient : List String :=
  ["model_invocation_failed", "graph_unavailable", "datasource_unavailable", "timeout",
   "temporary_unavailable", "rate_limited", "transient_network", "execution_failed",
   "run_interrupted", "task_interrupted"]

/-- `_MISSING`: what an answer says when there is no such data. -/
def missing : List String :=
  ["当前数据没有", "没有受治理", "没有找到", "缺少", "不存在", "未找到", "无法找到",
   "请先完成该业务定义的发布", "请先发布相应时间轴定义"]

/-- `marker in text` -/
def mentions (text marker : String) : Bool :=
  decide (marker.toList <:+: text.toList)

variable (self : Orchestrator)

/-! ## Checkpoints -/

def saveCheckpoint (checkpoint : DiagnosticCheckpoint) : Prog DiagnosticCheckpoint :=
  storeCall (onDiagnostics fun s => s.saveCheckpoint checkpoint)

def saveTask (task : DiagnosticTask) : Prog DiagnosticTask :=
  storeCall (onDiagnostics fun s => s.saveTask task)

def tasksOf (runId : String) : Prog (List DiagnosticTask) :=
  storeCall (onDiagnostics (reading fun s => .ok (s.tasksOf runId)))

/-! ## Observations -/

def unavailable (task : DiagnosticTask) (response : AskResponse) (now : Contracts.Instant) :
    DiagnosticObservation :=
  { observationId := "observation:" ++ task.id, taskId := task.id, question := task.question
    purpose := task.purpose, verified := false
    reason := some ((self.safeText response.answer).take 240).toString, observedAt := now }

/-- The columns that are not private, and the first rows with these columns only. -/
def project (columns : List String) (row : Contracts.Row) : Contracts.Row :=
  columns.map fun name => (name, (row.lookup name).getD .null)

def verified (task : DiagnosticTask) (result : Contracts.AskResult)
    (evidence : Contracts.ExecutionEvidence) (now : Contracts.Instant) : DiagnosticObservation :=
  let columns := result.columns.filter fun name => ¬ self.privateField name
  let rows := (result.rows.take self.diagnosticBudget.maxObservationRows).map fun row =>
    self.safeRow (project columns row)
  { observationId := "observation:" ++ task.id, taskId := task.id, question := task.question
    purpose := task.purpose, verified := true
    safeAnswer := "返回 " ++ Nat.repr result.rowCount ++ " 行；可见结果样例：" ++
      self.dumps (rows.take 3)
    resultShape := some {
      columns, rowCount := result.rowCount
      truncated := result.truncated || decide (result.rows.length > rows.length) }
    boundedRows := rows
    evidenceRef := task.evidenceRef
    datasourceId := some evidence.datasourceId
    scanVersion := evidence.scanVersion
    observedAt := task.completedAt.getD now }

def observe (task : DiagnosticTask) (now : Contracts.Instant) : Option DiagnosticObservation :=
  if task.status ≠ .completed then none
  else task.askResponseJson.map fun response =>
    match response.result, response.evidence with
    | some result, some evidence =>
      if response.status = .completed then verified self task result evidence now
      else unavailable self task response now
    | _, _ => unavailable self task response now

/-- `_observations` -/
def observations (runId : String) : Prog (List DiagnosticObservation) := do
  let tasks ← tasksOf runId
  let now ← ask .clock
  return tasks.filterMap fun task => observe self task now

/-! ## One evidence task -/

/-- A task that has failed, and the event that says so. -/
def failTask (run : Run) (task : DiagnosticTask) (code : String) (retryable : Bool)
    (failure : Failure) : Prog DiagnosticCheckpoint := do
  let _ ← saveTask { task with status := .failed, failureCode := some code, retryable }
  self.appendEvent run.runId .evidenceQueryFailed
    [("task_id", .str task.id), ("failure_code", .str code), ("retryable", .bool retryable)]
  .throw failure

/-- What the records of an invocation have brought: the run as it was advanced, the response and the
exception. -/
inductive Outcome where
  | cancelled
  | raised (run : Run) (error : Failure)
  | ended (run : Run) (response : Option AskResponse) (failure : Option Failure)

/-- The records of an invocation, each asked for unless the run is cancelled. -/
def consume (task : DiagnosticTask) (raised : Option Failure) (run : Run)
    (response : Option AskResponse) (failure : Option Failure) :
    List AskEventRecord → Prog Outcome
  | [] =>
    match raised with
    | some e => return .raised run e
    | none => self.unlessCancelled run .cancelled (return .ended run response failure)
  | record :: records => do
    let run ← Orchestrator.advanceBy run record.event.eventType
    self.appendEvent run.runId .askProgress
      [("task_id", .str task.id), ("ask_event_type", .str record.event.eventType.value),
       ("ask_sequence", .int record.event.sequence), ("ask_payload", record.event.payload)]
    self.unlessCancelled run .cancelled
      (consume task raised run (record.response <|> response) (record.exception <|> failure) records)

def invokeAndConsume (run : Run) (task : DiagnosticTask) (request : AskRequest) : Prog Outcome :=
  self.beforeInvoking run .cancelled do
    let stream ← Orchestrator.invoke run.runId (some task.id) request
    consume self task stream.raised run none none stream.records

/-- `any(item.options for item in response.clarification)` -/
def offersOptions (response : AskResponse) : Bool :=
  response.clarification.any fun item => item.options ≠ []

/-- A response that asks back: the data is missing, or the user is asked. -/
def clarifyTask (run : Run) (task : DiagnosticTask) (checkpoint : DiagnosticCheckpoint)
    (response : AskResponse) : Prog DiagnosticCheckpoint := do
  let message := response.clarificationText
  if (missing.any fun marker => mentions message marker) ∧ ¬ offersOptions response then
    let now ← ask .clock
    let task ← saveTask { task with
      status := .completed, askResponseJson := some response, completedAt := some now }
    let checkpoint ← saveCheckpoint { checkpoint with
      pendingTaskId := none, questionsCompleted := checkpoint.questionsCompleted + 1 }
    self.appendEvent run.runId .evidenceQueryUnavailable
      [("task_id", .str task.id), ("reason", .str "missing_data")]
    return checkpoint
  else
    let task ← saveTask { task with status := .waitingUser, askResponseJson := some response }
    let current ← Orchestrator.get run.runId
    self.waitForUser current (.ask response) message [("task_id", .str task.id)] (some task.id)
    return checkpoint

/-- A response with verified rows. -/
def completeTask (run : Run) (task : DiagnosticTask) (checkpoint : DiagnosticCheckpoint)
    (response : AskResponse) (result : Contracts.AskResult) (source : String) :
    Prog DiagnosticCheckpoint := do
  let evidenceRef := "evidence:" ++ run.runId ++ ":" ++ task.id
  let now ← ask .clock
  let _ ← saveTask { task with
    status := .completed, askResponseJson := some response, evidenceRef := some evidenceRef
    completedAt := some now }
  let checkpoint ← saveCheckpoint { checkpoint with
    diagnosticDatasourceId := some source, pendingTaskId := none
    questionsCompleted := checkpoint.questionsCompleted + 1
    verifiedObservationRefs := checkpoint.verifiedObservationRefs ++ [evidenceRef] }
  self.appendEvent run.runId .evidenceQueryCompleted
    [("task_id", .str task.id), ("evidence_ref", .str evidenceRef), ("datasource_id", .str source),
     ("row_count", .int result.rowCount)]
  return checkpoint

/-- What becomes of a task whose invocation has answered. -/
def settleTask (run : Run) (task : DiagnosticTask) (checkpoint : DiagnosticCheckpoint)
    (response : AskResponse) (failure : Option Failure) : Prog DiagnosticCheckpoint :=
  if response.status = .clarificationRequired then clarifyTask self run task checkpoint response
  else if response.status ≠ .completed ∨ failure ≠ none then
    let code := match response.error with
      | some error => error.code
      | none => (failure.bind fun e => e.code).getD "ask_failed"
    let retryable := decide (code ∈ transient)
    failTask self run
      { task with
        askResponseJson := some response
        failureMessage := some (response.answer.take 240).toString }
      code retryable (.diagnosticTransient code transient)
  else
    match response.evidence, response.result with
    | some evidence, some result =>
      if (checkpoint.diagnosticDatasourceId.any fun source => source ≠ "") ∧
          checkpoint.diagnosticDatasourceId ≠ some evidence.datasourceId then
        failTask self run { task with askResponseJson := some response }
          "diagnostic_datasource_mismatch" false (.diagnosticBlocked "diagnostic_datasource_mismatch")
      else completeTask self run task checkpoint response result evidence.datasourceId
    | _, _ =>
      failTask self run { task with askResponseJson := some response }
        "diagnostic_unverified_result" false (.diagnostic "diagnostic_unverified_result")

/-- `f"{question}。用户澄清：{clarification}" if clarification else question` -/
def clarified (question : String) : Option String → String
  | none => question
  | some clarification =>
    if clarification = "" then question else question ++ "。用户澄清：" ++ clarification

/-- The invocation of a task that is marked as running. -/
def askTask (run : Run) (task : DiagnosticTask) (workspaceId : String)
    (checkpoint : DiagnosticCheckpoint) (clarification : Option String) :
    Prog DiagnosticCheckpoint := do
  let request ← Orchestrator.askRequest (clarified task.question clarification) workspaceId
    checkpoint.diagnosticDatasourceId run.maxRows
  match ← invokeAndConsume self run task request with
  | .cancelled =>
    let _ ← saveTask { task with status := .skipped }
    return checkpoint
  | .raised run e =>
    let code := e.code.getD "ask_failed"
    let retryable := decide (code ∈ transient)
    failTask self run { task with failureMessage := some code } code retryable
      (.diagnosticTransient code transient)
  | .ended _ none _ =>
    let _ ← saveTask { task with
      status := .failed, failureCode := some "ask_failed", retryable := false }
    .throw (.diagnostic "ask_failed")
  | .ended run (some response) failure => settleTask self run task checkpoint response failure

/-- `_execute_task` -/
def executeTask (run : Run) (task : DiagnosticTask) (conversation : Conversations.Conversation)
    (checkpoint : DiagnosticCheckpoint) (clarification : Option String) :
    Prog DiagnosticCheckpoint := do
  let run ← Orchestrator.get run.runId
  self.unlessCancelled run checkpoint do
    let task ← saveTask { task with
      status := .running, attempt := task.attempt + 1, failureCode := none
      failureMessage := none, retryable := false }
    let checkpoint ← saveCheckpoint { checkpoint with pendingTaskId := some task.id }
    self.appendEvent run.runId .evidenceQueryStarted
      [("task_id", .str task.id), ("question", .str task.question), ("purpose", .str task.purpose),
       ("round", .int task.round)]
    askTask self run task conversation.workspaceId checkpoint clarification

/-- The tasks of one round; `none` when the run has stopped at one of them. -/
def runTasks (run : Run) (conversation : Conversations.Conversation) (clarifications : List String)
    (checkpoint : DiagnosticCheckpoint) : List DiagnosticTask → Prog (Option DiagnosticCheckpoint)
  | [] => pure (some checkpoint)
  | task :: tasks => self.unlessCancelled run none do
    if task.status = .completed ∨ task.status = .skipped then
      runTasks run conversation clarifications checkpoint tasks
    else if task.status = .failed ∧ ¬ task.retryable then
      .throw (.diagnostic (if task.failureCode.any fun code => code ≠ "" then
        task.failureCode.getD "" else "diagnostic_task_failed"))
    else
      let answer := if task.status = .waitingUser then clarifications.getLast? else none
      let checkpoint ← executeTask self run task conversation checkpoint answer
      let current ← Orchestrator.getNoting Runtime.nothing [] run.runId
        (Orchestrator.overran run.runId)
      if current.status = .waitingUser then return none
      else runTasks run conversation clarifications checkpoint tasks

/-! ## Planning a round -/

/-- What planning a round leads to. -/
inductive Planned where
  /-- The user is asked. -/
  | waiting
  /-- There is nothing more to ask; the model may have failed. -/
  | stop (planningFailed : Bool)
  | tasks (checkpoint : DiagnosticCheckpoint) (tasks : List DiagnosticTask)

/-- `_wait_for_clarification` -/
def waitForClarification (run : Run) (question message : String) : Prog Unit := do
  let item ← ofExcept ((AskClarification.make message []).elim (.error .validation) .ok)
  let current ← Orchestrator.get run.runId
  self.waitForUser current
    (.ask { question, status := .clarificationRequired, answer := message, clarification := [item] })
    message []

/-- The decision of the model and the questions that are selected from it. -/
def propose (run : Run) (question : String) (memory : Conversations.SemanticMemory)
    (checkpoint : DiagnosticCheckpoint) (observed : List DiagnosticObservation) :
    Prog (DiagnosticDecision × Selection) :=
  if ¬ self.diagnosticModel then .throw .missing
  else do
    let decision ← askOk (.proposeEvidenceQuestions {
      question, semanticMemory := self.safeMemory memory, observations := observed
      round := checkpoint.currentRound + 1, remainingBudget := checkpoint.remainingBudget }) rfl
    let tasks ← tasksOf run.runId
    let seen := tasks.map fun task => questionKey self.fold task.question
    let selection ← ofExcept (selectQuestions self.fold decision seen checkpoint.remainingBudget
      self.diagnosticBudget)
    return (decision, selection)

/-- The tasks of a round, numbered from 1; those of the first `selected` questions are planned. -/
def makeTasks (runId : String) (round : Int) (selected : Nat) (ordinal : Nat) :
    List EvidenceQuestion → Prog (List DiagnosticTask)
  | [] => pure []
  | item :: items => do
    let uuid ← ask .uuid
    let tasks ← makeTasks runId round selected (ordinal + 1) items
    return {
      id := uuid, runId, round, ordinal, question := item.question, purpose := item.purpose
      status := if ordinal ≤ selected then .planned else .skipped } :: tasks

def announce (runId : String) (round : Int) : List DiagnosticTask → Prog Unit
  | [] => pure ()
  | task :: tasks => do
    if task.status = .planned then
      self.appendEvent runId .evidenceQuestionPlanned
        [("task_id", .str task.id), ("question", .str task.question),
         ("purpose", .str task.purpose), ("round", .int round)]
      announce runId round tasks
    else announce runId round tasks

/-- The round of a decision is stored and announced. -/
def openRound (run : Run) (checkpoint : DiagnosticCheckpoint) (decision : DiagnosticDecision)
    (selection : Selection) : Prog Planned := do
  let round := checkpoint.currentRound + 1
  let planned ← makeTasks run.runId round selection.selected.length 1
    (selection.selected ++ selection.duplicates)
  let checkpoint ← storeCall (onDiagnostics fun s => s.planRound checkpoint planned)
  self.appendEvent run.runId .diagnosticRoundStarted [("round", .int round)]
  announce self run.runId round planned
  match decision, selection.selected with
  | .stop _, _ | _, [] => return .stop false
  | _, _ :: _ =>
    let tasks ← tasksOf run.runId
    return .tasks checkpoint (tasks.filter fun item => item.round = round)

def planRound (run : Run) (question : String) (memory : Conversations.SemanticMemory)
    (checkpoint : DiagnosticCheckpoint) : Prog Planned := do
  let observed ← observations self run.runId
  match ← attempt (propose self run question memory checkpoint observed) with
  | .error _ =>
    if observed.any DiagnosticObservation.verified then return .stop true
    else .throw (.diagnosticBlocked "diagnostic_model_unavailable")
  | .ok (.clarify clarification _, _) =>
    waitForClarification self run question clarification
    return .waiting
  | .ok (decision, selection) => openRound self run checkpoint decision selection

/-! ## The rounds -/

/-- How the rounds end: the run has stopped, or what was observed is to be answered from. -/
inductive LoopEnd where
  | stopped
  | done (planningFailed : Bool)

/-- The tasks of the current round that are still to be done; none when all of them are. -/
def openTasks (checkpoint : DiagnosticCheckpoint) (tasks : List DiagnosticTask) :
    List DiagnosticTask :=
  let current := tasks.filter fun item => item.round = checkpoint.currentRound
  if current.all fun item => item.status = .completed ∨ item.status = .skipped then [] else current

/-- The tasks that the next round of the loop goes through. -/
def nextTasks (run : Run) (question : String) (memory : Conversations.SemanticMemory)
    (checkpoint : DiagnosticCheckpoint) : Prog Planned := do
  let tasks ← tasksOf run.runId
  match openTasks checkpoint tasks with
  | [] =>
    if checkpoint.currentRound ≥ self.diagnosticBudget.maxAdaptiveRounds ∨
        checkpoint.remainingBudget ≤ 0 then return .stop false
    else planRound self run question memory checkpoint
  | tasks => return .tasks checkpoint tasks

/-- `while checkpoint.current_round <= max_adaptive_rounds`, entered at most `fuel` times. -/
def rounds (run : Run) (conversation : Conversations.Conversation) (question : String)
    (memory : Conversations.SemanticMemory) (clarifications : List String) :
    (fuel : Nat) → DiagnosticCheckpoint → Prog LoopEnd
  | 0, _ => Runtime.hang
  | fuel + 1, checkpoint =>
    if checkpoint.currentRound > self.diagnosticBudget.maxAdaptiveRounds then return .done false
    else self.unlessCancelled run .stopped do
      match ← nextTasks self run question memory checkpoint with
      | .waiting => return .stopped
      | .stop planningFailed => return .done planningFailed
      | .tasks checkpoint tasks =>
        match ← runTasks self run conversation clarifications checkpoint tasks with
        | none => return .stopped
        | some checkpoint =>
          if checkpoint.currentRound ≥ self.diagnosticBudget.maxAdaptiveRounds then
            return .done false
          else rounds run conversation question memory clarifications fuel checkpoint

/-! ## The answer -/

/-- `record_memory` with the verified observations. -/
def recordMemory (run : Run) (question answer : String) (memory : Conversations.SemanticMemory)
    (verified : List DiagnosticObservation) : Prog Unit :=
  match verified with
  | [] => pure ()
  | first :: _ =>
    if run.status ≠ .completed then pure ()
    else if memory.diagnosticFindings.any fun item => item.runId = run.runId then pure ()
    else do
      let now ← ask .clock
      let refs := verified.filterMap DiagnosticObservation.evidenceRef
      if h : 1 ≤ refs.length then
        Orchestrator.putMemory run.conversationId { memory with
          diagnosticFindings := memory.diagnosticFindings ++ [{
            findingId := "finding:" ++ run.runId, runId := run.runId
            targetSummary := (question.take 240).toString
            statement := (answer.take 1000).toString, metric := memory.activeMetrics
            dimensions := memory.activeDimensions, filters := memory.activeFilters
            evidenceRefs := refs, datasourceId := first.datasourceId.getD ""
            scanVersion := first.scanVersion, observedAt := now, evidenceRefs_length := h }]
          updatedAt := now }
      else .throw .validation

/-- `deterministic_answer` -/
def deterministicAnswer (context : DiagnosticSynthesisContext) : String :=
  let lines :=
    ["已完成 " ++ Nat.repr context.observations.length ++ " 个证据查询。", "数据显示："] ++
    context.observations.map (fun item => "- " ++ item.purpose ++ "：" ++ item.safeAnswer) ++
    context.unavailable.map (fun item => "- 未验证：" ++ item.purpose ++ "（" ++
      (if item.reason.any fun reason => reason ≠ "" then item.reason.getD "" else "数据不可用") ++
      "）。") ++
    (if context.observations.any fun item => item.resultShape.any Conversations.ResultShape.truncated
      then ["部分结果已截断，分析仅基于返回的部分数据。"] else []) ++
    ["这些观察反映数据库中的变化或相关性，当前证据不足以证明因果关系。"]
  "\n".intercalate lines

/-- `composer.compose`, or the fixed answer when planning has failed. -/
def compose (planningFailed : Bool) (context : DiagnosticSynthesisContext)
    (memory : Conversations.SemanticMemory) : Prog (String × String) :=
  if planningFailed ∨ ¬ self.diagnosticModel then
    pure (deterministicAnswer context, "diagnostic_deterministic_fallback")
  else do
    let answer : Option String ← ask (.synthesizeDiagnosis context memory)
    match answer with
    | none => return (deterministicAnswer context, "diagnostic_deterministic_fallback")
    | some answer => return (answer, "diagnostic_model")

def finalResponse (question answer source : String) (verified : List DiagnosticObservation) :
    AskResponse :=
  { question, status := .completed, answer
    analysis := [
      ("answer_source", .str source), ("run_kind", .str "diagnostic"),
      ("verified_observations", .int verified.length),
      ("evidence_refs", .arr (verified.map fun item => (item.evidenceRef.map .str).getD .null))] }

/-- The answer is stored, and the run is completed. -/
def answerRun (run : Run) (question answer source : String) (memory : Conversations.SemanticMemory)
    (verified : List DiagnosticObservation) : Prog Unit := do
  let current ← Orchestrator.getNoting Runtime.nothing [] run.runId
    (Orchestrator.overlooked run.runId)
  let current ← Orchestrator.advance current .answering
  let now ← ask .clock
  let current ← Orchestrator.saveMoved current .completed (fun run => { run with
      responseJson := some (.ask (finalResponse question answer source verified))
      completedAt := some now })
    [.completed run.runId]
  self.assistantMessage run.conversationId answer run.runId none
  recordMemory current question answer memory verified
  self.appendEvent run.runId .diagnosisCompleted [("verified_count", .int verified.length)]
  self.appendEvent run.runId .runCompleted []

/-- The end of a run whose rounds are over. -/
def finish (run : Run) (question : String) (memory : Conversations.SemanticMemory)
    (planningFailed : Bool) : Prog Unit := do
  let observed ← observations self run.runId
  let verified := observed.filter DiagnosticObservation.verified
  if verified = [] then .throw (.diagnosticBlocked "diagnostic_no_verified_evidence")
  else self.unlessCancelled run () do
    self.appendEvent run.runId .diagnosticSynthesisStarted
      [("verified_count", .int verified.length)]
    let context : DiagnosticSynthesisContext := {
      question, observations := verified, unavailable := observed.filter fun item => ¬ item.verified }
    let (answer, source) ← compose self planningFailed context memory
    self.unlessCancelled run () (answerRun self run question answer source memory verified)

/-! ## Driving a run -/

/-- The checkpoint is brought into agreement with the completed tasks. -/
def reconcile (runId : String) : Prog DiagnosticCheckpoint := do
  let checkpoint ← storeCall (onDiagnostics fun s => .ok (s.checkpoint runId))
  let tasks ← tasksOf runId
  let completed := tasks.filter fun task => task.status = .completed
  let refs := completed.filterMap fun task => task.evidenceRef.filter fun ref => ref ≠ ""
  if checkpoint.questionsCompleted = completed.length ∧ checkpoint.verifiedObservationRefs = refs then
    return checkpoint
  else
    let source ← ofExcept (sourceOf checkpoint completed refs)
    saveCheckpoint { checkpoint with
      questionsCompleted := completed.length, verifiedObservationRefs := refs
      diagnosticDatasourceId := source }
where
  /-- The datasource of the checkpoint, or of the first task with evidence. -/
  sourceOf (checkpoint : DiagnosticCheckpoint) (completed : List DiagnosticTask)
      (refs : List String) : Except Failure (Option String) :=
    if refs ≠ [] ∧ checkpoint.diagnosticDatasourceId = none then
      match completed.find? fun task => task.evidenceRef.any fun ref => ref ≠ "" with
      | none => .error .stopIteration
      | some first =>
        match first.askResponseJson with
        | none => .error .validation
        | some response =>
          match response.evidence with
          | none => .error .missing
          | some evidence => .ok (some evidence.datasourceId)
    else .ok checkpoint.diagnosticDatasourceId

/-- The budget of a diagnosis that begins. -/
def begin_ (run : Run) (conversation : Conversations.Conversation)
    (checkpoint : DiagnosticCheckpoint) : Prog DiagnosticCheckpoint :=
  if checkpoint.currentRound = 0 ∧ checkpoint.remainingBudget = 0 then do
    let checkpoint ← saveCheckpoint { checkpoint with
      remainingBudget := self.diagnosticBudget.maxEvidenceQuestions
      diagnosticDatasourceId := conversation.datasourceScope.head? }
    self.appendEvent run.runId .diagnosisStarted []
    return checkpoint
  else pure checkpoint

/-- The question says that something went down and nothing about compared with what. -/
def lacksBaseline (question : String) : Prog Bool :=
  if ["下降", "减少", "少了", "下滑"].any fun word => mentions question word then do
    let rules ← askOk (.extract question) rfl
    return rules.comparison.isNone &&
      ¬ ["去年", "上个月", "上周", "同期", "之前"].any fun word => mentions question word
  else pure false

def needsBaseline (checkpoint : DiagnosticCheckpoint) (question : String)
    (memory : Conversations.SemanticMemory) (clarifications : List String) : Prog Bool :=
  if checkpoint.currentRound = 0 ∧ memory.confirmedBusinessQuery = none ∧ clarifications = [] then
    lacksBaseline question
  else pure false

/-- `DiagnosticCoordinator.drive` -/
def drive (run : Run) (conversation : Conversations.Conversation) (question : String)
    (memory : Conversations.SemanticMemory) (clarifications : List String) : Prog Unit := do
  let checkpoint ← reconcile run.runId
  let checkpoint ← begin_ self run conversation checkpoint
  if ¬ self.diagnosticModel ∧ checkpoint.verifiedObservationRefs = [] then
    .throw (.diagnosticBlocked "diagnostic_model_unavailable")
  else
    match ← needsBaseline checkpoint question memory clarifications with
    | true => waitForClarification self run question "请明确下降是与哪个时间段或业务基准比较？"
    | false =>
      let fuel ← ask .rounds
      match ← rounds self run conversation question memory clarifications fuel checkpoint with
      | .stopped => return ()
      | .done planningFailed => finish self run question memory planningFailed

end Diagnostics
