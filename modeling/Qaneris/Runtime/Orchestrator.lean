import Qaneris.Diagnostics.Coordinator
import Qaneris.Federation.Coordinator

/-!
# The run orchestrator

`RunOrchestrator`: a run is created, queued and executed by a worker, which drives it along one of
three paths; it may wait for its user, be cancelled, retried, and recovered when the process starts.
-/

namespace Runtime

open Contracts (AskClarification AskRequest AskResponse)
open Infra (Json Transaction)
open Infra.Program (attempt ofExcept atomic)

/-! ## What a failure says about the run -/

namespace Failure

/-- The text that the user reads. -/
def message (e : Failure) (safeError : Failure → String) : String :=
  match e.failureCode with
  | "unconfirmed_mapping" => "当前数据对象没有已确认的跨数据源关联键，不会根据同名字段自动关联。"
  | "stale_join_mapping" => "跨数据源关联键绑定的扫描版本已变化，请重新确认映射。"
  | "source_selection_ambiguous" =>
    "当前范围内有多个可用数据源，问题未指定使用哪一个。请在问题中写明数据源名称，或只选择一个数据源新建对话；跨库分析需明确各数据源及其业务口径。"
  | "source_selection_unresolved" =>
    "确认内容没有选出唯一数据源。请新建对话并只选择一个数据源，或在问题中写明数据源名称。"
  | "federation_semantics_missing" =>
    "所选数据源没有已发布的业务指标或维度，无法确认跨源分析口径。请先为参与的数据源发布相应业务定义。"
  | code => if e.cls = .qanerisError then ((safeError e).take 240).toString else code

end Failure

namespace Orchestrator

variable (self : Orchestrator)

/-! ## Recovery -/

/-- The end of a completed federated run. -/
def recoverFederated (run : Run) (response : ResponseJson) : Prog Unit := do
  let answer ← ofExcept response.answerText
  self.assistantMessage run.conversationId answer run.runId none
  let plan ← storeCall (onFederation (reading fun s => .ok (s.plan run.runId)))
  let memory ← memory run.conversationId
  match plan with
  | none => self.appendEvent run.runId .runCompleted []
  | some plan =>
    if memory.lastRunId ≠ some run.runId then
      let merged ← ofExcept response.mergedResult
      Federation.recordMemory run plan merged memory
      self.appendEvent run.runId .runCompleted []
    else self.appendEvent run.runId .runCompleted []

/-- What a completed diagnosis still has to leave in the memory. -/
def recoverFinding (run : Run) (response : AskResponse) (memory : Conversations.SemanticMemory) :
    Prog Unit :=
  if memory.diagnosticFindings.any fun item => item.runId = run.runId then pure ()
  else do
    let observed ← Diagnostics.observations self run.runId
    let question := match run.resolvedQuestion with
      | none => response.question
      | some resolved => if resolved = "" then response.question else resolved
    Diagnostics.recordMemory run question response.answer memory
      (observed.filter Diagnostics.DiagnosticObservation.verified)

/-- What a completed question still has to leave in the memory. -/
def recoverQuery (run : Run) (response : AskResponse) (memory : Conversations.SemanticMemory) :
    Prog Unit :=
  match response.businessQuery, run.completedAt with
  | some query, some completedAt =>
    if memory.lastRunId ≠ some run.runId ∧ memory.updatedAt ≤ completedAt then do
      let now ← ask .clock
      putMemory run.conversationId
        (Conversations.confirmedMemory response query run.runId memory now)
    else pure ()
  | _, _ => pure ()

def recoverMemory (run : Run) (response : AskResponse) (memory : Conversations.SemanticMemory) :
    Prog Unit :=
  if run.runKind = .diagnostic then recoverFinding self run response memory
  else recoverQuery run response memory

def recoverAnswered (run : Run) (response : ResponseJson) : Prog Unit := do
  let response ← ofExcept response.asAskResponse
  self.assistantMessage run.conversationId response.answer run.runId none
  let memory ← memory run.conversationId
  recoverMemory self run response memory
  self.appendEvent run.runId .runCompleted []

def recoverCompletion (run : Run) : Prog Unit :=
  match run.responseJson with
  | none => pure ()
  | some response =>
    if run.runKind = .federated then recoverFederated self run response
    else recoverAnswered self run response

/-- The text that a waiting run asks its user. -/
def clarificationOf (run : Run) (response : ResponseJson) : Except Failure String :=
  if run.runKind = .federated then response.clarificationText
  else response.asAskResponse.map AskResponse.clarificationText

def recoverClarification (run : Run) : Prog Unit :=
  match run.responseJson with
  | none => pure ()
  | some response => do
    let clarification ← ofExcept (clarificationOf run response)
    self.assistantMessage run.conversationId clarification run.runId (some run.revision)
    self.appendEvent run.runId .clarificationRequired []

/-- One program for each item, in their order. -/
def forEach {α : Type} (f : α → Prog Unit) : List α → Prog Unit
  | [] => pure ()
  | item :: items => do
    f item
    forEach f items

/-- The acts of reading the completed runs that lack their event. -/
def listed (w : World) : List Act :=
  w.runs.incompleteCompletions.map fun run => .listed run.runId

/-- `_recover_completions` -/
def recoverCompletions : Prog Unit := do
  let runs ← storeCall (marked [] listed (onRuns (reading fun s => .ok s.incompleteCompletions)))
  forEach (recoverCompletion self) runs

/-- `_recover_clarifications` -/
def recoverClarifications : Prog Unit := do
  let runs ← storeCall (onRuns (reading fun s => .ok s.incompleteClarifications))
  forEach (recoverClarification self) runs

/-! ## The normal path -/

/-- `response` has answered the question of the run. -/
def complete (run : Run) (response : AskResponse) : Prog Unit := do
  let run ← advance run .answering
  let now ← ask .clock
  let run ← saveMoved run .completed (fun run => { run with
      responseJson := some (.ask response), completedAt := some now })
    [.completed run.runId]
  self.assistantMessage run.conversationId response.answer run.runId none
  match response.businessQuery with
  | none => self.appendEvent run.runId .runCompleted []
  | some query =>
    let memory ← memory run.conversationId
    let now ← ask .clock
    putMemory run.conversationId (Conversations.confirmedMemory response query run.runId memory now)
    self.appendEvent run.runId .runCompleted []

/-- A clarification that the user cannot give: its code and its message. -/
def pointless (response : AskResponse) (previousClarification : Option String) :
    Option (String × String) :=
  let clarification := response.clarificationText
  if response.clarification.head?.any fun item => ¬ item.actionable then
    some ("clarification_requires_external_action", clarification)
  else if previousClarification = some clarification then
    some ("clarification_unresolved", "确认内容未能解决当前问题：" ++ clarification)
  else none

/-- `response` asks back. -/
def clarifyOrBlock (run : Run) (response : AskResponse) (previousClarification : Option String) :
    Prog Unit :=
  match pointless response previousClarification with
  | some (code, message) => do
    let now ← ask .clock
    let _ ← saveMoved run .blocked fun run => { run with
      failureCode := some code, failureMessage := some message, completedAt := some now }
    self.appendEvent run.runId .runBlocked [("failure_code", .str code)]
  | none => self.waitForUser run (.ask response) response.clarificationText []

def settle (run : Run) (response : AskResponse) (previousClarification : Option String) :
    Prog Unit :=
  if response.status = .clarificationRequired then
    clarifyOrBlock self run response previousClarification
  else if response.status ≠ .completed then
    .throw (.runtime ((response.error.map Contracts.ErrorDetail.code).getD "ask_failed"))
  else complete self run response

/-- What an invocation has brought: the run as it was advanced, the response and the exception; `none`
when the run was cancelled meanwhile. -/
abbrev Outcome := Option (Run × Option AskResponse × Option Failure)

/-- The records of an invocation, each asked for unless the run is cancelled. -/
def consume (raised : Option Failure) (run : Run) (response : Option AskResponse)
    (failure : Option Failure) : List AskEventRecord → Prog Outcome
  | [] =>
    match raised with
    | some e => .throw e
    | none => self.unlessCancelled run none (return some (run, response, failure))
  | record :: records => self.unlessCancelled run none do
    let run ← advanceBy run record.event.eventType
    self.appendEvent run.runId .askProgress
      [("ask_event_type", .str record.event.eventType.value),
       ("ask_sequence", .int record.event.sequence), ("ask_payload", record.event.payload)]
    self.unlessCancelled run none
      (consume raised run (record.response <|> response) (record.exception <|> failure) records)

def invokeAndConsume (run : Run) (request : AskRequest) : Prog Outcome :=
  self.beforeInvoking run none do
    let stream ← invoke run.runId none request
    consume self stream.raised run none none stream.records

/-- The only Ask invocation of an attempt. -/
def askOnce (run : Run) (resolved : String) (datasourceId : Option String)
    (previousClarification : Option String) : Prog Unit := do
  let request ← askRequest resolved run.workspaceId datasourceId run.maxRows
  match ← invokeAndConsume self run request with
  | none => return ()
  | some (_, _, some e) => .throw e
  | some (_, none, none) => .throw (.runtime "Ask ended without a response")
  | some (run, some response, none) => settle self run response previousClarification

/-! ## Choosing the path -/

/-- The ready datasources of a workspace that a conversation may use. -/
def readyScope (workspaceId : String) (requested : List String) : Prog (List String) := do
  let sources ← askOk (.listDatasources workspaceId) rfl
  let ready := (sources.filter fun item => item.status = "ready").map Datasource.id
  if requested ≠ [] ∧ requested.any fun id => id ∉ ready then
    .throw (.federationBlocked "scope_datasource_not_ready")
  else
    return (if requested ≠ [] then requested else ready).dedup.insertionSort (· ≤ ·)

def selectSourcePrompt : String :=
  "请选择这次查询要使用的数据源。若要联合分析，请在问题中写明两个数据源。"

/-- The user is asked which of the allowed datasources the question means. -/
def askForSource (run : Run) (resolved workspaceId : String) (allowed : List String)
    (previousClarification : Option String) : Prog Unit :=
  if previousClarification = some selectSourcePrompt then
    .throw (.federationBlocked "source_selection_unresolved")
  else do
    let sources ← askOk (.listDatasources workspaceId) rfl
    let names := (sources.filter fun source => source.id ∈ allowed).map Datasource.name
    let item ← ofExcept ((AskClarification.make selectSourcePrompt (names.take 20)).elim
      (.error .validation) .ok)
    self.waitForUser run
      (.ask { question := resolved, status := .clarificationRequired, answer := selectSourcePrompt
              clarification := [item] })
      selectSourcePrompt []

/-- The plan that a federated run has made before. -/
def storedPlan (run : Run) : Prog (Option Federation.FederatedPlan) :=
  if run.runKind = .federated then
    storeCall (onFederation (reading fun s => .ok (s.plan run.runId)))
  else pure none

/-- What routing leads to: a decision, or a choice that is left to the user. -/
def route (run : Run) (resolved workspaceId : String) (allowed : List String) :
    Prog (Option RoutingDecision) := do
  match ← storedPlan run with
  | some _ => return some { kind := .federated, businessQuery := none, sources := [] }
  | none =>
    let decision : Except Failure RoutingDecision ← ask (.route resolved workspaceId allowed)
    match decision with
    | .ok decision => return some decision
    | .error e =>
      if e.cls = .federationFailure ∧ e.code = some "source_selection_ambiguous" then return none
      else .throw e

/-- A run over several sources, or over one that is still to be chosen. -/
def driveRouted (run : Run) (conversation : Conversations.Conversation) (resolved : String)
    (memory : Conversations.SemanticMemory) (clarifications : List String)
    (previousClarification : Option String) : Prog Unit := do
  let allowed ← readyScope conversation.workspaceId conversation.datasourceScope
  match ← route run resolved conversation.workspaceId allowed with
  | none => askForSource self run resolved conversation.workspaceId allowed previousClarification
  | some decision =>
    if decision.kind = .federated then
      let run ← save { run with runKind := .federated }
      Federation.drive self run resolved memory allowed decision clarifications
    else askOnce self run resolved decision.singleDatasourceId previousClarification

/-- `not datasource_scope and is_workspace_inventory_question(resolved)` -/
def isWorkspaceInventory (conversation : Conversations.Conversation) (resolved : String) : Prog Bool :=
  if conversation.datasourceScope = [] then ask (.isWorkspaceInventoryQuestion resolved)
  else pure false

/-- The path of a run that is not a diagnosis. -/
def driveQuestion (run : Run) (conversation : Conversations.Conversation) (resolved : String)
    (memory : Conversations.SemanticMemory) (clarifications : List String)
    (previousClarification : Option String) : Prog Unit := do
  let inventory ← isWorkspaceInventory conversation resolved
  if self.federationService ∧ ¬ inventory ∧
      (conversation.datasourceScope.length ≠ 1 ∨ run.runKind = .federated) then
    driveRouted self run conversation resolved memory clarifications previousClarification
  else if conversation.datasourceScope.length > 1 then
    .throw (.runtime "multi_source_scope_requires_iq05")
  else askOnce self run resolved conversation.datasourceScope.head? previousClarification

/-! ## One attempt -/

/-- `_DIAGNOSTIC_FOLLOWUP.search(text)` -/
def diagnosticFollowup (text : String) : Bool :=
  ["再深入看看", "深入分析", "继续诊断", "继续分析原因"].any (fun word =>
    Diagnostics.mentions text word) ||
  text.toList.tails.any fun rest => "再看看".toList.isPrefixOf rest &&
    decide ("原因".toList <:+: (rest.drop 3).takeWhile (· ≠ '\n'))

/-- The answers of the user to the clarifications of a run. -/
def clarificationsOf (runId : String) (messages : List Conversations.Message) : List String :=
  (messages.filter fun item => item.runId = some runId ∧ item.messageKind = .clarification ∧
    item.role = .user).map Conversations.Message.content

/-- `f"{original}。用户澄清：{clarifications[-1]}" if clarifications else original` -/
def questionOf (original : String) (clarifications : List String) : String :=
  match clarifications.getLast? with
  | some clarification => original ++ "。用户澄清：" ++ clarification
  | none => original

/-- What an attempt reads before it resolves its question. -/
structure AttemptInput where
  conversation : Conversations.Conversation
  original : String
  clarifications : List String
  memory : Conversations.SemanticMemory
  messages : List Conversations.Message

/-- What the log says of an attempt that has read `messages`. -/
def askedMarks (run : Run) (messages : List Conversations.Message) : List Mark :=
  match messages.find? fun item => item.messageId = run.userMessageId with
  | none => []
  | some message =>
    let clarifications := clarificationsOf run.runId messages
    [.asked run.runId run.conversationId message.content clarifications
      (questionOf message.content clarifications)]

/-- `conversations.messages(run.conversation_id)` -/
def readMessages (run : Run) : Transaction World Failure (List Conversations.Message) := fun w =>
  let messages := w.conversations.messagesOf self.safeValue run.conversationId
  .ok (w.noting (askedMarks run messages) [], messages)

def readInput (run : Run) : Prog AttemptInput := do
  let conversation ← storeCall (onConversations (reading fun s => s.get run.conversationId))
  let messages ← storeCall (readMessages self run)
  match messages.find? fun item => item.messageId = run.userMessageId with
  | none => .throw .stopIteration
  | some message =>
    let memory ← memory run.conversationId
    return {
      conversation, original := message.content
      clarifications := clarificationsOf run.runId messages, memory, messages }

def isDiagnostic (run : Run) (input : AttemptInput) (resolved : String) : Prog Bool :=
  if run.runKind = .diagnostic then pure true
  else do
    let rules ← askOk (.extract resolved) (answer_extract resolved)
    return rules.objectiveHint = some .diagnosis ||
      (input.memory.diagnosticFindings ≠ [] && diagnosticFollowup input.original)

/-- The question of an attempt, as the resolver completes it. -/
def resolve (input : AttemptInput) : Prog String :=
  askOk (.resolve (questionOf input.original input.clarifications) input.memory input.messages) rfl

def kindOf (run : Run) (diagnostic : Bool) : RunKind :=
  if diagnostic then .diagnostic
  else if run.runKind = .federated then .federated
  else .normal

def drivePath (run : Run) (input : AttemptInput) (resolved : String) (diagnostic : Bool)
    (previousClarification : Option String) : Prog Unit :=
  match diagnostic with
  | true =>
    if input.conversation.datasourceScope.length > 1 then
      .throw (.federationBlocked "diagnostic_requires_single_source")
    else Diagnostics.drive self run input.conversation resolved input.memory input.clarifications
  | false =>
    driveQuestion self run input.conversation resolved input.memory input.clarifications
      previousClarification

/-- `_drive` -/
def drive (run : Run) (previousClarification : Option String) : Prog Unit :=
  self.unlessCancelled run () do
    let input ← readInput self run
    let resolved ← resolve input
    let diagnostic ← isDiagnostic run input resolved
    let run ← save { run with
      resolvedQuestion := some resolved, runKind := kindOf run diagnostic }
    self.appendEvent run.runId .contextReady [("resolved_question", .str resolved)]
    self.unlessCancelled run () do
      let run ← saveMoved run .discovering id
      drivePath self run input resolved diagnostic previousClarification

/-! ## The failure of an attempt -/

/-- A run in progress whose attempt has failed with `e` is given up. -/
def giveUp (current : Run) (e : Failure) : Prog Unit := do
  let target := if e.blocks then RunStatus.blocked else .failed
  let code := e.failureCode
  let now ← ask .clock
  let moved ← ofExcept (transition current target)
  let _ ← saveNoting (unrecorded current.runId) [] { moved with
    failureCode := some code, failureMessage := some (e.message self.safeError)
    retryable := e.retries, completedAt := some now }
  self.appendEvent current.runId (if e.blocks then .runBlocked else .runFailed)
    [("failure_code", .str code), ("retryable", .bool e.retries)]

/-- `except Exception as error` around the attempt. -/
def handleFailure (runId : String) (e : Failure) : Prog Unit := do
  let current ← getNoting (unrecorded runId) [] runId
  if current.status = .completed then recoverCompletions self
  else if current.status = .waitingUser then recoverClarifications self
  else
    match ← self.cancelIfRequestedNoting (unrecorded runId) [.looked runId] current with
    | some _ => return ()
    | none =>
      if current.status ∈ terminal then return ()
      else giveUp self current e

/-! ## Executing a run -/

/-- The question that the user was asked before this attempt. -/
def previousClarification (run : Run) : Except Failure (Option String) :=
  match run.responseJson with
  | none => .ok none
  | some response =>
    if run.status = .waitingUser ∧ run.runKind = .normal then do
      let previous ← response.asAskResponse
      return previous.clarification.head?.map AskClarification.question
    else .ok none

/-- The run is queued for a worker. -/
def Startable (run : Run) : Prop :=
  run.status = .created ∨ (run.status = .waitingUser ∧ run.currentStage = "resume_queued") ∨
    (run.status = .failed ∧ run.currentStage = "retry_queued")

instance (run : Run) : Decidable (Startable run) := inferInstanceAs (Decidable (_ ∨ _))

/-- The compare-and-swap that wins a run. -/
def win (run : Run) : Prog Run := do
  let moved ← ofExcept (transition run .contextualizing)
  saveNoting nothing [.attempted run.runId]
    { moved with
      failureCode := none, failureMessage := none, retryable := false, responseJson := none
      attempt := if run.status = .failed then run.attempt + 1 else run.attempt }
    [.started run.runId]

/-- A run that was won is driven, and its failure is persisted. -/
def runAttempt (run : Run) (previous : Option String) : Prog Unit := do
  self.appendEventNoting (unrecorded run.runId) run.runId .runStarted
    [("attempt", .int run.attempt)]
  match ← attempt (drive self run previous) with
  | .ok _ => return ()
  | .error e => handleFailure self run.runId e

/-- `execute` -/
def execute (runId : String) : Prog Unit := do
  let run ← get runId
  let previous ← ofExcept (previousClarification run)
  if ¬ Startable run then return ()
  else
    match ← attempt (win run) with
    | .error e => if e.isValueError then return () else .throw e
    | .ok run => runAttempt self run previous

/-! ## What users do -/

/-- `scheduler.submit(run_id, self.execute)` -/
def submit (runId : String) : Prog Unit :=
  atomic fun w => .ok ({ w with submitted := w.submitted ++ [runId] }, ())

/-- A message of the user, which leaves `acts` in the history. -/
def userMessage (messageId conversationId content runId : String)
    (messageKind : Conversations.MessageKind) (acts : List Act := []) : Prog Unit := do
  let now ← ask .clock
  storeCall (marked [] (fun _ => acts) (onConversations fun s => .ok (s.addMessage {
    messageId, conversationId, role := .user, content := self.safeValue content, runId := some runId
    messageKind, createdAt := now }, ())))

/-- The act of creating a run, unless a request of the client has made it already. -/
def queuedNew (run : Run) (w : World) : List Act :=
  if Store.given run.clientRequestId ∧ (w.runs.existing run).isSome then []
  else [.queued run.runId .created]

def create (conversationId question : String) (maxRows : Int) (clientRequestId : Option String) :
    Prog Run := do
  let conversation ← storeCall (onConversations (reading fun s => s.get conversationId))
  if conversation.status ≠ "active" ∨ Infra.isBlank question then
    .throw (.value "active conversation and non-empty question required")
  else if ¬ (1 ≤ maxRows ∧ maxRows ≤ 1000) then
    .throw (.value "max_rows must be between 1 and 1000")
  else
    let runId ← ask .uuid
    let userMessageId ← ask .uuid
    let now ← ask .clock
    let run : Run := {
      runId, conversationId, userMessageId, workspaceId := conversation.workspaceId, maxRows
      clientRequestId, createdAt := now, updatedAt := now }
    let created ← storeCall (marked [] (queuedNew run) (onRuns fun s => s.create run))
    if created.runId = runId then
      self.userMessage userMessageId conversationId question runId .normal
      submit runId
      return created
    else return created

def clarify (runId answer : String) : Prog Run :=
  if Infra.isBlank answer then .throw (.value "clarification answer is required")
  else do
    let run ← get runId
    if run.status ≠ .waitingUser ∨ run.currentStage ≠ "waiting_user" then
      .throw (.value "run is not waiting for clarification")
    else
      let queued ← saveNoting nothing [] { run with currentStage := "resume_queued" }
        [.queued runId .clarified]
      let messageId ← ask .uuid
      self.userMessage messageId run.conversationId answer runId .clarification
        [.answered runId answer]
      submit runId
      return queued

/-- The act of reading a run to cancel it: it has failed and is queued again. -/
def declined (runId : String) (w : World) : List Act :=
  if (w.runs.row runId).any fun run => run.status = .failed ∧ run.currentStage = "retry_queued" then
    [.declined runId]
  else []

def cancel (runId : String) : Prog Run := do
  let run ← getNoting nothing [] runId (declined runId)
  if run.status = .waitingUser then
    let now ← ask .clock
    let moved ← ofExcept (transition run .cancelled)
    let cancelled ← saveNoting nothing [.cancelled runId] { moved with completedAt := some now }
      [.cancelled runId]
    self.appendEvent runId .runCancelled []
    return cancelled
  else if run.status ∈ terminal then return run
  else saveNoting nothing [.cancelled runId] { run with cancelRequested := true } [.cancelled runId]

def retry (runId : String) : Prog Run := do
  let run ← get runId
  if run.status ≠ .failed ∨ ¬ run.retryable ∨ run.currentStage = "retry_queued" then
    .throw (.value "run is not retryable")
  else
    let queued ← saveNoting nothing [] { run with currentStage := "retry_queued" }
      [.queued runId .retried]
    submit runId
    return queued

/-! ## Starting the process -/

/-- A run that was in progress when the process ended. -/
def interrupt (runId : String) : Prog Unit := do
  let current ← get runId
  let interrupted : Except Failure Unit ← attempt do
    let _ ← saveMoved current .failed fun run => { run with
      failureCode := some "run_interrupted", failureMessage := some "运行被进程重启中断，可重试"
      retryable := true }
    self.appendEvent runId .runFailed
      [("failure_code", .str "run_interrupted"), ("retryable", .bool true)]
  match interrupted with
  | .ok _ => return ()
  | .error e => if e.isValueError then return () else .throw e

/-- `runs.recover_interrupted` -/
def recoverInterrupted : Prog Unit := do
  let runs ← storeCall (onRuns (reading fun s => .ok s.activeRuns))
  forEach (fun run => interrupt self run.runId) runs

/-- `DiagnosticRepository.recover_running` -/
def recoverDiagnosticTasks : Prog Unit := do
  let tasks ← storeCall (onDiagnostics (reading fun s => .ok (s.tasks.map fun row => row.state)))
  forEach (fun task => do
    let _ ← Diagnostics.saveTask { task with
      status := .failed, failureCode := some "task_interrupted"
      failureMessage := some "证据查询被进程重启中断", retryable := true })
    (tasks.filter fun task => task.status = .running)

/-- `FederationRepository.recover_running` -/
def recoverSourceTasks : Prog Unit := do
  let tasks ← storeCall (onFederation (reading fun s => .ok (s.tasks.map fun row => row.state)))
  forEach (fun task => do
    let _ ← Federation.saveTask { task with
      status := .failed, failureCode := some "task_interrupted", retryable := true })
    (tasks.filter fun task => task.status = .running)

/-- `RunOrchestrator.__init__` -/
def start : Prog Unit := do
  recoverDiagnosticTasks
  recoverSourceTasks
  recoverInterrupted self
  recoverCompletions self
  recoverClarifications self
  let queued ← storeCall (onRuns (reading fun s => .ok s.queuedRunIds))
  forEach submit queued

end Orchestrator

end Runtime
