import Qaneris.Application.Payloads
import Qaneris.Infra.Raising

/-!
# Ask

One question is answered by one pipeline that gives out a record for each stage it passes. Every stage
may raise; the pipeline then ends with the error. `ask` consumes the records, `ask_stream` makes their
events public.
-/

namespace Application

open Contracts
open Infra (Json Raising raising)
open Semantic (ClarificationRequest GroundingResult SemanticRetrievalResult)

/-- What Ask reads of a registered source. -/
structure Datasource where
  id : String
  status : String
  deriving DecidableEq, Repr

/-- The stages of Ask and what else it calls. Each of them returns or raises. -/
structure QanerisService (ρ : Type) where
  serializer : Serializer
  listDatasources : (workspaceId : String) → Except AskException (List Datasource)
  executeExplicitSql : AskRequest → Datasource → QueryPlanStep → Except AskException AskResponse
  isWorkspaceInventoryQuestion : (question : String) → Except AskException Bool
  isSchemaInventoryQuestion : (question : String) → Except AskException Bool
  schemaInventoryResponse : AskRequest → Except AskException AskResponse
  understandIntent : (question : String) → (requestedDatasourceId : Option String) →
    Except AskException (IntentUnderstandingResult ρ)
  retrieveSemantics : BusinessQuery → (workspaceId : String) →
    (requestedDatasourceId : Option String) → Except AskException SemanticRetrievalResult
  groundSemantics : BusinessQuery → SemanticRetrievalResult → Except AskException GroundingResult
  normalizeTimeRange : ρ → Except AskException (Option TimeRange)
  buildQueryContext : GroundingResult → (workspaceId : String) →
    (requestedDatasourceId : Option String) → Option TimeRange → Option TimeSpec →
    Except AskException GroundedQueryContext
  planGroundedQuery : GroundedQueryContext → Except AskException GroundedQueryPlan
  generateGroundedQuery : GroundedQueryPlan → Except AskException NativeQuery
  executeGroundedPlan : GroundedQueryContext → GroundedQueryPlan → (workspaceId : String) →
    (maxRows : Int) → Except AskException (AskResult × ExecutionEvidence)
  analyze : List Row → Except AskException Payload
  summarize : (question : String) → (rowCount : Nat) → (analysis : Payload) → (truncated : Bool) →
    Except AskException String
  /-- The text of an answer and where it is from. -/
  compose : (question : String) → AskResult → (analysis : Payload) → (deterministicFallback : String) →
    Except AskException (String × String)

/-- `_AskEventRecord` -/
structure AskEventRecord where
  event : AskEvent
  response : Option AskResponse := none
  exception : Option AskException := none

/-- The records an invocation has given out, and the number of the last one. -/
structure Emitted where
  sequence : Nat := 0
  records : List AskEventRecord := []

abbrev Generator := Raising Emitted AskException

namespace QanerisService

variable {ρ : Type} (service : QanerisService ρ) (correlationId : CorrelationId)

/-- The record after the one numbered `sequence`. -/
def nextRecord (eventType : AskEventType) (payload : Payload) (response : Option AskResponse)
    (exception : Option AskException) (sequence : Nat) : AskEventRecord where
  event := AskEvent.make service.serializer.redactor eventType (sequence + 1) correlationId payload
    (Nat.succ_le_succ (Nat.zero_le _))
  response := response
  exception := exception

def emit (eventType : AskEventType) (payload : Payload) (response : Option AskResponse)
    (exception : Option AskException) (s : Emitted) : Emitted where
  sequence := s.sequence + 1
  records := s.records ++
    [service.nextRecord correlationId eventType payload response exception s.sequence]

/-- `record`, given out. -/
def record (eventType : AskEventType) (payload : Payload) (response : Option AskResponse := none)
    (exception : Option AskException := none) : Generator Unit :=
  modify (service.emit correlationId eventType payload response exception)

/-! ## Readiness -/

def notFound (workspaceId datasourceId : String) : AskException :=
  .qaneris "datasource_not_found" ("工作区 " ++ workspaceId ++ " 中不存在数据源 " ++ datasourceId)

def unavailable (workspaceId : String) : AskException :=
  .qaneris "datasource_unavailable" ("工作区 " ++ workspaceId ++ " 中没有可用数据源")

/-- `_require_ready_scope` -/
def requireReadyScope (workspaceId : String) (datasourceId : Option String) :
    Except AskException Unit := do
  let datasources ← service.listDatasources workspaceId
  if truthy datasourceId then
    match datasources.find? fun item => some item.id = datasourceId with
    | none => throw (notFound workspaceId (datasourceId.getD ""))
    | some datasource =>
      if datasource.status ≠ "ready" then
        throw (.qaneris "datasource_not_ready" "指定数据源尚未扫描，请先执行 scan_datasource")
  else if datasources = [] then throw (unavailable workspaceId)
  else if datasources.all fun item => item.status ≠ "ready" then
    throw (.qaneris "datasource_not_ready" "工作区中没有已完成扫描的数据源")

/-- `_prepare_explicit_sql` -/
def prepareExplicitSql (request : AskRequest) : Except AskException (Datasource × QueryPlanStep) := do
  let listed ← service.listDatasources request.workspaceId
  let datasources :=
    if truthy request.datasourceId then
      listed.filter fun item => some item.id = request.datasourceId
    else listed
  if truthy request.datasourceId ∧ datasources = [] then
    throw (notFound request.workspaceId (request.datasourceId.getD ""))
  if datasources = [] then throw (unavailable request.workspaceId)
  match datasources.find? fun item => item.status = "ready" with
  | none => throw (.qaneris "datasource_not_ready" "数据源尚未扫描，请先执行 scan_datasource")
  | some datasource =>
    return (datasource,
      { id := "legacy-explicit-sql"
        datasourceId := datasource.id
        dataset := "query"
        purpose := "显式 SQL：" ++ request.question
        query := request.sql.getD "" })

/-! ## Responses -/

/-- `_clarification_response` -/
def clarificationResponse (question : String) (query : BusinessQuery)
    (clarifications : List ClarificationRequest) : AskResponse :=
  let public_ : List AskClarification := clarifications.map fun item =>
    { question := item.question
      options := item.options.map (·.label)
      actionable := !("grounding_".toList.isPrefixOf item.clarificationId.toList && item.options.isEmpty)
      question_length := item.question_length }
  { question
    status := .clarificationRequired
    answer := (public_.head?.map (·.question)).getD "需要进一步澄清。"
    businessQuery := some query
    clarification := public_ }

/-- `_plain_clarification` -/
def plainClarification (question : String) (query : BusinessQuery) (message : String)
    (options : List String) (h : 1 ≤ message.length) : AskResponse where
  question := question
  status := .clarificationRequired
  answer := message
  businessQuery := some query
  clarification := [{ question := message, options, question_length := h }]

/-- What is asked when grounding refuses without a question of its own. -/
def groundingUnavailable : ClarificationRequest where
  clarificationId := "grounding_unavailable"
  field := "grounding"
  question := "当前已发布数据中没有找到足够的受治理结构来回答这个问题。" ++
    "请检查相应数据源是否已经扫描并发布所需业务字段。"
  clarificationId_length := by decide
  field_length := by decide
  question_length := by decide +kernel

/-! ## The pipeline -/

/-- The record of the outcome and the one that ends the stream. -/
def finish (eventType : AskEventType) (payload : Except AskException Payload) (response : AskResponse)
    (exception : Option AskException := none) : Generator Unit := do
  let payload ← raising payload
  service.record correlationId eventType payload (some response) exception
  service.record correlationId .done (donePayload response) (some response)

def clarify (response : AskResponse) : Generator Unit :=
  service.finish correlationId .clarificationRequired (service.serializer.clarificationPayload response)
    response

def answer (response : AskResponse) : Generator Unit :=
  service.finish correlationId .resultReady (service.serializer.resultPayload response) response

/-- The branch of a request with its own query. -/
def explicitSql (request : AskRequest) : Generator Unit := do
  let (datasource, step) ← raising (service.prepareExplicitSql request)
  service.record correlationId .planReady (legacyPlanPayload step)
  service.record correlationId .queryReady
    [("stage", .str "query"), ("datasource_id", .str datasource.id), ("query_language", .str "sql"),
     ("display_command", .str "<explicit read-only SQL>")]
  service.record correlationId .executionStarted
    [("stage", .str "execution"), ("datasource_id", .str datasource.id), ("plan_id", .str step.id)]
  let response ← raising (service.executeExplicitSql request datasource step)
  service.answer correlationId response

/-- What the event of an inventory tells; without a result there is no row count to read. -/
def inventoryPayload (request : AskRequest) (workspaceInventory : Bool) (response : AskResponse) :
    Except AskException Payload :=
  match response.result with
  | none => .error (.other "AttributeError" "'NoneType' object has no attribute 'row_count'")
  | some result => .ok
    [("stage", .str "retrieval"),
     ("datasource_id", optional .str request.datasourceId),
     ("scan_version", (Infra.Dict.get? response.analysis "scan_version").getD .null),
     ("candidate_count", .int result.rowCount),
     ("retrieval_path", .str (if workspaceInventory then "workspace_catalog" else "published_schema"))]

/-- The branch of a question about the structure of the sources. -/
def schemaInventory (request : AskRequest) (workspaceInventory : Bool) : Generator Unit := do
  let response ← raising (service.schemaInventoryResponse request)
  if response.status = .completed then
    let payload ← raising (inventoryPayload request workspaceInventory response)
    service.record correlationId .retrievalReady payload
  if response.status = .clarificationRequired then service.clarify correlationId response
  else service.answer correlationId response

/-- From a grounded question with its time axis to the answer. -/
def execute (request : AskRequest) (intent : IntentUnderstandingResult ρ) (grounding : GroundingResult)
    (timeRange : Option TimeRange) (timeSpec : Option TimeSpec) : Generator Unit := do
  let query := intent.businessQuery
  let context ← raising (service.buildQueryContext grounding request.workspaceId
    intent.requestedDatasourceId timeRange timeSpec)
  let plan ← raising (service.planGroundedQuery context)
  service.record correlationId .planReady (planPayload plan)
  let native ← raising (service.generateGroundedQuery plan)
  service.record correlationId .queryReady (nativeQueryPayload native)
  service.record correlationId .executionStarted
    [("stage", .str "execution"), ("datasource_id", .str plan.datasourceId),
     ("scan_version", optional .int plan.scanVersion), ("plan_id", .str plan.planId)]
  let (result, evidence) ← raising
    (service.executeGroundedPlan context plan request.workspaceId request.maxRows)
  let analysis ← raising (service.analyze result.rows)
  let analysis :=
    if query.ambiguities = [] then analysis
    else Infra.Dict.set analysis "intent_ambiguities" (texts query.ambiguities)
  let fallback ← raising
    (service.summarize request.question result.rowCount analysis result.truncated)
  let (text, source) ← raising (service.compose request.question result analysis fallback)
  service.answer correlationId
    { question := request.question
      status := .completed
      answer := text
      businessQuery := some query
      plan := some (.grounded plan)
      result := some result
      evidence := some evidence
      analysis := Infra.Dict.set analysis "answer_source" (.str source) }

/-- The terms bound to a time axis, each once. -/
def timeAxes (grounding : GroundingResult) : List { term : String // 1 ≤ term.length } :=
  (grounding.groundedQuery.bindings.filterMap fun binding =>
    if binding.timeAxis then some ⟨binding.businessTerm, binding.businessTerm_length⟩ else none).eraseDups

/-- The time range of the question and the axis it is on; the user is asked where one is missing. -/
def resolveTime (request : AskRequest) (intent : IntentUnderstandingResult ρ)
    (grounding : GroundingResult) : Generator Unit := do
  let query := intent.businessQuery
  let timeRange ← raising (service.normalizeTimeRange intent.ruleExtraction)
  if truthy query.timeExpression then
    if timeRange.isNone then
      service.clarify correlationId (plainClarification request.question query
        "无法可靠归一化当前时间范围，请提供明确的日期或受支持的相对时间。" [] (by decide))
    else
      match timeAxes grounding with
      | [axis] =>
        service.execute correlationId request intent grounding timeRange
          (some { dimension := axis.val, dimension_length := axis.property })
      | axes =>
        service.clarify correlationId (plainClarification request.question query
          "请明确唯一的业务时间维度（例如下单日期、支付日期或发货日期）。" (axes.map (·.val)) (by decide))
  else service.execute correlationId request intent grounding timeRange none

/-- The branch of a question in natural language. -/
def naturalLanguage (request : AskRequest) : Generator Unit := do
  let intent ← raising (service.understandIntent request.question request.datasourceId)
  service.record correlationId .intentReady (intentPayload intent)
  let query := intent.businessQuery
  if intent.clarifications ≠ [] then
    service.clarify correlationId
      (clarificationResponse request.question query intent.clarifications)
  else
    let retrieval ← raising
      (service.retrieveSemantics query request.workspaceId intent.requestedDatasourceId)
    service.record correlationId .retrievalReady (retrievalPayload retrieval)
    let grounding ← raising (service.groundSemantics query retrieval)
    service.record correlationId .groundingReady (groundingPayload grounding)
    if grounding.clarifications ≠ [] ∨ grounding.isExecutable = false
        ∨ grounding.groundedQuery.bindings = [] then
      let clarifications :=
        if grounding.clarifications = [] then [groundingUnavailable] else grounding.clarifications
      service.clarify correlationId (clarificationResponse request.question query clarifications)
    else service.resolveTime correlationId request intent grounding

/-- What is done within `try`. -/
def pipeline (request : AskRequest) : Generator Unit :=
  if request.sql.isSome then service.explicitSql correlationId request
  else do
    let workspaceInventory ←
      if request.datasourceId.isNone then raising (service.isWorkspaceInventoryQuestion request.question)
      else pure false
    if workspaceInventory = false then
      raising (service.requireReadyScope request.workspaceId request.datasourceId)
    if ← raising (service.isSchemaInventoryQuestion request.question) then
      service.schemaInventory correlationId request workspaceInventory
    else service.naturalLanguage correlationId request

/-- What is done when the pipeline has raised. -/
def fail (request : AskRequest) (error : AskException) : Generator Unit :=
  let detail := service.serializer.askErrorDetail error
  let failed : AskResponse :=
    { question := request.question, status := .failed, answer := detail.message, error := some detail }
  let payload : Except AskException Payload := do
    let public_ ← service.serializer.publicResponse failed
    return [("stage", .str "error"), ("error", Serializer.errorJson detail), ("response", public_)]
  service.finish correlationId .error payload failed (some error)

/-- `_ask_event_records` -/
def askEventRecords (request : AskRequest) : Generator Unit := do
  service.record correlationId .accepted
    [("stage", .str "accepted"), ("workspace_id", .str request.workspaceId),
     ("datasource_id", optional .str request.datasourceId)]
  tryCatch (service.pipeline correlationId request) (service.fail correlationId request)

/-! ## The two consumers -/

/-- The response and the exception that the records leave. -/
def consume (records : List AskEventRecord) : Option AskResponse × Option AskException :=
  records.foldl (fun kept record => (record.response.or kept.1, record.exception.or kept.2)) (none, none)

/-- `ask`; what the generator itself raises comes first. -/
def ask (request : AskRequest) : Except AskException AskResponse :=
  match (service.askEventRecords correlationId request).run.run {} with
  | (.error e, _) => .error e
  | (.ok _, emitted) =>
    match consume emitted.records with
    | (_, some failure) => .error failure
    | (some response, none) => .ok response
    | (none, none) => .error (.other "RuntimeError" "Ask orchestration ended without a response")

/-- `ask_stream`, read to its end. -/
def askStream (request : AskRequest) : Except AskException Unit × List AskEvent :=
  let (outcome, emitted) := (service.askEventRecords correlationId request).run.run {}
  (outcome, emitted.records.map (·.event))

end QanerisService

end Application
