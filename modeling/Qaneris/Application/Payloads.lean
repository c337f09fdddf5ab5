import Qaneris.Contracts.AskEvents
import Qaneris.Contracts.Context
import Qaneris.Infra.Dict
import Qaneris.Semantic.Grounding

/-!
# What the events of Ask tell

The projection of each stage that is made public. What a response is written as is up to the
serializer, which may refuse a value of a row or of an analysis.
-/

namespace Application

open Contracts
open Infra (Dict Json)
open Semantic (GroundingResult SemanticRetrievalResult)

/-- An exception: a `QanerisError` with its code and message, or any other. -/
inductive AskException where
  | qaneris (code message : String)
  | other (typeName text : String)
  deriving DecidableEq, Repr

/-! ## Names on the wire -/

def objectiveValue : BusinessObjective → String
  | .lookup => "lookup"
  | .comparison => "comparison"
  | .trend => "trend"
  | .ranking => "ranking"
  | .diagnosis => "diagnosis"

def outputValue : RequestedOutput → String
  | .scalar => "scalar"
  | .table => "table"
  | .trend => "trend"
  | .explanation => "explanation"

def assetTypeValue : SemanticAssetType → String
  | .businessTerm => "business_term"
  | .metric => "metric"
  | .dimension => "dimension"
  | .datasource => "datasource"
  | .dataObject => "data_object"
  | .field => "field"
  | .relationship => "relationship"
  | .historicalQuery => "historical_query"

def retrievalPathValue : Semantic.SemanticRetrievalPath → String
  | .trusted => "trusted"
  | .exploratory => "exploratory"

def queryLanguageValue : QueryLanguage → String
  | .sql => "sql"
  | .cql => "cql"
  | .cypher => "cypher"
  | .flux => "flux"
  | .redisJson => "redis_json"
  | .mongodbJson => "mongodb_json"
  | .couchdbMango => "couchdb_mango"
  | .hbaseJson => "hbase_json"
  | .searchJson => "search_json"
  | .vectorFilterJson => "vector_filter_json"
  | .graphql => "graphql"

def resultTypeValue : QueryResultType → String
  | .scalar => "scalar"
  | .tabular => "tabular"
  | .document => "document"
  | .keyValue => "key_value"
  | .wideColumn => "wide_column"
  | .graph => "graph"
  | .timeSeries => "time_series"
  | .search => "search"
  | .vector => "vector"

def statusValue : AskStatus → String
  | .completed => "completed"
  | .clarificationRequired => "clarification_required"
  | .failed => "failed"

/-- A value that may be missing. -/
def optional {α : Type} (write : α → Json) : Option α → Json
  | none => .null
  | some a => write a

def texts (items : List String) : Json := .arr (items.map .str)

/-! ## Stages before the answer -/

/-- What intent understanding leaves: the business query with its confidence, and what the rules
extracted. -/
structure IntentUnderstandingResult (ρ : Type) where
  businessQuery : BusinessQuery
  confidence : Rat := 1
  ruleExtraction : ρ
  clarifications : List Semantic.ClarificationRequest := []
  requestedDatasourceId : Option String := none

/-- `_intent_payload` -/
def intentPayload {ρ : Type} (intent : IntentUnderstandingResult ρ) : Payload :=
  let query := intent.businessQuery
  [("stage", .str "intent"),
   ("datasource_id", optional .str intent.requestedDatasourceId),
   ("intent", .obj
     [("objective", .str (objectiveValue query.objective)),
      ("entities", texts query.entities),
      ("metrics", texts query.metrics),
      ("dimensions", texts query.dimensions),
      ("has_filters", .bool (query.filters ≠ [])),
      ("time_expression", optional .str query.timeExpression),
      ("requested_output", texts (query.requestedOutput.map outputValue)),
      ("confidence", .real intent.confidence)])]

/-- `_retrieval_payload` -/
def retrievalPayload (retrieval : SemanticRetrievalResult) : Payload :=
  [("stage", .str "retrieval"),
   ("datasource_id", optional .str retrieval.requestedDatasourceId),
   ("datasource_ids", texts (Semantic.distinct (retrieval.candidates.map (·.datasourceId)))),
   ("scan_version", optional .int retrieval.scanVersion),
   ("candidate_count", .int retrieval.candidates.length),
   ("retrieval_path", .str (retrievalPathValue retrieval.retrievalPath))]

/-- `_grounding_payload` -/
def groundingPayload (grounding : GroundingResult) : Payload :=
  let grounded := grounding.groundedQuery
  [("stage", .str "grounding"),
   ("datasource_id", optional .str grounded.requestedDatasourceId),
   ("scan_version", optional .int grounded.scanVersion),
   ("is_executable", .bool grounding.isExecutable),
   ("bindings", .arr (grounded.bindings.map fun binding => .obj
     [("business_term", .str binding.businessTerm),
      ("asset_type", .str (assetTypeValue binding.assetType)),
      ("datasource_id", optional .str binding.datasourceId),
      ("data_object_id", optional .str binding.dataObjectId),
      ("field_path", optional .str binding.fieldPath),
      ("relationship_id", optional .str binding.relationshipId)]))]

/-- `_plan_payload` -/
def planPayload (plan : GroundedQueryPlan) : Payload :=
  [("stage", .str "plan"),
   ("plan", .obj
     [("plan_id", .str plan.planId),
      ("workspace_id", .str plan.workspaceId),
      ("datasource_id", .str plan.datasourceId),
      ("data_object_ids", texts plan.dataObjectIds),
      ("scan_version", optional .int plan.scanVersion),
      ("aggregate_count", .int plan.aggregates.length),
      ("selected_field_count", .int plan.selectedFields.length),
      ("filter_count", .int plan.filters.length),
      ("join_count", .int plan.joins.length),
      ("limit", .int plan.limit),
      ("expected_result_type", .str (resultTypeValue plan.expectedResultType))])]

/-- `_legacy_plan_payload` -/
def legacyPlanPayload (step : QueryPlanStep) : Payload :=
  [("stage", .str "plan"),
   ("plan", .obj
     [("plan_id", .str step.id),
      ("datasource_id", .str step.datasourceId),
      ("dataset", .str step.dataset),
      ("query_language", .str step.queryLanguage),
      ("purpose", .str "explicit_native_query")])]

/-- `_native_query_payload`: the command itself and its parameters stay private. -/
def nativeQueryPayload (native : NativeQuery) : Payload :=
  [("stage", .str "query"),
   ("datasource_id", .str native.datasourceId),
   ("scan_version", optional .int native.scanVersion),
   ("plan_id", .str native.planId),
   ("query_language", .str (queryLanguageValue native.queryLanguage)),
   ("display_command", .str native.displayCommand)]

/-! ## Responses -/

/-- `SENSITIVE_FIELD_TOKENS` -/
def sensitiveFieldTokens : List String :=
  ["password", "passwd", "secret", "token", "api_key", "private_key", "phone", "mobile", "email",
   "身份证", "手机号", "邮箱"]

/-- What serves a response to the outside: how it is written as JSON, lower case, and what is redacted. -/
structure Serializer where
  /-- `response.model_dump(mode="json")` -/
  response : AskResponse → Except AskException Payload
  /-- `evidence.model_dump(mode="json")` -/
  evidence : ExecutionEvidence → Except AskException Json
  lower : String → String
  redactor : Redactor
  /-- A response of texts only is written without failure. -/
  response_failed : ∀ question answer error, ∃ payload,
    response { question, status := .failed, answer, error := some error } = .ok payload

namespace Serializer

variable (serializer : Serializer)

/-- `is_sensitive_field` -/
def isSensitiveField (name : String) : Bool :=
  sensitiveFieldTokens.any fun token => token.toList <:+: (serializer.lower name).toList

/-- `str(value)` of a name that has been written. -/
def nameOf : Option Json → String
  | some (.str name) => name
  | some .null => "None"
  | _ => ""

/-- The subject of a filter of the business query. -/
def sensitiveSubject (item : Dict Json) : Bool :=
  serializer.isSensitiveField (nameOf (item.get? "subject"))

/-- The field of a filter of the plan. -/
def sensitiveFilter (item : Dict Json) : Bool :=
  match item.get? "field" with
  | some (.obj field) =>
    serializer.isSensitiveField (nameOf (Dict.get? field "business_term"))
      || serializer.isSensitiveField (nameOf (Dict.get? field "field_path"))
  | _ => false

/-- The filter with its value hidden where it is sensitive, and the value if it is a text. -/
def hideValue (sensitive : Dict Json → Bool) : Json → Json × List String
  | .obj item =>
    if sensitive item then
      (.obj (Dict.set item "value" (.str "<redacted>")),
        match Dict.get? item "value" with
        | some (.str text) => [text]
        | _ => [])
    else (.obj item, [])
  | item => (item, [])

def hideFilters (sensitive : Dict Json → Bool) (document : Dict Json) : Dict Json × List String :=
  match document.get? "filters" with
  | some (.arr items) =>
    let hidden := items.map (hideValue sensitive)
    (document.set "filters" (.arr (hidden.map Prod.fst)), hidden.flatMap Prod.snd)
  | _ => (document, [])

def hideStep : Json → Json
  | .obj step =>
    if (Dict.get? step "query").isSome then
      .obj (Dict.set step "query" (.str "<redacted explicit SQL>"))
    else .obj step
  | step => step

/-- What `_public_response` hides of the business query. -/
def hideBusinessQuery (payload : Dict Json) : Dict Json × List String :=
  match payload.get? "business_query" with
  | some (.obj query) =>
    let hidden := hideFilters serializer.sensitiveSubject query
    (payload.set "business_query" (.obj hidden.1), hidden.2)
  | _ => (payload, [])

/-- What `_public_response` hides of the plan. -/
def hidePlan (payload : Dict Json) : Dict Json × List String :=
  match payload.get? "plan" with
  | some (.arr steps) => (payload.set "plan" (.arr (steps.map hideStep)), [])
  | some (.obj plan) =>
    let hidden := hideFilters serializer.sensitiveFilter plan
    (payload.set "plan" (.obj hidden.1), hidden.2)
  | _ => (payload, [])

/-- `_public_response` -/
def publicResponse (response : AskResponse) : Except AskException Json := do
  let payload ← serializer.response response
  let query := serializer.hideBusinessQuery payload
  let plan := serializer.hidePlan query.1
  return .obj (serializer.redactor.fieldValues (query.2 ++ plan.2) plan.1)

/-- `item.model_dump(mode="json")` -/
def clarificationJson (item : AskClarification) : Json :=
  .obj [("question", .str item.question), ("options", texts item.options),
        ("actionable", .bool item.actionable)]

/-- `_clarification_payload` -/
def clarificationPayload (response : AskResponse) : Except AskException Payload := do
  let public_ ← serializer.publicResponse response
  return [("stage", .str "clarification"),
          ("status", .str (statusValue response.status)),
          ("clarification", .arr (response.clarification.map clarificationJson)),
          ("response", public_)]

/-- `_result_payload` -/
def resultPayload (response : AskResponse) : Except AskException Payload := do
  let evidence ← match response.evidence with
    | some evidence => serializer.evidence evidence
    | none => pure .null
  let public_ ← serializer.publicResponse response
  return [("stage", .str "result"),
          ("status", .str (statusValue response.status)),
          ("datasource_id", optional .str (response.result.bind (·.source))),
          ("row_count", .int (response.result.elim 0 (·.rowCount))),
          ("truncated", .bool (response.result.elim false (·.truncated))),
          ("evidence", evidence),
          ("response", public_)]

/-- `_ask_error_detail` -/
def askErrorDetail : AskException → ErrorDetail
  | .qaneris code message => { code, message := serializer.redactor.text [] message }
  | .other _ _ => { code := "internal_error", message := "问数执行失败。" }

/-- `detail.model_dump(mode="json")`; an Ask failure has no place in a sheet. -/
def errorJson (detail : ErrorDetail) : Json :=
  .obj [("code", .str detail.code), ("message", .str detail.message), ("sheet", .null),
        ("coordinate", .null)]

end Serializer

/-- `_done_payload` -/
def donePayload (response : AskResponse) : Payload :=
  [("stage", .str "done"), ("status", .str (statusValue response.status))]

end Application
