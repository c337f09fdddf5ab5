import Mathlib.Data.List.Infix
import Mathlib.Data.List.Sort
import Qaneris.Infra.Unicode
import Qaneris.Semantic.Models

/-!
# Grounding

`SemanticGrounder`: each business expression of a query is bound to one physical asset that retrieval
has confirmed, or it is reported. How Python writes a list of strings is a parameter.
-/

namespace Semantic

open Contracts

/-! ## Slots -/

inductive GroundingSlot where
  | metric
  | dimension
  | entity
  | filter
  | rankingMetric
  | derivationMetric
  | timeAxis
  deriving DecidableEq, Repr

namespace GroundingSlot

def value : GroundingSlot → String
  | .metric => "metric"
  | .dimension => "dimension"
  | .entity => "entity"
  | .filter => "filter"
  | .rankingMetric => "ranking_metric"
  | .derivationMetric => "derivation_metric"
  | .timeAxis => "time_axis"

/-- `_SLOT_ASSET_TYPES` -/
def assetTypes : GroundingSlot → List SemanticAssetType
  | .metric | .rankingMetric | .derivationMetric => [.metric]
  | .dimension | .timeAxis => [.dimension]
  | .entity => [.businessTerm, .dataObject]
  | .filter => [.dimension, .field]

/-- `_SLOT_LABELS` -/
def label : GroundingSlot → String
  | .metric => "指标"
  | .dimension => "维度"
  | .entity => "业务实体"
  | .filter => "过滤维度"
  | .rankingMetric => "排名指标"
  | .derivationMetric => "衍生指标"
  | .timeAxis => "业务时间轴"

end GroundingSlot

/-! ## Texts -/

/-- `normalize_term`: what `[a-z0-9]+|[一-鿿]` finds, joined. -/
def normalizeTerm (value : String) : List Char :=
  (Infra.casefold value.toList).filter fun c =>
    ('a' ≤ c && c ≤ 'z') || ('0' ≤ c && c ≤ '9') || (0x4E00 ≤ c.toNat && c.toNat ≤ 0x9FFF)

/-- `_slug` -/
def slug (value : String) : String :=
  if normalizeTerm value = [] then "term" else String.ofList (normalizeTerm value)

/-- `sorted(set(values))` -/
def sortedSet (values : List String) : List String := values.dedup.insertionSort (· ≤ ·)

/-- `_distinct` -/
def distinct (values : List (Option String)) : List String :=
  sortedSet (values.filterMap fun value => if truthy value then value else none)

/-- `_unique` -/
def unique (messages : List String) : List String := messages.eraseDups

/-- `a or b` -/
def orElse (a : Option String) (b : String) : String := if truthy a then a.getD b else b

/-! ## Candidates -/

/-- `_TYPE_PRIORITY` -/
def typePriority : SemanticAssetType → Nat
  | .metric | .dimension => 0
  | .businessTerm => 1
  | .dataObject | .field => 2
  | .relationship => 3
  | .datasource | .historicalQuery => 9

/-- `_candidate_order`, as the comparison of two candidates. -/
def candidateLe (a b : SemanticCandidate) : Bool :=
  if typePriority a.assetType ≠ typePriority b.assetType then
    typePriority a.assetType < typePriority b.assetType
  else if a.score ≠ b.score then b.score < a.score
  else if a.name ≠ b.name then a.name < b.name
  else a.assetId ≤ b.assetId

/-- `sorted(candidates, key=_candidate_order)` -/
def sortCandidates (candidates : List SemanticCandidate) : List SemanticCandidate :=
  candidates.insertionSort fun a b => candidateLe a b = true

/-- `_preferred`: the first of the least ones. -/
def preferred (first : SemanticCandidate) (others : List SemanticCandidate) : SemanticCandidate :=
  others.foldl (fun best candidate => if candidateLe best candidate then best else candidate) first

attribute [local instance] Infra.lawfulBEq_chars

/-- `_address_strength` -/
def addressStrength (candidate : SemanticCandidate) (term : String) : Nat :=
  let target := normalizeTerm term
  let labels := ((candidate.name :: candidate.labels).map normalizeTerm).filter (· ≠ [])
  if target = [] then 0
  else if target ∈ labels then 2
  else if labels.any fun value => 2 ≤ value.length && value <:+: target then 1
  else if (candidate.matchedPhrases.map normalizeTerm).any fun phrase =>
    phrase ≠ [] && (target = phrase || target <:+: phrase) then 1
  else 0

/-- `_has_physical_identity` -/
def hasPhysicalIdentity (candidate : SemanticCandidate) : Bool :=
  match candidate.assetType with
  | .metric | .dimension | .field =>
    truthy candidate.datasourceId && truthy candidate.dataObjectId && truthy candidate.fieldPath
  | .relationship => truthy candidate.relationshipId
  | _ => truthy candidate.datasourceId && truthy candidate.dataObjectId

/-- What a candidate stands for in the datasource. -/
structure PhysicalTarget where
  datasourceId : String
  dataObjectId : Option String
  fieldPath : Option String
  deriving DecidableEq, Repr

/-- `_physical_target` -/
def physicalTarget (slot : GroundingSlot) (candidate : SemanticCandidate) : PhysicalTarget :=
  ⟨candidate.datasourceId.getD "", candidate.dataObjectId,
    if slot = .entity then none else candidate.fieldPath⟩

/-- A target with the candidates that stand for it, which are never none. -/
structure PhysicalGroup where
  target : PhysicalTarget
  first : SemanticCandidate
  others : List SemanticCandidate
  deriving DecidableEq, Repr

/-- `groups.setdefault(target, []).append(candidate)` -/
def addToGroup (slot : GroundingSlot) (candidate : SemanticCandidate) :
    List PhysicalGroup → List PhysicalGroup
  | [] => [⟨physicalTarget slot candidate, candidate, []⟩]
  | group :: groups =>
    if group.target = physicalTarget slot candidate then
      { group with others := group.others ++ [candidate] } :: groups
    else group :: addToGroup slot candidate groups

/-- `_physical_groups` -/
def physicalGroups (slot : GroundingSlot) (candidates : List SemanticCandidate) : List PhysicalGroup :=
  (sortCandidates candidates).foldl (fun groups candidate => addToGroup slot candidate groups) []

def PhysicalGroup.preferred (group : PhysicalGroup) : SemanticCandidate :=
  Semantic.preferred group.first group.others

/-! ## Clarifications -/

/-- The candidate is of the requested datasource, if one is requested. -/
def inRequested (retrieval : SemanticRetrievalResult) (candidate : SemanticCandidate) : Bool :=
  !truthy retrieval.requestedDatasourceId || candidate.datasourceId = retrieval.requestedDatasourceId

/-- `_missing_clarification` -/
def missingClarification (slot : GroundingSlot) (term : String) (retrieval : SemanticRetrievalResult) :
    Except String ClarificationRequest :=
  let physical := retrieval.candidates.filter fun candidate =>
    slot = .dimension && candidate.assetType = .field && truthy candidate.fieldPath
      && 0 < addressStrength candidate term && inRequested retrieval candidate
  let physicalNames := sortedSet (physical.map fun candidate =>
    let object := orElse candidate.dataObjectName (candidate.dataObjectId.getD "None")
    let path := candidate.fieldPath.getD ""
    s!"{object}.{path}")
  let names := ", ".intercalate (physicalNames.take 3)
  let label := slot.label
  let hint :=
    if physicalNames ≠ [] then
      s!"扫描字段 {names} 的名称可能对应“{term}”，但字段名翻译不能替代已确认的业务维度；请确认并发布该字段的业务定义。"
    else
      s!"当前已发布数据中没有找到可确认的{label}“{term}”。如果该数据存在，请补充对应数据源或发布相应业务定义。"
  ClarificationRequest.make s!"grounding_missing_{slot.value}_{slug term}" s!"{slot.value}:{term}" hint []

/-- `_unavailable_clarification` -/
def unavailableClarification (slot : GroundingSlot) (term reason : String) :
    Except String ClarificationRequest :=
  ClarificationRequest.make s!"grounding_unavailable_{slot.value}_{slug term}" s!"{slot.value}:{term}"
    s!"当前无法确认{slot.label}“{term}”：{reason}。请先完成该业务定义的发布。" []

/-- `_option_description` -/
def optionDescription (candidate : SemanticCandidate) : Option String :=
  if truthy candidate.fieldPath then some ("物理字段：" ++ candidate.fieldPath.getD "") else none

/-- `_ambiguity_clarification` -/
def ambiguityClarification (slot : GroundingSlot) (term : String) (groups : List PhysicalGroup) :
    Except String ClarificationRequest := do
  let options ← (sortCandidates (groups.map PhysicalGroup.preferred)).mapM fun candidate =>
    ClarificationOption.make candidate.assetId candidate.name (optionDescription candidate)
  let labels := "、".intercalate (options.map ClarificationOption.label)
  let question :=
    if slot = .timeAxis then
      s!"当前数据源存在多个可确认的业务时间轴，请确认“{term}”应按哪个日期口径：{labels}"
    else s!"“{term}”有多个企业定义，请确认你指的是：{labels}"
  ClarificationRequest.make s!"grounding_{slot.value}_{slug term}" s!"{slot.value}:{term}" question options

/-! ## Bindings -/

/-- `_binding_evidence` -/
def bindingEvidence (candidate : SemanticCandidate) : List String :=
  candidate.evidence ++ candidate.reasons

/-- `_binding` -/
def bindingOf (term : String) (candidate : SemanticCandidate) : Except String GroundingBinding :=
  if h : 1 ≤ term.length then
    .ok
      { businessTerm := term
        assetType := candidate.assetType
        assetId := candidate.assetId
        datasourceId := candidate.datasourceId
        dataObjectId := candidate.dataObjectId
        fieldPath := candidate.fieldPath
        relationshipId := candidate.relationshipId
        score := candidate.score
        evidence := bindingEvidence candidate
        defaultAggregation := candidate.defaultAggregation
        timeAxis := candidate.timeAxis
        dataType := candidate.dataType
        nativeType := candidate.nativeType
        namespace_ := candidate.namespace_
        qualifiedName := candidate.qualifiedName
        objectKind := candidate.objectKind
        dataObjectName := candidate.dataObjectName
        businessTerm_length := h
        assetId_length := candidate.assetId_length
        score_range := candidate.score_range }
  else .error "business_term: String should have at least 1 character"

/-- What a step of the grounding returns. -/
structure Outcome where
  binding : Option GroundingBinding := none
  problem : Option String := none
  clarification : Option ClarificationRequest := none
  deriving DecidableEq, Repr

/-- A problem with the clarification to ask for. -/
def refuse (problem : String) (clarification : Except String ClarificationRequest) :
    Except String Outcome :=
  clarification.map fun request => { problem := some problem, clarification := some request }

section Binding

variable (enforceTrustedPath : Bool) (retrieval : SemanticRetrievalResult)

/-- Only trusted candidates may be bound. -/
def trustedOnly : Bool := enforceTrustedPath && retrieval.retrievalPath = .trusted

/-- The candidates of the requested datasource. -/
def scopedTo (matched : List SemanticCandidate) : List SemanticCandidate :=
  matched.filter (inRequested retrieval)

/-- Those of them that may be bound on the trusted path. -/
def trustedOf (matched : List SemanticCandidate) : List SemanticCandidate :=
  (scopedTo retrieval matched).filter fun candidate =>
    !trustedOnly enforceTrustedPath retrieval || candidate.trusted

/-- Those of them that have a complete physical identity. -/
def physicalOf (matched : List SemanticCandidate) : List SemanticCandidate :=
  (trustedOf enforceTrustedPath retrieval matched).filter hasPhysicalIdentity

/-- Those of them that are found by more than a name. -/
def stableOf (matched : List SemanticCandidate) : List SemanticCandidate :=
  (physicalOf enforceTrustedPath retrieval matched).filter fun candidate => !candidate.migrationLookup

/-- `_governed_binding` -/
def governedBinding (slot : GroundingSlot) (term : String) (useCandidateName : Bool)
    (matched : List SemanticCandidate) : Except String Outcome :=
  let label := slot.label
  let requested := retrieval.requestedDatasourceId.getD "None"
  if scopedTo retrieval matched = [] then
    refuse s!"{label}“{term}”的候选不在指定数据源 {requested} 内"
      (unavailableClarification slot term "当前选定数据源中没有对应定义")
  else if trustedOf enforceTrustedPath retrieval matched = [] then
    refuse s!"{label}“{term}”的候选未受治理确认，不能进入可信语义落地"
      (unavailableClarification slot term "候选定义尚未经过治理确认")
  else if physicalOf enforceTrustedPath retrieval matched = [] then
    refuse s!"{label}“{term}”的候选缺少完整物理身份"
      (unavailableClarification slot term "候选定义尚未绑定到已发布数据")
  else if stableOf enforceTrustedPath retrieval matched = [] then
    refuse s!"{label}“{term}”的候选仅依赖名称迁移解析，不能作为正式物理绑定"
      (unavailableClarification slot term "候选定义需要重新确认数据绑定")
  else
    match physicalGroups slot (stableOf enforceTrustedPath retrieval matched) with
    | [group] =>
      (bindingOf (if useCandidateName then group.preferred.name else term) group.preferred).map
        fun binding => { binding := some binding }
    | groups =>
      refuse s!"{label}“{term}”对应 {groups.length} 个不同的物理绑定，未解决歧义"
        (ambiguityClarification slot term groups)

/-- The candidates of the slot's types that the term addresses, with how strongly it does. -/
def addressed (slot : GroundingSlot) (term : String) : List (SemanticCandidate × Nat) :=
  (retrieval.candidates.map fun candidate => (candidate, addressStrength candidate term)).filter
    fun p => p.1.assetType ∈ slot.assetTypes && 0 < p.2

/-- Those that it addresses best. -/
def bestAddressed (slot : GroundingSlot) (term : String) : List SemanticCandidate :=
  let best := ((addressed retrieval slot term).map Prod.snd).foldl max 0
  ((addressed retrieval slot term).filter fun p => p.2 = best).map Prod.fst

/-- `_bind_term` -/
def bindTerm (slot : GroundingSlot) (term : String) : Except String Outcome :=
  if addressed retrieval slot term = [] ∨ bestAddressed retrieval slot term = [] then
    refuse s!"未找到与{slot.label}“{term}”匹配的语义候选" (missingClarification slot term retrieval)
  else
    governedBinding enforceTrustedPath retrieval slot term false (bestAddressed retrieval slot term)

/-- The candidates that declare themselves the time axis. -/
def timeAxes : List SemanticCandidate :=
  retrieval.candidates.filter fun candidate =>
    candidate.timeAxis && candidate.assetType ∈ GroundingSlot.timeAxis.assetTypes

/-- `_time_axis_binding` -/
def timeAxisBinding (query : BusinessQuery) : Except String Outcome :=
  let expression := query.timeExpression.getD ""
  if truthy query.timeExpression = false then .ok {}
  else if timeAxes retrieval = [] then
    refuse s!"问题包含时间表达“{expression}”，但当前数据源没有受治理的业务时间轴资产"
      (ClarificationRequest.make "grounding_time_axis_missing" "time_axis"
        s!"问题包含“{expression}”，但当前数据源没有可确认的业务时间轴。已扫描的日期字段不能自动作为业务时间口径，请先发布相应时间轴定义。" [])
  else
    governedBinding enforceTrustedPath retrieval .timeAxis expression true (timeAxes retrieval)

/-! ## Relationships -/

/-- The candidate joins the two objects, which differ. -/
def joins (a b : String) (candidate : SemanticCandidate) : Bool :=
  candidate.fromDataObjectId = some a && candidate.toDataObjectId = some b
    || candidate.fromDataObjectId = some b && candidate.toDataObjectId = some a

/-- `(-candidate.score, candidate.relationship_id or "")`, as the comparison of two candidates. -/
def relationshipLe (a b : SemanticCandidate) : Bool :=
  if a.score ≠ b.score then b.score < a.score
  else a.relationshipId.getD "" ≤ b.relationshipId.getD ""

/-- The confirmed relationships between the two objects, in order. -/
def relationshipMatches (datasourceIds : List String) (a b : String) : List SemanticCandidate :=
  (retrieval.candidates.filter fun candidate =>
    candidate.assetType = .relationship && truthy candidate.relationshipId && joins a b candidate
      && (datasourceIds = [] || candidate.datasourceId.any (· ∈ datasourceIds))
      && (!enforceTrustedPath || candidate.trusted)).insertionSort fun a b => relationshipLe a b = true

/-- `_evidence_binding` -/
def evidenceBinding (candidate : SemanticCandidate) : Option String :=
  (candidate.evidence.find? fun line => "企业数据图确认物理绑定：".toList.isPrefixOf line.toList).map
    fun line => String.ofList (line.toList.drop "企业数据图确认物理绑定：".length)

/-- The binding of a relationship, which names no object and no field. -/
def relationshipOf (candidate : SemanticCandidate) : GroundingBinding where
  businessTerm := candidate.name
  assetType := .relationship
  assetId := candidate.assetId
  datasourceId := candidate.datasourceId
  relationshipId := candidate.relationshipId
  score := candidate.score
  evidence := bindingEvidence candidate
  defaultAggregation := candidate.defaultAggregation
  dataType := candidate.dataType
  nativeType := candidate.nativeType
  namespace_ := candidate.namespace_
  qualifiedName := candidate.qualifiedName
  objectKind := candidate.objectKind
  dataObjectName := candidate.dataObjectName
  businessTerm_length := candidate.name_length
  assetId_length := candidate.assetId_length
  score_range := candidate.score_range

/-- Two objects are bound. -/
def pairBinding (bindings : List GroundingBinding) (a b : String) : Except String Outcome :=
  match relationshipMatches enforceTrustedPath retrieval (distinct (bindings.map (·.datasourceId))) a b with
  | [] =>
    let names := sortedSet ((bindings.filter fun binding =>
      binding.dataObjectId = some a || binding.dataObjectId = some b).map fun binding =>
        orElse binding.dataObjectName binding.businessTerm)
    let label := if 2 ≤ names.length then "和".intercalate (names.take 2) else "这两个数据对象"
    refuse "指标与维度位于不同数据对象，但企业数据图中没有已确认的 RELATES_TO 关系，禁止按同名字段或 *_id 推测连接"
      (ClarificationRequest.make "grounding_relationship_missing" "relationships"
        s!"当前问题需要同时使用{label}，但企业数据图中没有它们之间已确认的关系。Qaneris 不会按同名字段或 *_id 自动连接。" [])
  | chosen :: rest =>
    if (chosen :: rest).any fun candidate => candidate.relationshipId ≠ chosen.relationshipId then
      refuse "两个数据对象之间存在多个已确认关系，未解决歧义" do
        let options ← (chosen :: rest).mapM fun candidate =>
          ClarificationOption.make (candidate.relationshipId.getD "") candidate.name
            (evidenceBinding candidate)
        ClarificationRequest.make s!"grounding_relationship_{a}-{b}" "relationships"
          "这两个数据对象之间存在多个已确认关系，请确认使用哪一个：" options
    else .ok { binding := some (relationshipOf chosen) }

/-- `_relationship_binding` -/
def relationshipBinding (bindings : List GroundingBinding) : Except String Outcome :=
  match distinct (bindings.map (·.dataObjectId)) with
  | [] | [_] => .ok {}
  | [a, b] => pairBinding enforceTrustedPath retrieval bindings a b
  | objectIds =>
    refuse s!"绑定涉及 {objectIds.length} 个数据对象，当前阶段只支持同一数据对象或一个已确认的直接关系，不得进入查询计划"
      (ClarificationRequest.make "grounding_relationship_unsupported" "relationships"
        "当前问题需要连接多个数据对象，现有查询能力只支持一条已确认的直接关系。" [])

end Binding

/-! ## Grounding a query -/

/-- The expressions of a slot. -/
def termsOf (slot : GroundingSlot) (terms : List String) : List (GroundingSlot × String) :=
  terms.map fun term => (slot, term)

/-- `_slot_terms` -/
def slotTerms (query : BusinessQuery) : List (GroundingSlot × String) :=
  (termsOf .metric query.metrics ++ termsOf .dimension query.dimensions
    ++ termsOf .entity query.entities ++ termsOf .filter (query.filters.map (·.subject))
    ++ termsOf .rankingMetric (query.ranking.bind (·.metric)).toList
    ++ termsOf .derivationMetric (query.derivations.filterMap (·.metric))).filter
      fun p => !Infra.isBlank p.2

/-- What has been collected from the steps. -/
structure Collected where
  bindings : List GroundingBinding := []
  unresolved : List String := []
  clarifications : List ClarificationRequest := []
  deriving DecidableEq, Repr

/-- Whatever the step returns is kept. -/
def Collected.add (collected : Collected) (outcome : Outcome) : Collected where
  bindings := collected.bindings ++ outcome.binding.toList
  unresolved := collected.unresolved ++ if truthy outcome.problem then outcome.problem.toList else []
  clarifications := collected.clarifications ++ outcome.clarification.toList

/-- A binding ends the step. -/
def Collected.addTerm (collected : Collected) (outcome : Outcome) : Collected :=
  match outcome.binding with
  | some binding => { collected with bindings := collected.bindings ++ [binding] }
  | none => collected.add outcome

/-- The loop over the terms, with the expressions that it has handled. -/
def bindTerms (enforceTrustedPath : Bool) (retrieval : SemanticRetrievalResult) :
    (handled : List (List Char)) → Collected → List (GroundingSlot × String) → Except String Collected
  | _, collected, [] => .ok collected
  | handled, collected, (slot, term) :: terms =>
    if normalizeTerm term ∈ handled then
      bindTerms enforceTrustedPath retrieval handled collected terms
    else do
      let outcome ← bindTerm enforceTrustedPath retrieval slot term
      bindTerms enforceTrustedPath retrieval (normalizeTerm term :: handled)
        (collected.addTerm outcome) terms

/-- `_cross_source_problem` -/
def crossSourceProblem (reprList : List String → String) (bindings : List GroundingBinding) :
    Option String :=
  let datasourceIds := distinct (bindings.map (·.datasourceId))
  if 1 < datasourceIds.length then
    some s!"绑定跨越多个数据源 {reprList datasourceIds}，当前阶段不支持跨数据源查询，不得进入查询计划"
  else none

/-- The bindings span more than one datasource. -/
def crossSource (reprList : List String → String) (collected : Collected) : Except String Collected :=
  match crossSourceProblem reprList collected.bindings with
  | none => .ok collected
  | some problem =>
    (refuse problem (ClarificationRequest.make "grounding_cross_source" "datasource"
      "当前问题需要同时使用多个数据源，但单次问数尚不支持跨数据源关联。请分别查询相应数据源。" [])).map
        collected.add

/-- Nothing is bound, and nothing is said about it. -/
def noBinding (collected : Collected) : Except String Collected :=
  if collected.bindings = [] ∧ collected.unresolved = [] then
    (refuse "当前问题没有可确认的业务绑定" (ClarificationRequest.make "grounding_no_binding" "grounding"
      "当前已发布数据中没有找到足够的受治理结构来回答这个问题。请检查相应数据源是否已经扫描并发布所需业务字段。" [])).map
        collected.add
  else .ok collected

/-- `_unique_requests` -/
def uniqueRequests (requests : List ClarificationRequest) : List ClarificationRequest :=
  (sortedSet (requests.map (·.clarificationId))).filterMap fun key =>
    requests.find? fun request => request.clarificationId = key

structure GroundingResult where
  groundedQuery : GroundedQuery
  clarifications : List ClarificationRequest := []
  deriving DecidableEq, Repr

/-- `is_executable` -/
def GroundingResult.isExecutable (result : GroundingResult) : Bool :=
  result.groundedQuery.unresolvedAmbiguities = []

/-- `min((binding.score for binding in bindings), default=0.0)` -/
def weakestScore : List GroundingBinding → Rat
  | [] => 0
  | binding :: bindings => bindings.foldl (fun least b => if b.score < least then b.score else least) binding.score

/-- The grounded query that has been collected. -/
def groundedQueryOf (query : BusinessQuery) (retrieval : SemanticRetrievalResult)
    (collected : Collected) : GroundedQuery where
  businessQuery := query
  candidates := retrieval.candidates
  bindings := collected.bindings
  workspaceId := retrieval.workspaceId
  requestedDatasourceId := retrieval.requestedDatasourceId
  scanVersion := retrieval.scanVersion
  allowedDatasourceIds := distinct (collected.bindings.map (·.datasourceId))
  allowedDataObjectIds := distinct (collected.bindings.map (·.dataObjectId))
  allowedFieldPaths := distinct (collected.bindings.map (·.fieldPath))
  allowedRelationshipIds := distinct (collected.bindings.map (·.relationshipId))
  unresolvedAmbiguities := unique collected.unresolved
  confidence := weakestScore collected.bindings

/-- `SemanticGrounder.ground` -/
def ground (reprList : List String → String) (enforceTrustedPath : Bool) (query : BusinessQuery)
    (retrieval : SemanticRetrievalResult) : Except String GroundingResult := do
  let terms ← bindTerms enforceTrustedPath retrieval [] {} (slotTerms query)
  let relationship ← relationshipBinding enforceTrustedPath retrieval terms.bindings
  let timeAxis ← timeAxisBinding enforceTrustedPath retrieval query
  let checked ← crossSource reprList ((terms.add relationship).add timeAxis)
  let collected ← noBinding checked
  let groundedQuery ← (groundedQueryOf query retrieval collected).validate
  return { groundedQuery, clarifications := uniqueRequests collected.clarifications }

end Semantic
