import Qaneris.Contracts.Context
import Qaneris.Semantic.Grounding

/-!
# The query context builder

`QueryContextBuilder`: a grounding that is fully resolved becomes the context of a query. How Python
writes a tuple and a list of tuples in a message is a parameter.
-/

namespace Querying.QueryContextBuilder

open Contracts
open Infra (Json)
open Semantic (GroundingResult distinct sortedSet typePriority)

/-! ## Errors -/

/-- A field of a data object of a datasource. -/
abbrev FieldKey := String × String × String

/-- What the declared type of a field is, and what it is natively. -/
abbrev FieldType := Option String × Option String

/-- `(data_object_name, namespace, qualified_name, object_kind)` -/
abbrev ObjectLocator := Option String × Option String × Option String × Option String

/-- What `build` raises. -/
inductive ContextError where
  | unresolved (problems : List String)
  | clarifications (questions : List String)
  | nothingBound
  | noDatasource (term : String)
  | noDataObject (term : String)
  | fieldIds (key : FieldKey) (found : List String)
  | fieldTypes (key : FieldKey) (options : List FieldType)
  | objectLocators (key : String × String) (options : List ObjectLocator)
  | workspace (requested grounded : String)
  | datasource (requested grounded : String)
  | comparison
  | unsupportedDerivation (operation : String)
  | derivationWithoutMetric (operation : String)
  | rankingWithoutMetric
  | missing (label term : String)
  | filterWithoutField (subject : String)
  | filterOperator (operator subject : String)
  | filterIn (subject : String)
  | filterBetween (subject : String)
  | joinKeys (relationshipId : String)
  | timeSpecMissing
  | timeDimension (dimension : String)
  | timeDimensionField (dimension : String)
  | timeDimensionType (dimension fieldPath : String)
  | timeRangeMissing (dimension : String)
  | requestedUnbound (requested : String)
  | crossSource (datasourceIds : List String)
  | aggregation (term : String)
  /-- A model refuses its fields. -/
  | invalid (message : String)
  /-- `None` is compared with a string. -/
  | typeError
  deriving DecidableEq, Repr

/-- How Python writes what a message shows. -/
structure Texts where
  fieldIds : FieldKey → List String → String
  fieldTypes : FieldKey → List FieldType → String
  objectLocators : String × String → List ObjectLocator → String
  list : List String → String

/-- The text of what is raised. -/
def ContextError.message (t : Texts) : ContextError → String
  | .unresolved problems =>
    "语义落地存在未解决歧义，不能创建可执行查询上下文：" ++ "；".intercalate problems
  | .clarifications questions =>
    "语义落地需要用户澄清后才能继续，不能创建可执行查询上下文：" ++ "；".intercalate questions
  | .nothingBound => "语义落地没有产生任何物理绑定，不能创建查询上下文"
  | .noDatasource term => s!"绑定“{term}”缺少数据源身份，不能创建查询上下文"
  | .noDataObject term => s!"绑定“{term}”缺少数据对象身份，不能创建查询上下文"
  | .fieldIds key found =>
    "同一物理字段在企业数据图中存在多个字段标识，不能创建查询上下文：" ++ t.fieldIds key found
  | .fieldTypes key options =>
    "同一物理字段在企业数据图中存在多种类型声明，不能创建查询上下文：" ++ t.fieldTypes key options
  | .objectLocators key options =>
    "同一数据对象在企业数据图中存在多种定位，不能创建查询上下文：" ++ t.objectLocators key options
  | .workspace requested grounded =>
    s!"工作区 {requested} 与语义落地工作区 {grounded} 不一致，不能创建查询上下文"
  | .datasource requested grounded =>
    s!"指定数据源 {requested} 与语义落地数据源 {grounded} 不一致，不能创建查询上下文"
  | .comparison => "第一阶段不支持比较分析（comparison），不能创建可执行查询上下文"
  | .unsupportedDerivation operation =>
    s!"衍生计算“{operation}”不在第一阶段支持范围，不能创建可执行查询上下文"
  | .derivationWithoutMetric operation =>
    s!"衍生计算“{operation}”没有指标业务表达，不能创建查询上下文"
  | .rankingWithoutMetric => "排名缺少指标业务表达，第一阶段不猜测排名依据"
  | .missing label term => s!"{label}“{term}”没有已落地的物理绑定，不能创建查询上下文"
  | .filterWithoutField subject => s!"过滤主题“{subject}”没有物理字段绑定，不能创建查询上下文"
  | .filterOperator operator subject => s!"过滤运算符第一阶段不支持：{operator}（{subject}）"
  | .filterIn subject => s!"过滤“{subject}”使用 IN 时需要非空值列表"
  | .filterBetween subject => s!"过滤“{subject}”使用区间时需要两个边界值"
  | .joinKeys relationshipId =>
    s!"已确认关系 {relationshipId} 缺少连接字段，不能创建可执行查询上下文"
  | .timeSpecMissing => "查询包含时间范围，但调用者没有提供结构化 TimeSpec，不能创建可执行查询上下文"
  | .timeDimension dimension => s!"时间维度“{dimension}”没有已落地的物理绑定，不能创建查询上下文"
  | .timeDimensionField dimension =>
    s!"时间维度“{dimension}”没有可用的物理字段绑定，不能创建查询上下文"
  | .timeDimensionType dimension fieldPath =>
    s!"时间维度“{dimension}”绑定到非日期字段 {fieldPath}，不能作为时间轴使用"
  | .timeRangeMissing dimension =>
    s!"指定了时间维度“{dimension}”但没有规范化时间范围，不能创建查询上下文"
  | .requestedUnbound requested => s!"指定数据源 {requested} 没有已落地的物理绑定，不能创建查询上下文"
  | .crossSource datasourceIds =>
    s!"绑定跨越多个数据源 {t.list datasourceIds}，第一阶段不支持跨数据源查询，不能创建可执行查询上下文"
  | .aggregation term =>
    s!"指标“{term}”没有受治理聚合语义，也没有结构化衍生计算覆盖，不能创建可执行查询上下文"
  | .invalid message => message
  | .typeError => "'<' not supported between instances of 'NoneType' and 'str'"

/-- What a model raises is passed on. -/
def checked {α : Type} (result : Except String α) : Except ContextError α :=
  result.mapError .invalid

/-! ## Filters -/

/-- `_FILTER_OPERATORS` -/
def filterOperators : List (String × FilterOperator) :=
  [("=", .equals), ("==", .equals), ("eq", .equals), ("equal", .equals), ("equals", .equals),
   ("等于", .equals), ("是", .equals), ("!=", .notEquals), ("<>", .notEquals), ("ne", .notEquals),
   ("notequal", .notEquals), ("notequals", .notEquals), ("不等于", .notEquals),
   (">", .greaterThan), ("gt", .greaterThan), ("greaterthan", .greaterThan), ("大于", .greaterThan),
   (">=", .greaterOrEqual), ("gte", .greaterOrEqual), ("greaterorequal", .greaterOrEqual),
   ("大于等于", .greaterOrEqual), ("不小于", .greaterOrEqual), ("<", .lessThan), ("lt", .lessThan),
   ("lessthan", .lessThan), ("小于", .lessThan), ("<=", .lessOrEqual), ("lte", .lessOrEqual),
   ("lessorequal", .lessOrEqual), ("小于等于", .lessOrEqual), ("不大于", .lessOrEqual), ("in", .in_),
   ("属于", .in_), ("between", .between), ("range", .between), ("区间", .between),
   ("之间", .between), ("contains", .contains), ("like", .contains), ("包含", .contains)]

/-- `_operator_key`: white space and underscores are removed. -/
def operatorKey (value : String) : String :=
  String.ofList (Infra.casefold (value.toList.filter fun c => !(Infra.isSpace c || c = '_')))

/-- `_validate_filter_value` -/
def validateFilterValue (operator : FilterOperator) (value : Json) (subject : String) :
    Except ContextError Unit :=
  match operator, value with
  | .in_, .arr (_ :: _) => .ok ()
  | .in_, _ => .error (.filterIn subject)
  | .between, .arr [_, _] => .ok ()
  | .between, _ => .error (.filterBetween subject)
  | _, _ => .ok ()

/-! ## Bindings -/

/-- The key of `_preferred`, as the comparison of two bindings. -/
def bindingLe (a b : QueryContextBinding) : Bool :=
  if typePriority a.assetType ≠ typePriority b.assetType then
    typePriority a.assetType < typePriority b.assetType
  else if a.score ≠ b.score then b.score < a.score
  else a.assetId ≤ b.assetId

/-- `_preferred`: the first of the least ones. -/
def preferred (first : QueryContextBinding) (others : List QueryContextBinding) :
    QueryContextBinding :=
  others.foldl (fun best binding => if bindingLe best binding then best else binding) first

/-- `_dedupe`: of the bindings of one field, the first. -/
def dedupe : List QueryContextBinding → List QueryContextBinding
  | [] => []
  | binding :: bindings =>
    binding :: (dedupe bindings).filter fun other =>
      (other.datasourceId, other.dataObjectId, other.fieldPath)
        ≠ (binding.datasourceId, binding.dataObjectId, binding.fieldPath)

/-! ## What the candidates say of the physical assets -/

section Candidates

variable (candidates : List SemanticCandidate)

/-- The field of the candidate, when it names one. -/
def fieldKey (candidate : SemanticCandidate) : Option FieldKey :=
  if truthy candidate.datasourceId && truthy candidate.dataObjectId && truthy candidate.fieldPath then
    some (candidate.datasourceId.getD "", candidate.dataObjectId.getD "",
      candidate.fieldPath.getD "")
  else none

/-- The data object of the candidate, when it names one. -/
def objectKey (candidate : SemanticCandidate) : Option (String × String) :=
  if truthy candidate.datasourceId && truthy candidate.dataObjectId then
    some (candidate.datasourceId.getD "", candidate.dataObjectId.getD "")
  else none

def fieldKeyLe (a b : FieldKey) : Bool :=
  if a.1 ≠ b.1 then a.1 < b.1 else if a.2.1 ≠ b.2.1 then a.2.1 < b.2.1 else a.2.2 ≤ b.2.2

def objectKeyLe (a b : String × String) : Bool := if a.1 ≠ b.1 then a.1 < b.1 else a.2 ≤ b.2

/-- `sorted(set(…))` of the fields that the candidates name. -/
def fieldKeys : List FieldKey :=
  (candidates.filterMap fieldKey).dedup.insertionSort fun a b => fieldKeyLe a b = true

def objectKeys : List (String × String) :=
  (candidates.filterMap objectKey).dedup.insertionSort fun a b => objectKeyLe a b = true

/-- `_candidate_field_ids` -/
def candidateFieldIds : Except ContextError (List (FieldKey × Option String)) :=
  (fieldKeys candidates).mapM fun key =>
    let found := distinct ((candidates.filter fun c => fieldKey c = some key).map (·.fieldId))
    if 1 < found.length then .error (.fieldIds key found) else .ok (key, found.head?)

/-- What Python compares: a missing value with a missing one, a string with a string. -/
def comparable : (a b : List (Option String)) → Bool
  | a :: as, b :: bs => if a = b then comparable as bs else a.isSome && b.isSome
  | _, _ => true

/-- The comparison of tuples that are comparable. -/
def tupleLe : (a b : List (Option String)) → Bool
  | a :: as, b :: bs => if a = b then tupleLe as bs else a.getD "" < b.getD ""
  | _, _ => true

/-- `sorted(options)`, which raises when two of them are not comparable. -/
def sortedOptions {α : Type} (parts : α → List (Option String)) (options : List α) :
    Except ContextError (List α) :=
  if options.all fun a => options.all fun b => comparable (parts a) (parts b) then
    .ok (options.insertionSort fun a b => tupleLe (parts a) (parts b) = true)
  else .error .typeError

/-- `_candidate_field_type` -/
def candidateFieldType : Except ContextError (List (FieldKey × FieldType)) :=
  (fieldKeys candidates).mapM fun key => do
    let declared := (candidates.filter fun c => fieldKey c = some key).map fun c =>
      (c.dataType, c.nativeType)
    let options ← sortedOptions (fun option : FieldType => [option.1, option.2]) declared.dedup
    if 1 < options.length then .error (.fieldTypes key options)
    else .ok (key, options.headD (none, none))

def locatorOf (candidate : SemanticCandidate) : ObjectLocator :=
  (candidate.dataObjectName, candidate.namespace_, candidate.qualifiedName, candidate.objectKind)

/-- `_candidate_object_locator`: an empty locator is never recorded. -/
def candidateObjectLocator : Except ContextError (List ((String × String) × ObjectLocator)) :=
  (objectKeys candidates).mapM fun key => do
    let populated := ((candidates.filter fun c => objectKey c = some key).map locatorOf).filter
      (· ≠ (none, none, none, none))
    let options ← sortedOptions
      (fun option : ObjectLocator => [option.1, option.2.1, option.2.2.1, option.2.2.2])
      populated.dedup
    if 1 < options.length then .error (.objectLocators key options)
    else .ok (key, options.headD (none, none, none, none))

/-- The binding in the context, with what the candidates say of its field and object. -/
def contextBinding (fieldIds : List (FieldKey × Option String))
    (fieldTypes : List (FieldKey × FieldType))
    (locators : List ((String × String) × ObjectLocator)) (binding : GroundingBinding) :
    Except ContextError QueryContextBinding :=
  if truthy binding.datasourceId = false then .error (.noDatasource binding.businessTerm)
  else if truthy binding.dataObjectId = false ∧ binding.assetType ≠ .relationship then
    .error (.noDataObject binding.businessTerm)
  else
    let datasourceId := binding.datasourceId.getD ""
    let dataObjectId := binding.dataObjectId.getD ""
    let named := truthy binding.fieldPath && truthy binding.dataObjectId
    let key := (datasourceId, dataObjectId, binding.fieldPath.getD "")
    let types := if named then (fieldTypes.lookup key).getD (none, none) else (none, none)
    let locator :=
      if truthy binding.dataObjectId then
        (locators.lookup (datasourceId, dataObjectId)).getD (none, none, none, none)
      else (none, none, none, none)
    let result : QueryContextBinding :=
      { businessTerm := binding.businessTerm
        assetType := binding.assetType
        assetId := binding.assetId
        datasourceId
        dataObjectId := binding.dataObjectId
        fieldId := if named then (fieldIds.lookup key).getD none else none
        fieldPath := binding.fieldPath
        relationshipId := binding.relationshipId
        score := binding.score
        evidence := binding.evidence
        defaultAggregation := binding.defaultAggregation
        dataType := types.1
        nativeType := types.2
        namespace_ := locator.2.1
        qualifiedName := locator.2.2.1
        objectKind := locator.2.2.2
        dataObjectName := locator.1 }
    (checked result.check).map fun _ => result

/-- `_context_bindings` -/
def contextBindings (bindings : List GroundingBinding) :
    Except ContextError (List QueryContextBinding) := do
  let fieldIds ← candidateFieldIds candidates
  let fieldTypes ← candidateFieldType candidates
  let locators ← candidateObjectLocator candidates
  bindings.mapM (contextBinding fieldIds fieldTypes locators)

end Candidates

/-! ## Slots -/

section Slots

variable (bindings : List QueryContextBinding)

/-- The bindings of the expression that the slot accepts. -/
def matching (accepted : List SemanticAssetType) (term : String) : List QueryContextBinding :=
  bindings.filter fun binding => binding.businessTerm = term && binding.assetType ∈ accepted

/-- The binding of an expression of the slot. -/
def boundTerm (accepted : List SemanticAssetType) (label term : String) :
    Except ContextError QueryContextBinding :=
  match matching bindings accepted term with
  | [] => .error (.missing label term)
  | first :: others => .ok (preferred first others)

/-- `_bound_terms` -/
def boundTerms (accepted : List SemanticAssetType) (label : String) (terms : List String) :
    Except ContextError (List QueryContextBinding) :=
  (terms.mapM (boundTerm bindings accepted label)).map dedupe

/-- `_filter` -/
def filterOf (item : BusinessFilter) : Except ContextError QueryContextFilter :=
  match matching bindings [.dimension, .field] item.subject with
  | [] => .error (.missing "过滤主题" item.subject)
  | first :: others => do
    match ← checked (preferred first others).fieldRef with
    | none => .error (.filterWithoutField item.subject)
    | some field =>
      match filterOperators.lookup (operatorKey item.operator) with
      | none => .error (.filterOperator item.operator item.subject)
      | some operator => do
        validateFilterValue operator item.value item.subject
        return { subject := item.subject, field, operator, value := item.value }

/-- `_ranking` -/
def rankingOf : Option RankingSpec → Except ContextError (Option RankingSpec)
  | none => .ok none
  | some ranking =>
    if truthy ranking.metric = false then .error .rankingWithoutMetric
    else if matching bindings [.metric] (ranking.metric.getD "") = [] then
      .error (.missing "排名指标" (ranking.metric.getD ""))
    else .ok (some ranking)

/-- What `_derivations` checks of one of them. -/
def checkDerivation (derivation : DerivationSpec) : Except ContextError Unit :=
  if aggregateFunctionFor derivation.operation = none then
    .error (.unsupportedDerivation derivation.operation)
  else if truthy derivation.metric = false then
    .error (.derivationWithoutMetric derivation.operation)
  else if matching bindings [.metric] (derivation.metric.getD "") = [] then
    .error (.missing "衍生指标" (derivation.metric.getD ""))
  else .ok ()

/-- `_derivations` -/
def checkDerivations (derivations : List DerivationSpec) : Except ContextError Unit :=
  derivations.forM (checkDerivation bindings)

/-- The relationship of the binding, with the join keys of its candidate. -/
def relationshipOf (candidates : List SemanticCandidate) (binding : QueryContextBinding) :
    Except ContextError QueryContextRelationship :=
  let relationshipId := binding.relationshipId.getD ""
  match candidates.find? fun c =>
    c.assetType = .relationship && truthy c.relationshipId && c.relationshipId = some relationshipId with
  | none => .error (.joinKeys relationshipId)
  | some candidate =>
    if truthy candidate.fromDataObjectId && truthy candidate.fromFieldPath
        && truthy candidate.toDataObjectId && truthy candidate.toFieldPath then
      .ok
        { relationshipId
          relationshipType := some candidate.name
          datasourceId := binding.datasourceId
          fromDataObjectId := candidate.fromDataObjectId.getD ""
          fromFieldPath := candidate.fromFieldPath.getD ""
          toDataObjectId := candidate.toDataObjectId.getD ""
          toFieldPath := candidate.toFieldPath.getD ""
          evidence := binding.evidence }
    else .error (.joinKeys relationshipId)

/-- `_relationships` -/
def relationshipsOf (candidates : List SemanticCandidate) :
    Except ContextError (List QueryContextRelationship) :=
  (bindings.filter (·.assetType = .relationship)).mapM (relationshipOf candidates)

/-- `_time_field` -/
def timeFieldOf (spec : Option TimeSpec) (timeRange : Option TimeRange) :
    Except ContextError (Option GroundedFieldRef) :=
  match spec with
  | none => if timeRange.isSome then .error .timeSpecMissing else .ok none
  | some spec =>
    match bindings.filter fun b => b.businessTerm = spec.dimension && truthy b.fieldPath with
    | [] => .error (.timeDimension spec.dimension)
    | first :: others => do
      match ← checked (preferred first others).fieldRef with
      | none => .error (.timeDimensionField spec.dimension)
      | some ref =>
        if ref.isDateType = false then .error (.timeDimensionType spec.dimension ref.fieldPath)
        else if timeRange.isNone then .error (.timeRangeMissing spec.dimension)
        else .ok (some ref)

/-- `_object_locator` -/
def objectLocator (binding : QueryContextBinding) : Except ContextError GroundedDataObjectRef :=
  let dataObjectId := binding.dataObjectId.getD ""
  if h : 1 ≤ binding.datasourceId.length ∧ 1 ≤ dataObjectId.length ∧
      ∀ n ∈ binding.dataObjectName, 1 ≤ n.length then
    .ok
      { datasourceId := binding.datasourceId
        dataObjectId
        name := binding.dataObjectName
        namespace_ := binding.namespace_
        qualifiedName := binding.qualifiedName
        objectKind := binding.objectKind
        datasourceId_length := h.1
        dataObjectId_length := h.2.1
        name_length := h.2.2 }
  else .error (.invalid "name: String should have at least 1 character")

/-- `_data_objects`: of the bindings of one object, the first. -/
def dataObjectsOf (bindings : List QueryContextBinding) :
    Except ContextError (List (String × GroundedDataObjectRef)) :=
  bindings.foldlM (fun locators binding =>
    let dataObjectId := binding.dataObjectId.getD ""
    if binding.assetType = .relationship || !truthy binding.dataObjectId
        || locators.any (·.1 = dataObjectId) then .ok locators
    else (objectLocator binding).map fun locator => locators ++ [(dataObjectId, locator)]) []

/-- `_validate_aggregation_semantics` -/
def checkAggregation (derivations : List DerivationSpec) : Except ContextError Unit :=
  match bindings.find? fun binding =>
    binding.assetType = .metric && binding.defaultAggregation = none
      && !derivations.any fun d => truthy d.metric && d.metric = some binding.businessTerm with
  | some binding => .error (.aggregation binding.businessTerm)
  | none => .ok ()

end Slots

/-! ## Building -/

section Build

/-- `_require_executable` -/
def requireExecutable (grounding : GroundingResult) : Except ContextError Unit :=
  if grounding.groundedQuery.unresolvedAmbiguities ≠ [] then
    .error (.unresolved grounding.groundedQuery.unresolvedAmbiguities)
  else if grounding.clarifications ≠ [] then
    .error (.clarifications (grounding.clarifications.map (·.question)))
  else if grounding.groundedQuery.bindings = [] then .error .nothingBound
  else .ok ()

/-- `_resolve_workspace` -/
def resolveWorkspace (requested : Option String) (grounded : String) : Except ContextError String :=
  match requested with
  | none => .ok grounded
  | some requested => if requested ≠ grounded then .error (.workspace requested grounded) else .ok grounded

/-- `_resolve_requested_datasource` -/
def resolveRequestedDatasource (requested grounded : Option String) :
    Except ContextError (Option String) :=
  match requested, grounded with
  | none, grounded => .ok grounded
  | some requested, none => .ok (some requested)
  | some requested, some grounded =>
    if requested ≠ grounded then .error (.datasource requested grounded) else .ok (some requested)

def checkComparison (query : BusinessQuery) : Except ContextError Unit :=
  if query.comparison ≠ none then .error .comparison else .ok ()

/-- The datasources that the context may read. -/
def checkSources (requested : Option String) (allowed : List String) : Except ContextError Unit :=
  if truthy requested && requested.all (· ∉ allowed) then
    .error (.requestedUnbound (requested.getD ""))
  else if 1 < allowed.length then .error (.crossSource allowed)
  else .ok ()

/-- What the caller hands in beside the grounding. -/
structure BuildArguments where
  workspaceId : Option String := none
  requestedDatasourceId : Option String := none
  timeRange : Option TimeRange := none
  timeSpec : Option TimeSpec := none

/-- `min((binding.score for binding in bindings), default=0.0)` -/
def weakestScore : List QueryContextBinding → Rat
  | [] => 0
  | binding :: bindings =>
    bindings.foldl (fun least b => if b.score < least then b.score else least) binding.score

/-- `QueryContextBuilder.build` -/
def build (grounding : GroundingResult) (arguments : BuildArguments) :
    Except ContextError GroundedQueryContext := do
  let grounded := grounding.groundedQuery
  let query := grounded.businessQuery
  requireExecutable grounding
  let bindings ← contextBindings grounded.candidates grounded.bindings
  let workspaceId ← resolveWorkspace arguments.workspaceId grounded.workspaceId
  let requested ←
    resolveRequestedDatasource arguments.requestedDatasourceId grounded.requestedDatasourceId
  checkComparison query
  checkDerivations bindings query.derivations
  let ranking ← rankingOf bindings query.ranking
  let metrics ← boundTerms bindings [.metric] "指标" query.metrics
  let dimensions ← boundTerms bindings [.dimension] "维度" query.dimensions
  let entities ← boundTerms bindings [.businessTerm, .dataObject] "业务实体" query.entities
  let filters ← query.filters.mapM (filterOf bindings)
  let relationships ← relationshipsOf bindings grounded.candidates
  let timeField ← timeFieldOf bindings arguments.timeSpec arguments.timeRange
  let dataObjects ← dataObjectsOf bindings
  let allowedDatasourceIds := distinct (bindings.map fun b => some b.datasourceId)
  checkSources requested allowedDatasourceIds
  checkAggregation bindings query.derivations
  let context : GroundedQueryContext :=
    { workspaceId
      requestedDatasourceId := requested
      objective := query.objective
      businessQuery := query
      bindings
      metrics
      dimensions
      entities
      filters
      ranking
      derivations := query.derivations
      timeRange := arguments.timeRange
      timeSpec := arguments.timeSpec
      timeField
      relationships
      dataObjects
      scanVersion := grounded.scanVersion
      allowedDatasourceIds
      allowedDataObjectIds := distinct (bindings.map (·.dataObjectId))
      allowedFieldPaths := distinct (bindings.map (·.fieldPath))
      allowedFieldIds := distinct (bindings.map (·.fieldId))
      allowedRelationshipIds := distinct (bindings.map (·.relationshipId))
      confidence := weakestScore bindings }
  checked context.validate

end Build

end Querying.QueryContextBuilder
