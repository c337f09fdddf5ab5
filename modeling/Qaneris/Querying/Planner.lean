import Qaneris.Querying.Plans

/-!
# The query planner

`GroundedQueryPlanner`: the plan that a context stands for. Nothing outside the context is read. The
identifier of a plan is a digest of its body, which the context determines; how Python writes a list in a
message is a parameter.
-/

namespace Querying.GroundedQueryPlanner

open Contracts
open Infra (Json)
open Querying.GroundedPlanValidator (functionValue beyond)
open Semantic (sortedSet)

structure Texts where
  list : List String → String
  /-- The digest of the body of the plan. -/
  digest : GroundedQueryContext → String

/-- `(datasource_id, data_object_id, field_path)` -/
abbrev Identity := String × String × String

/-- What a model refuses is passed on. -/
def checked {α : Type} (result : Except String α) : Except PlanError α := result.mapError .invalid

/-- A value that must keep a constraint of its model. -/
def constrained {α : Type} {p : Prop} [Decidable p] (build : p → α) (message : String) :
    Except PlanError α :=
  if h : p then .ok (build h) else .error (.invalid message)

/-! ## Filters -/

mutual

/-- A JSON value as the value of a filter. -/
def valueOf : Json → Value
  | .null => .null
  | .bool b => .bool b
  | .int n => .int n
  | .real q => .real q
  | .str s => .str s
  | .arr items => .list (valuesOf items)
  | .obj fields => .dict (fieldsOf fields)

def valuesOf : List Json → List Value
  | [] => []
  | item :: items => valueOf item :: valuesOf items

def fieldsOf : List (String × Json) → List (String × Value)
  | [] => []
  | (key, item) :: fields => (key, valueOf item) :: fieldsOf fields

end

def filterOf (item : QueryContextFilter) : PlanFilter :=
  { field := item.field, operator := item.operator, value := valueOf item.value }

section Context

variable (t : Texts) (context : GroundedQueryContext)

/-! ## Objects and relationships -/

/-- `_datasource` -/
def datasource : Except PlanError String :=
  match context.allowedDatasourceIds with
  | [datasourceId] => .ok datasourceId
  | datasourceIds => .error (.planning ("查询上下文必须只允许一个数据源，当前为 " ++ t.list datasourceIds))

/-- `_object_ids` -/
def objectIds (joins : List PlanJoin) : List String :=
  sortedSet (context.bindings.filterMap (fun b => if truthy b.dataObjectId then b.dataObjectId else none) ++
    joins.flatMap fun join => [join.fromDataObjectId, join.toDataObjectId])

/-- `{a, b} == set(ids)` -/
def spans (ids : List String) (a b : String) : Bool :=
  ids.all (fun id => id = a || id = b) && a ∈ ids && b ∈ ids

def joinOf (relationship : QueryContextRelationship) : Except PlanError PlanJoin :=
  constrained (p := 1 ≤ relationship.fromFieldPath.length ∧ 1 ≤ relationship.toFieldPath.length)
    (fun h =>
      { datasourceId := relationship.datasourceId
        relationshipId := relationship.relationshipId
        relationshipType := relationship.relationshipType
        fromDataObjectId := relationship.fromDataObjectId
        fromFieldPath := relationship.fromFieldPath
        toDataObjectId := relationship.toDataObjectId
        toFieldPath := relationship.toFieldPath
        fromFieldPath_length := h.1
        toFieldPath_length := h.2 })
    "field_path: String should have at least 1 character"

/-- `_relationships` -/
def relationships (datasourceId : String) : Except PlanError (List PlanJoin) :=
  let ids := objectIds context []
  if ids.length ≤ 1 then .ok []
  else if context.relationships = [] then
    .error (.planning "绑定涉及多个数据对象，但没有已确认的企业数据图关系，禁止推测连接")
  else if 2 < ids.length then
    .error (.planning ("绑定涉及 " ++ Nat.repr ids.length ++
      " 个数据对象，第一阶段只支持一个已确认的直接连接"))
  else
    match context.relationships.filter fun item =>
      spans ids item.fromDataObjectId item.toDataObjectId && item.datasourceId = datasourceId with
    | [relationship] => (joinOf relationship).map fun join => [join]
    | matching => .error (.planning
        ("第一阶段只接受一个已确认关系用于直接连接，当前匹配到 " ++ Nat.repr matching.length ++ " 个"))

/-- `_require_allowlisted_objects` -/
def requireAllowlistedObjects (ids : List String) : Except PlanError Unit :=
  let unbound := beyond ids context.allowedDataObjectIds
  if unbound = [] then .ok ()
  else .error (.planning ("计划引用了允许列表之外的数据对象：" ++ t.list unbound))

/-- `str.startswith` -/
def startsWith (text start : String) : Bool := start.toList.isPrefixOf text.toList

/-- `_projection_lookup` -/
def projectionLookup (ids : List String) : Bool :=
  context.objective = .lookup && context.ranking.isNone && ids.length = 1 &&
    match (context.dataObjects.lookup (ids.headD "")).bind fun locator =>
      locator.name.map fun name => (locator.objectKind, name) with
    | none => false
    | some (kind, name) =>
      kind = some "collection" ||
        (startsWith name "redis:" && kind ∈ ["string", "hash", "list", "set", "zset"].map some)

/-! ## Metrics -/

/-- `_binding_key` -/
def bindingKey (binding : QueryContextBinding) : Identity :=
  (binding.businessTerm, binding.assetId,
    if truthy binding.fieldPath then binding.fieldPath.getD ""
    else if truthy binding.relationshipId then binding.relationshipId.getD "" else "")

def keyLe (a b : Identity) : Bool :=
  if a.1 ≠ b.1 then a.1 < b.1 else if a.2.1 ≠ b.2.1 then a.2.1 < b.2.1 else a.2.2 ≤ b.2.2

/-- `_metric_bindings` -/
def metricBindings : List QueryContextBinding :=
  let extras := context.bindings.filter fun binding =>
    binding.assetType = .metric && bindingKey binding ∉ context.metrics.map bindingKey
  context.metrics ++ extras.insertionSort fun a b => keyLe (bindingKey a) (bindingKey b) = true

/-- The text that `_alias` tries: the base, then the base with a number from 2 on. -/
def candidate (base : String) : Nat → String
  | 0 => base
  | k + 1 => base ++ "_" ++ Nat.repr (k + 2)

/-- `_alias`: the first text that is not used. -/
def freshAlias (function : AggregateFunction) (fieldPath : String) (used : List String) : String :=
  let base := if fieldPath = "" then functionValue function
    else functionValue function ++ "_" ++ fieldPath
  (((List.range (used.length + 1)).map (candidate base)).find? (· ∉ used)).getD base

/-- The function of a metric: that of its derivation, else its default. -/
def functionOf (binding : QueryContextBinding) : Except PlanError AggregateFunction :=
  match GroundedPlanValidator.overrideOf context binding.businessTerm with
  | some function => .ok function
  | none =>
    match binding.defaultAggregation with
    | some function => .ok function
    | none => .error (.planning ("指标“" ++ binding.businessTerm ++
        "”缺少受治理聚合语义，也没有结构化衍生计算覆盖，第一阶段不得猜 " ++ functionValue .sum))

/-- The aggregates so far, and the alias of each field that has one. -/
structure Aggregates where
  items : List PlanAggregate := []
  aliases : List (Identity × String) := []

def addMetric (state : Aggregates) (binding : QueryContextBinding) : Except PlanError Aggregates := do
  match ← checked binding.fieldRef with
  | none => .error (.planning ("指标“" ++ binding.businessTerm ++ "”没有物理字段绑定，不能规划"))
  | some ref => do
    let function ← functionOf context binding
    if state.aliases.any (·.1 = ref.identity) then return state
    let alias_ := freshAlias function ref.fieldPath (state.aliases.map (·.2))
    let item ← constrained (p := 1 ≤ alias_.length)
      (fun h => ({ function, field := some ref, alias_, alias_length := h, field_required := fun _ => rfl } :
        PlanAggregate)) "alias: String should have at least 1 character"
    return { items := state.items ++ [item], aliases := state.aliases ++ [(ref.identity, alias_)] }

/-- The rows, counted. -/
def countRows : PlanAggregate where
  function := .count
  alias_ := "count"
  alias_length := by decide
  field_required := fun h => absurd rfl h

/-- `_aggregates` -/
def aggregates : Except PlanError Aggregates :=
  match metricBindings context with
  | [] => .ok { items := [countRows] }
  | metrics => metrics.foldlM (addMetric context) {}

/-! ## Grouping and order -/

def addDimension (references : List GroundedFieldRef) (binding : QueryContextBinding) :
    Except PlanError (List GroundedFieldRef) := do
  match ← checked binding.fieldRef with
  | none => .error (.planning ("维度“" ++ binding.businessTerm ++ "”没有物理字段绑定，不能规划"))
  | some ref =>
    if ref.identity ∈ references.map (·.identity) then return references else return references ++ [ref]

/-- `_group_by` -/
def groupBy : Except PlanError (List GroundedFieldRef) := context.dimensions.foldlM addDimension []

/-- The alias of the aggregate that the metric of a ranking has become. -/
def rankingAlias (aliases : List (Identity × String)) (metric : Option String) :
    Except PlanError (Option String) :=
  match (metricBindings context).find? fun b => some b.businessTerm = metric with
  | none => .ok none
  | some target =>
    (checked target.fieldRef).map fun ref => ref.bind fun ref => aliases.lookup ref.identity

/-- What a metric is called in a message. -/
def metricText (metric : Option String) : String := metric.getD "None"

/-- `_ordering` -/
def ordering (computed : Aggregates) (references : List GroundedFieldRef) :
    Except PlanError (List PlanSort × Int) :=
  match context.ranking with
  | none => .ok (references.map fun ref => { target := .field ref }, 200)
  | some ranking => do
    match ← rankingAlias context computed.aliases ranking.metric with
    | none => .error (.planning
        ("排名指标“" ++ metricText ranking.metric ++ "”没有已落地的聚合，不能规划"))
    | some alias_ =>
      if computed.items.all (·.alias_ ≠ alias_) then
        .error (.planning ("排名指标“" ++ metricText ranking.metric ++ "”的聚合不在计划中，不能规划"))
      else do
        let sort ← constrained (p := alias_ ≠ "")
          (fun h => ({ target := .aggregate alias_ h
                       direction := match ranking.direction with
                         | .top => .descending
                         | .bottom => .ascending } : PlanSort))
          "an aggregate sort requires aggregate_alias only"
        return ([sort], ranking.limit)

/-! ## The plan -/

/-- `_rationale` -/
def rationale (items : List PlanAggregate) (references : List GroundedFieldRef) (joins : List PlanJoin) :
    List String :=
  ["计划只引用语义落地允许列表中的物理资产",
    "数据源 " ++ context.allowedDatasourceIds.headD "" ++ " 由语义落地唯一确认"] ++
  items.map (fun item =>
    match item.field with
    | none => "没有指标绑定，聚合为 count"
    | some ref => "指标“" ++ ref.businessTerm.getD "None" ++ "”→ " ++ ref.fieldPath ++ " 使用 " ++
        functionValue item.function ++ " 聚合") ++
  references.map (fun ref => "按维度“" ++ ref.businessTerm.getD "None" ++ "”→ " ++ ref.fieldPath ++ " 分组") ++
  context.filters.map (fun item =>
    "过滤“" ++ item.subject ++ "”→ " ++ item.field.fieldPath ++ "（业务值不参与物理身份）") ++
  (if context.ranking.isSome then ["排名方向与数量来自意图层显式字段，未重新解析问题文本"] else []) ++
  joins.map (fun join => "按已确认关系 " ++ join.relationshipId ++ " 直接连接 " ++ join.fromFieldPath ++
    " 与 " ++ join.toFieldPath) ++
  (if context.timeRange.isSome then ["时间范围来自规范化事实，未重新解析问题文本"] else [])

/-- What planning has settled. -/
structure Body where
  datasourceId : String
  ids : List String
  joins : List PlanJoin
  items : List PlanAggregate
  selected : List GroundedFieldRef
  groupBy : List GroundedFieldRef
  sorts : List PlanSort
  limit : Int

/-- The body, before the model checks it. -/
def body : Except PlanError Body := do
  let datasourceId ← datasource t context
  let joins ← relationships context datasourceId
  let ids := objectIds context joins
  requireAllowlistedObjects t context ids
  let computed ← aggregates context
  let references ← groupBy context
  let (sorts, limit) ← ordering context computed references
  if projectionLookup context ids ∧ context.metrics = [] ∧ references ≠ [] then
    let redis := ((context.dataObjects.lookup (ids.headD "")).bind (·.name)).any (startsWith · "redis:")
    return { datasourceId, ids, joins, items := [], selected := references, groupBy := []
             sorts := if redis then [] else sorts, limit }
  return { datasourceId, ids, joins, items := computed.items, selected := references
           groupBy := references, sorts, limit }

/-- What the model of a plan asks of its body. -/
structure Body.Fits (b : Body) : Prop where
  nonempty : 1 ≤ b.ids.length
  limit : 1 ≤ b.limit ∧ b.limit ≤ 1000
  time : context.timeRange.isNone = context.timeField.isNone
  output : b.items ≠ [] ∨ b.selected ≠ []
  unique : b.ids.Nodup
  join : 1 < b.ids.length → b.joins ≠ []
  selected : ∀ ref ∈ b.groupBy, ref.identity ∈ b.selected.map GroundedFieldRef.identity
  objects : ∀ entry ∈ context.dataObjects,
    entry.2.dataObjectId = entry.1 ∧ entry.2.datasourceId = b.datasourceId

theorem Body.fits_iff {b : Body} : b.Fits context ↔
    1 ≤ b.ids.length ∧ (1 ≤ b.limit ∧ b.limit ≤ 1000) ∧
      context.timeRange.isNone = context.timeField.isNone ∧ (b.items ≠ [] ∨ b.selected ≠ []) ∧ b.ids.Nodup ∧
      (1 < b.ids.length → b.joins ≠ []) ∧
      (∀ ref ∈ b.groupBy, ref.identity ∈ b.selected.map GroundedFieldRef.identity) ∧
      ∀ entry ∈ context.dataObjects,
        entry.2.dataObjectId = entry.1 ∧ entry.2.datasourceId = b.datasourceId :=
  ⟨fun ⟨a, b, c, d, e, f, g, h⟩ => ⟨a, b, c, d, e, f, g, h⟩,
   fun ⟨a, b, c, d, e, f, g, h⟩ => ⟨a, b, c, d, e, f, g, h⟩⟩

instance (b : Body) : Decidable (b.Fits context) := decidable_of_iff' _ (Body.fits_iff context)

/-- `GroundedQueryPlan.model_validate` -/
def planOf (b : Body) (h : b.Fits context) : GroundedQueryPlan where
  planId := "plan_" ++ t.digest context
  workspaceId := context.workspaceId
  datasourceId := b.datasourceId
  dataObjectIds := b.ids
  dataObjects := context.dataObjects
  scanVersion := context.scanVersion
  aggregates := b.items
  selectedFields := b.selected
  filters := context.filters.map filterOf
  groupBy := b.groupBy
  sorts := b.sorts
  limit := b.limit
  joins := b.joins
  timeRange := context.timeRange
  timeField := context.timeField
  expectedResultType := if b.items ≠ [] ∧ b.groupBy = [] then .scalar else .tabular
  rationale := rationale context b.items b.groupBy b.joins
  planId_length := by
    rw [String.length_append]
    exact Nat.le_trans (by decide) (Nat.le_add_right _ _)
  dataObjectIds_length := h.nonempty
  limit_range := h.limit
  time_together := h.time
  output := h.output
  dataObjectIds_unique := h.unique
  join_required := h.join
  groupBy_selected := h.selected
  dataObjects_keys := h.objects

/-- `GroundedQueryPlanner.plan` -/
def plan : Except PlanError GroundedQueryPlan := do
  let b ← body t context
  constrained (planOf t context b) "the plan is refused by its model"

end Context

end Querying.GroundedQueryPlanner
