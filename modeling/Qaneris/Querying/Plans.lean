import Qaneris.Contracts.Context
import Qaneris.Semantic.Grounding

/-!
# The plan validator

`GroundedPlanValidator`: a plan is compared with the context that it was planned from, and refused at the
first thing that the context does not confirm. How Python writes a list and a locator in a message is a
parameter.
-/

namespace Querying

open Contracts
open Semantic (sortedSet)

/-- What planning and the validation of a plan raise: a `QueryPlanningError`, or what a model refuses. -/
inductive PlanError where
  | planning (message : String)
  | invalid (message : String)
  deriving DecidableEq, Repr

namespace GroundedPlanValidator

structure Texts where
  list : List String → String
  /-- The tuple `full_identity()`. -/
  locator : GroundedDataObjectRef → String

/-- The condition, or the error. -/
def require (condition : Bool) (message : String) : Except PlanError Unit :=
  if condition then .ok () else .error (.planning message)

/-- `sorted(set(found) - set(known))` -/
def beyond (found known : List String) : List String := sortedSet (found.filter fun id => id ∉ known)

variable (t : Texts) (plan : GroundedQueryPlan) (context : GroundedQueryContext)

/-! ## What the context binds -/

/-- The bindings that have a field, with its reference. -/
def boundFields : Except PlanError (List (GroundedFieldRef × QueryContextBinding)) :=
  match context.bindings.mapM fun binding => binding.fieldRef.map fun ref => ref.map (·, binding) with
  | .ok bound => .ok (bound.filterMap id)
  | .error message => .error (.invalid message)

/-- The entry of a field in a dictionary by identity, where a later binding replaces an earlier one. -/
def lastBound (bound : List (GroundedFieldRef × QueryContextBinding)) (identity : String × String × String) :
    Option QueryContextBinding :=
  (bound.reverse.find? fun x => x.1.identity = identity).map (·.2)

/-- The entry of a relationship in a dictionary by identifier. -/
def confirmed (relationshipId : String) : Option QueryContextRelationship :=
  context.relationships.reverse.find? (·.relationshipId = relationshipId)

/-- `overrides.get(term)` -/
def overrideOf (term : String) : Option AggregateFunction :=
  ((context.derivations.filter fun d => truthy d.metric).reverse.find? fun d =>
    d.metric = some term).bind fun d => aggregateFunctionFor d.operation

/-! ## The checks -/

/-- The fields of the model of a plan. -/
def modelFields : List String :=
  ["plan_id", "workspace_id", "datasource_id", "data_object_ids", "data_objects", "scan_version",
   "aggregates", "selected_fields", "filters", "group_by", "sorts", "limit", "joins", "time_range",
   "time_field", "expected_result_type", "rationale"]

/-- `_FORBIDDEN_PLAN_FIELDS` -/
def forbiddenPlanFields : List String :=
  ["sql", "cypher", "cql", "flux", "command", "query", "query_language"]

/-- `_require_no_write_intent` -/
def requireNoWriteIntent : Except PlanError Unit :=
  let forbidden := sortedSet (modelFields.filter (· ∈ forbiddenPlanFields))
  require (forbidden = []) ("第一阶段查询计划不得携带原生查询文本或查询语言：" ++ t.list forbidden)

/-- `_require_scope` -/
def requireScope : Except PlanError Unit := do
  require (context.allowedDatasourceIds.length = 1) "第一阶段禁止跨数据源查询计划"
  require (some plan.datasourceId = context.allowedDatasourceIds.head?)
    ("查询计划的数据源不在接地允许列表中：" ++ plan.datasourceId)
  require (!truthy context.requestedDatasourceId || some plan.datasourceId = context.requestedDatasourceId)
    "查询计划的数据源与指定数据源不一致"
  require (plan.workspaceId = context.workspaceId) "查询计划的工作区与查询上下文不一致"

/-- `_require_objects` -/
def requireObjects : Except PlanError Unit := do
  let unauthorized := beyond plan.dataObjectIds context.allowedDataObjectIds
  require (unauthorized = []) ("查询计划包含允许列表之外的数据对象：" ++ t.list unauthorized)
  require (plan.dataObjectIds.length ≤ 1 || plan.joins ≠ []) "多数据对象计划必须包含一个已确认的直接连接"

/-- The locator of an object is the one that was grounded. -/
def requireLocator (entry : String × GroundedDataObjectRef) : Except PlanError Unit :=
  match context.dataObjects.lookup entry.1 with
  | none => .error (.planning
      ("plan data_objects references an object the context never grounded: " ++ entry.1))
  | some reference =>
    require (reference = entry.2)
      ("plan data_objects locator disagrees with the grounded context for " ++ entry.1 ++ ": plan=" ++
        t.locator entry.2 ++ ", context=" ++ t.locator reference)

/-- `_require_locator_subset` -/
def requireLocatorSubset : Except PlanError Unit := do
  let locatorIds := plan.dataObjects.map (·.1)
  let orphans := beyond locatorIds plan.dataObjectIds
  require (orphans = []) ("plan data_objects contains an object not bound to the plan: " ++ t.list orphans)
  let missing := beyond plan.dataObjectIds locatorIds
  require (missing = []) ("plan is missing a data_objects locator for: " ++ t.list missing)
  let duplicates := (plan.dataObjects.filter fun entry => entry.2.dataObjectId ≠ entry.1).map (·.1)
  require (duplicates = [])
    ("plan data_objects key disagrees with the locator's data_object_id: " ++ t.list duplicates)
  plan.dataObjects.forM (requireLocator t context)

/-- `_plan_field_refs` -/
def planFieldRefs : List (GroundedFieldRef × String) :=
  plan.selectedFields.map (·, "选择字段") ++ plan.groupBy.map (·, "分组字段") ++
    plan.filters.map (fun item => (item.field, "过滤字段")) ++
    (plan.aggregates.filterMap (·.field)).map (·, "聚合字段") ++
    (plan.sorts.filterMap (·.field)).map (·, "排序字段") ++ plan.timeField.toList.map (·, "时间字段")

def requireField (bound : List (GroundedFieldRef × QueryContextBinding)) (used : GroundedFieldRef × String) :
    Except PlanError Unit :=
  match lastBound bound used.1.identity with
  | none => .error (.planning
      (used.2 ++ "不在允许列表中：" ++ used.1.dataObjectId ++ "." ++ used.1.fieldPath))
  | some binding => do
    require (used.1.dataObjectId ∈ plan.dataObjectIds)
      (used.2 ++ "不属于计划内的数据对象：" ++ used.1.dataObjectId)
    require (used.1.fieldId = none || used.1.fieldId = binding.fieldId)
      (used.2 ++ "的图字段标识与允许列表不一致：" ++ used.1.fieldPath ++ " → " ++ used.1.fieldId.getD "")

/-- `_require_fields` -/
def requireFields : Except PlanError Unit := do
  let bound ← boundFields context
  (planFieldRefs plan).forM (requireField plan bound)

/-- `_require_ordering` -/
def requireOrdering : Except PlanError Unit :=
  plan.sorts.forM fun item =>
    match item.target with
    | .field _ => .ok ()
    | .aggregate alias_ _ =>
      require (alias_ ∈ plan.aggregates.map (·.alias_)) ("排序引用了计划中不存在的聚合：" ++ alias_)

/-- `{a, b} == {c, d}` -/
def samePair (a b c d : String) : Bool := (a = c && b = d) || (a = d && b = c)

def requireJoin (join : PlanJoin) : Except PlanError Unit := do
  require (join.relationshipId ∈ context.allowedRelationshipIds)
    ("连接使用了允许列表之外的关系：" ++ join.relationshipId)
  match confirmed context join.relationshipId with
  | none => .error (.planning ("连接必须来自上下文中已确认的关系：" ++ join.relationshipId))
  | some relationship => do
    require (join.datasourceId = plan.datasourceId && relationship.datasourceId = plan.datasourceId)
      "第一阶段禁止跨数据源连接"
    require (join.fromDataObjectId ≠ join.toDataObjectId) "连接的两个端点不能是同一个数据对象"
    require (samePair join.fromDataObjectId join.toDataObjectId relationship.fromDataObjectId
      relationship.toDataObjectId) "连接的端点必须与已确认关系一致"
    require (join.fromFieldPath = relationship.fromFieldPath && join.toFieldPath = relationship.toFieldPath)
      "连接的字段必须与已确认关系一致"
    require (join.fromDataObjectId ∈ plan.dataObjectIds && join.toDataObjectId ∈ plan.dataObjectIds)
      "连接的端点必须属于计划内的数据对象"

/-- `_require_joins` -/
def requireJoins : Except PlanError Unit := plan.joins.forM (requireJoin plan context)

/-- `_require_unique` -/
def requireUnique : Except PlanError Unit := do
  require (plan.aggregates.map (·.alias_)).Nodup "查询计划的聚合别名必须唯一"
  require (plan.selectedFields.map (·.identity)).Nodup "查询计划包含重复的选择字段引用"
  require (plan.groupBy.map (·.identity)).Nodup "查询计划包含重复的分组字段引用"
  require (plan.joins.map (·.relationshipId)).Nodup "查询计划包含重复的连接"

/-- The value of an aggregate function. -/
def functionValue : AggregateFunction → String
  | .count => "count"
  | .sum => "sum"
  | .average => "average"
  | .minimum => "minimum"
  | .maximum => "maximum"

def requireGoverned (bound : List (GroundedFieldRef × QueryContextBinding)) (aggregate : PlanAggregate) :
    Except PlanError Unit :=
  match aggregate.field.bind fun ref => lastBound bound ref.identity with
  | none => .ok ()
  | some binding =>
    if binding.assetType ≠ .metric then .ok ()
    else if (overrideOf context binding.businessTerm).isSome then .ok ()
    else
      match binding.defaultAggregation with
      | none => .error (.planning
          ("指标“" ++ binding.businessTerm ++ "”缺少受治理聚合语义，计划不得猜测聚合函数"))
      | some function =>
        require (function = aggregate.function)
          ("指标“" ++ binding.businessTerm ++ "”的聚合函数与受治理默认值不一致：计划用 " ++
            functionValue aggregate.function ++ "，治理值 " ++ functionValue function)

/-- `_require_aggregation_semantics` -/
def requireAggregationSemantics : Except PlanError Unit := do
  let bound ← boundFields context
  plan.aggregates.forM (requireGoverned context bound)

/-- `repr` of a scan version. -/
def versionText : Option Int → String
  | some version => toString version
  | none => "None"

/-- `_require_revision` -/
def requireRevision : Except PlanError Unit :=
  require (context.scanVersion = none || plan.scanVersion = context.scanVersion)
    ("查询计划使用了与查询上下文不同的企业数据图扫描版本：context=" ++ versionText context.scanVersion ++
      ", plan=" ++ versionText plan.scanVersion)

/-- `validate` -/
def validate : Except PlanError Unit := do
  requireNoWriteIntent t
  requireScope plan context
  requireObjects t plan context
  requireLocatorSubset t plan context
  requireFields plan context
  requireOrdering plan
  requireJoins plan context
  requireUnique plan
  requireAggregationSemantics plan context
  requireRevision plan context

end GroundedPlanValidator

end Querying
