import Qaneris.Contracts.Grounding
import Qaneris.Contracts.Query
import Qaneris.Infra.Unicode

/-!
# The query context

What planning is allowed to see: the bindings of a grounding with their physical identity in the graph.
-/

namespace Contracts

open Infra (Json)

/-- `_AGGREGATE_OPERATIONS` -/
def aggregateOperations : List (String × AggregateFunction) :=
  [("count", .count), ("计数", .count), ("countrows", .count), ("sum", .sum), ("total", .sum),
   ("求和", .sum), ("合计", .sum), ("总和", .sum), ("average", .average), ("avg", .average),
   ("mean", .average), ("平均", .average), ("minimum", .minimum), ("min", .minimum),
   ("最小值", .minimum), ("最小", .minimum), ("maximum", .maximum), ("max", .maximum),
   ("最大值", .maximum), ("最大", .maximum)]

/-- `aggregate_function_for` -/
def aggregateFunctionFor (operation : String) : Option AggregateFunction :=
  aggregateOperations.lookup (String.ofList ((Infra.casefold operation.toList).filter Infra.isAlnum))

/-- `is_date_type` -/
def GroundedFieldRef.isDateType (ref : GroundedFieldRef) : Bool :=
  match ref.dataType with
  | none => false
  | some dataType =>
    String.ofList (Infra.casefold (Infra.strip dataType.toList))
      ∈ ["date", "datetime", "timestamp", "timestamptz"]

/-- The business dimension that is the time axis. -/
@[ext] structure TimeSpec where
  dimension : String
  dimension_length : 1 ≤ dimension.length
  deriving Repr

instance : DecidableEq TimeSpec := fun _ _ => decidable_of_iff' _ TimeSpec.ext_iff

structure QueryContextBinding where
  businessTerm : String
  assetType : SemanticAssetType
  assetId : String
  datasourceId : String
  dataObjectId : Option String := none
  fieldId : Option String := none
  fieldPath : Option String := none
  relationshipId : Option String := none
  score : Rat
  evidence : List String := []
  defaultAggregation : Option AggregateFunction := none
  dataType : Option String := none
  nativeType : Option String := none
  namespace_ : Option String := none
  qualifiedName : Option String := none
  objectKind : Option String := none
  dataObjectName : Option String := none
  deriving DecidableEq, Repr

namespace QueryContextBinding

variable (binding : QueryContextBinding)

/-- What `QueryContextBinding(…)` raises. -/
def check : Except String Unit :=
  if binding.businessTerm.length < 1 then .error "business_term: String should have at least 1 character"
  else if binding.datasourceId.length < 1 then
    .error "datasource_id: String should have at least 1 character"
  else if binding.assetType = .relationship then
    if truthy binding.relationshipId then .ok ()
    else .error "relationship binding requires a relationship_id"
  else if truthy binding.dataObjectId = false then .error "binding requires a physical data object"
  else if binding.assetType ∈ [.metric, .dimension, .field] ∧ truthy binding.fieldPath = false then
    .error "metric/dimension/field binding requires a physical field path"
  else .ok ()

/-- `field_ref` -/
def fieldRef : Except String (Option GroundedFieldRef) :=
  if truthy binding.fieldPath = false then .ok none
  else
    let datasourceId := binding.datasourceId
    let dataObjectId := binding.dataObjectId.getD ""
    let fieldPath := binding.fieldPath.getD ""
    if h : 1 ≤ datasourceId.length ∧ 1 ≤ dataObjectId.length ∧ 1 ≤ fieldPath.length then
      .ok (some
        { datasourceId
          dataObjectId
          fieldPath
          fieldId := binding.fieldId
          businessTerm := some binding.businessTerm
          dataType := binding.dataType
          nativeType := binding.nativeType
          datasourceId_length := h.1
          dataObjectId_length := h.2.1
          fieldPath_length := h.2.2 })
    else .error "data_object_id: Input should be a valid string"

end QueryContextBinding

structure QueryContextFilter where
  subject : String
  field : GroundedFieldRef
  operator : FilterOperator
  value : Json
  deriving DecidableEq, Repr

structure QueryContextRelationship where
  relationshipId : String
  relationshipType : Option String := none
  datasourceId : String
  fromDataObjectId : String
  fromFieldPath : String
  toDataObjectId : String
  toFieldPath : String
  evidence : List String := []
  deriving DecidableEq, Repr

structure GroundedQueryContext where
  workspaceId : String
  requestedDatasourceId : Option String := none
  objective : BusinessObjective
  businessQuery : BusinessQuery
  bindings : List QueryContextBinding
  metrics : List QueryContextBinding := []
  dimensions : List QueryContextBinding := []
  entities : List QueryContextBinding := []
  filters : List QueryContextFilter := []
  ranking : Option RankingSpec := none
  derivations : List DerivationSpec := []
  timeRange : Option TimeRange := none
  timeSpec : Option TimeSpec := none
  timeField : Option GroundedFieldRef := none
  relationships : List QueryContextRelationship := []
  dataObjects : List (String × GroundedDataObjectRef) := []
  scanVersion : Option Int := none
  allowedDatasourceIds : List String
  allowedDataObjectIds : List String
  allowedFieldPaths : List String := []
  allowedFieldIds : List String := []
  allowedRelationshipIds : List String := []
  confidence : Rat := 0
  deriving DecidableEq, Repr

namespace GroundedQueryContext

variable (context : GroundedQueryContext)

/-- What `validate_grounded_only` raises about a binding. -/
def bindingError (binding : QueryContextBinding) : Option String :=
  if binding.datasourceId ∉ context.allowedDatasourceIds then
    some "binding datasource is not in the context allowlist"
  else if GroundedQuery.outside binding.dataObjectId context.allowedDataObjectIds then
    some "binding data object is not in the context allowlist"
  else if GroundedQuery.outside binding.fieldPath context.allowedFieldPaths then
    some "binding field is not in the context allowlist"
  else if GroundedQuery.outside binding.fieldId context.allowedFieldIds then
    some "binding field identity is not in the context allowlist"
  else if GroundedQuery.outside binding.relationshipId context.allowedRelationshipIds then
    some "binding relationship is not in the context allowlist"
  else none

/-- The context is of the requested datasource only. -/
def scopedOnly : Bool :=
  !truthy context.requestedDatasourceId
    || context.allowedDatasourceIds.all (some · = context.requestedDatasourceId)
      && context.allowedDatasourceIds ≠ []

/-- What `validate_grounded_only` raises about the locators. -/
def locatorError (entry : String × GroundedDataObjectRef) : Option String :=
  if entry.2.dataObjectId ≠ entry.1 then
    some "data_objects key must equal the locator's data_object_id"
  else if entry.2.datasourceId ∉ context.allowedDatasourceIds then
    some "data_objects carries a datasource outside the allowlist"
  else none

/-- `GroundedQueryContext(…)`: the fields are checked, then what the context consists of. -/
def validate : Except String GroundedQueryContext :=
  if context.workspaceId.length < 1 then
    .error "workspace_id: String should have at least 1 character"
  else if context.bindings = [] then .error "bindings: List should have at least 1 item"
  else if context.allowedDatasourceIds = [] then
    .error "allowed_datasource_ids: List should have at least 1 item"
  else if context.allowedDataObjectIds = [] then
    .error "allowed_data_object_ids: List should have at least 1 item"
  else if ¬(0 ≤ context.confidence ∧ context.confidence ≤ 1) then
    .error "confidence: Input should be greater than or equal to 0 and less than or equal to 1"
  else if context.timeRange.isNone ≠ context.timeField.isNone then
    .error "time_range and time_field must be provided together"
  else if context.timeSpec ≠ none ∧ context.timeField = none then
    .error "a time_spec is only valid when time_field is grounded"
  else if context.timeField.any (fun ref => !ref.isDateType) then
    .error "time field is not a date/datetime column"
  else
    match context.bindings.findSome? context.bindingError with
    | some message => .error message
    | none =>
      if context.scopedOnly = false then
        .error "a scoped query context may only contain the requested datasource"
      else
        match context.dataObjects.findSome? context.locatorError with
        | some message => .error message
        | none => .ok context

end GroundedQueryContext

end Contracts
