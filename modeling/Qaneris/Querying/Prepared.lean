import Mathlib.Data.List.Infix
import Qaneris.Contracts.Prepared
import Qaneris.Infra.Dict
import Qaneris.Infra.Except
import Qaneris.Querying.Sql

/-!
# Planning from profiles

`RuleBasedQueryPlanner` and `QueryPlanValidator`: a plan for the first retrieved source, made of the
words of the question and of the parsed intent. How Python writes a text in lowercase is a parameter.
-/

namespace Querying

open Contracts Infra
open Scan (DatasourceKind)

/-- `f"{object_id}::{path}"` -/
def referenceText (objectId path : String) : String := objectId ++ "::" ++ path

namespace RuleBasedQueryPlanner

/-- `_LANGUAGES` -/
def languages : Dict QueryLanguage :=
  [("sqlite", .sql), ("postgresql", .sql), ("mysql", .sql), ("oracle", .sql), ("sqlserver", .sql),
    ("timescaledb", .sql), ("clickhouse", .sql), ("snowflake", .sql), ("bigquery", .sql),
    ("redis", .redisJson), ("mongodb", .mongodbJson), ("couchdb", .couchdbMango),
    ("cassandra", .cql), ("hbase", .hbaseJson), ("neo4j", .cypher), ("influxdb", .flux),
    ("elasticsearch", .searchJson), ("opensearch", .searchJson), ("milvus", .vectorFilterJson),
    ("qdrant", .vectorFilterJson), ("weaviate", .graphql)]

/-- `_RESULT_TYPES.get(kind, QueryResultType.TABULAR)` -/
def resultType : DatasourceKind → QueryResultType
  | .keyValue => .keyValue
  | .document => .document
  | .wideColumn => .wideColumn
  | .graph => .graph
  | .timeSeries => .timeSeries
  | .search => .search
  | .vector => .vector
  | .relational | .olap => .tabular

/-- `_NUMERIC_TOKENS` -/
def numericTokens : List String := ["int", "float", "double", "decimal", "numeric", "number", "real"]

def timeTokens : List String := ["date", "time", "timestamp", "日期", "时间"]

/-! ## Texts -/

/-- `part in text` -/
def isIn (part text : String) : Bool := decide (part.toList <:+: text.toList)

/-- `text.find(part)`; `none` stands for -1. -/
def find (text part : String) : Option Nat :=
  (List.range (text.length + 1)).find? fun i => part.toList.isPrefixOf (text.toList.drop i)

/-- `text.rsplit(".", 1)[-1]` -/
def lastSegment (text : String) : String :=
  String.ofList (text.toList.reverse.takeWhile (· ≠ '.')).reverse

variable (lower : String → String)

/-! ## Fields -/

abbrev Column := DataObjectProfile × FieldProfile

/-- The fields of the objects. -/
def columns (objects : List DataObjectProfile) : List Column :=
  objects.flatMap fun item => item.fields.map fun field => (item, field)

/-- `_reference` -/
def reference (column : Column) : String := referenceText column.1.id column.2.path

/-- `_is_numeric` -/
def isNumeric (dataType : String) : Bool := numericTokens.any fun token => isIn token (lower dataType)

/-- The text names the field: by its path, or its last segment by its name. -/
def Names (text : String) (field : FieldProfile) : Prop :=
  lower field.path = lower text ∨ lower field.name = lastSegment (lower text)

instance (text : String) (field : FieldProfile) : Decidable (Names lower text field) :=
  inferInstanceAs (Decidable (_ ∨ _))

/-- `matches` in `_resolve_field` -/
def matching (text : String) (objects : List DataObjectProfile) : List Column :=
  (columns objects).filter fun column => Names lower text column.2

/-- `_resolve_field` -/
def resolveField (text : String) (objects : List DataObjectProfile) : Option String :=
  match matching lower text objects with
  | [column] => some (reference column)
  | _ => none

/-- The first field that the question names, or else the first field. -/
def chosen (question : String) (fields : List Column) : Option String :=
  let matched := fields.filter fun column => isIn (lower column.2.path) (lower question)
  ((if matched = [] then fields else matched).head?).map reference

/-- `_best_field`, among the numeric fields -/
def bestNumericField (question : String) (objects : List DataObjectProfile) : Option String :=
  chosen lower question ((columns objects).filter fun column => isNumeric lower column.2.dataType)

/-- `_best_time_field` -/
def bestTimeField (question : String) (objects : List DataObjectProfile) : Option String :=
  chosen lower question ((columns objects).filter fun column => timeTokens.any fun token =>
    isIn token (lower column.2.dataType) || isIn token (lower column.2.path))

/-- `_default_fields` -/
def defaultFields (item : DataObjectProfile) : List String :=
  (item.fields.take 10).map fun field => reference (item, field)

/-! ## Dimensions -/

/-- `_mention_distance` -/
def mentionDistance (question objectName field : String) : Nat × Nat :=
  match find question (lower objectName), find question (lower field) with
  | some objectPosition, some fieldPosition =>
    (if objectPosition > fieldPosition then 1 else 0,
      (objectPosition - fieldPosition) + (fieldPosition - objectPosition))
  | _, _ => (2, question.length + 1)

/-- `<` on pairs -/
def nearer (a b : Nat × Nat) : Bool := a.1 < b.1 || a.1 = b.1 && a.2 < b.2

/-- `_matched_dimensions` -/
def matchedDimensions (question : String) (objects : List DataObjectProfile) : List String :=
  let question := lower question
  let candidates := (columns objects).filter fun column =>
    isIn (lower column.2.path) question && !isNumeric lower column.2.dataType
  let chosen := candidates.foldl (fun (chosen : Dict Column) column =>
    match chosen.get? (lower column.2.path) with
    | none => chosen.set (lower column.2.path) column
    | some current =>
      if nearer (mentionDistance lower question column.1.name column.2.path)
          (mentionDistance lower question current.1.name current.2.path) then
        chosen.set (lower column.2.path) column
      else chosen) []
  (chosen.map fun item => reference item.2).take 3

/-! ## Aggregates and sorts -/

/-- The field of an aggregate in the plan. -/
def aggregateField (question : String) (objects : List DataObjectProfile) (item : AggregateSpec) :
    Option String :=
  if item.function = .count then item.field else bestNumericField lower question objects

/-- The alias of an aggregate in the plan: `aggregate.alias or "value"`. -/
def aggregateAlias (item : AggregateSpec) : Option String :=
  if item.function = .count then item.alias_ else some ((given item.alias_).getD "value")

/-- `_resolve_aggregate` -/
def resolveAggregate (question : String) (objects : List DataObjectProfile) (item : AggregateSpec) :
    Except Failure AggregateSpec :=
  if item.function ≠ .count ∧ bestNumericField lower question objects = none then
    .error (.planning "聚合问题没有召回可用的数值字段")
  else
    .ok { item with
      field := aggregateField lower question objects item
      alias_ := aggregateAlias item }

/-- `target` in `_resolve_sorts` -/
def sortTarget (aggregates : List AggregateSpec) (dimensions : List String) : Option String :=
  match aggregates with
  | item :: _ => (given item.alias_).or item.field
  | [] => dimensions.head?

/-- `_resolve_sorts` -/
def resolveSorts (sorts : List SortSpec) (aggregates : List AggregateSpec)
    (dimensions : List String) : List SortSpec :=
  sorts.map fun item =>
    { item with field := (given (sortTarget aggregates dimensions)).getD item.field }

/-! ## Connected objects -/

/-- The state of the loop in `_connected_objects`. -/
structure Joining where
  selected : List DataObjectProfile
  relationships : List RelationshipProfile := []
  candidates : Dict DataObjectProfile
  progress : Bool := false
  selected_ne : selected ≠ []

/-- `_connected_objects` at one relationship. -/
def Joining.take (selectedIds : List String) (s : Joining) (relation : RelationshipProfile) : Joining :=
  if relation.fromDatasourceId ≠ relation.toDatasourceId then s
  else
    let endpoints := [relation.fromObjectId, relation.toObjectId].dedup
    match endpoints.filter (· ∉ selectedIds) with
    | [objectId] =>
      if endpoints.any (· ∈ selectedIds) then
        match s.candidates.get? objectId with
        | some profile =>
          { selected := s.selected ++ [profile]
            relationships := s.relationships ++ [relation]
            candidates := s.candidates.pop objectId
            progress := true
            selected_ne := by simp }
        | none => s
      else s
    | _ => s

/-- One round of the loop. -/
def Joining.round (relations : List RelationshipProfile) (s : Joining) : Joining :=
  relations.foldl (Joining.take (s.selected.map (·.id))) { s with progress := false }

/-- `while progress` -/
def Joining.run (relations : List RelationshipProfile) : Nat → Joining → Joining
  | 0, s => s
  | fuel + 1, s =>
    let next := s.round relations
    if next.progress then Joining.run relations fuel next else next

def Joining.start (first : RetrievedDataObject) (rest : List RetrievedDataObject) : Joining where
  selected := [first.profile]
  candidates := Dict.update [] (rest.map fun item => (item.profile.id, item.profile))
  selected_ne := by simp

/-- `_connected_objects`. Each round but the last takes a candidate. -/
def connectedObjects (first : RetrievedDataObject) (rest : List RetrievedDataObject)
    (relations : List RelationshipProfile) : Joining :=
  let start := Joining.start first rest
  start.run relations (start.candidates.length + 1)

/-! ## The plan -/

/-- What the planner works on. -/
structure Located where
  source : RetrievedDataSource
  first : RetrievedDataObject
  rest : List RetrievedDataObject
  language : QueryLanguage
  source_objects : source.dataObjects = first :: rest

/-- The first source, its objects and its language. -/
def locate (context : QueryContext) : Except Failure Located :=
  match context.dataSources with
  | [] => .error (.planning "查询上下文没有召回可用数据源")
  | source :: _ =>
    match h : source.dataObjects with
    | [] => .error (.planning "查询上下文没有召回可用数据对象")
    | first :: rest =>
      match languages.get? source.driver with
      | none => .error (.planning ("数据源驱动尚无查询生成器: " ++ source.driver))
      | some language => .ok ⟨source, first, rest, language, h⟩

/-- The objects of the plan and the relationships between them. -/
def Located.joining (l : Located) (context : QueryContext) : Joining :=
  if l.language = .sql then connectedObjects l.first l.rest context.relationships
  else { selected := [l.first.profile], candidates := [], selected_ne := by simp }

def Located.objects (l : Located) (context : QueryContext) : List DataObjectProfile :=
  (l.joining context).selected

/-- The filters whose field was found. -/
def resolveFilters (filters : List FilterSpec) (objects : List DataObjectProfile) : List FilterSpec :=
  filters.filterMap fun item =>
    (resolveField lower item.field objects).map fun field => { item with field }

/-- The time range and its field. -/
structure Timed where
  range : Option TimeRange
  field : Option String
  together : range.isNone = field.isNone

def resolveTime (intent : QueryIntent) (objects : List DataObjectProfile) : Except Failure Timed :=
  match intent.timeRange with
  | none => .ok ⟨none, none, TimeRange.none_together⟩
  | some range =>
    match bestTimeField lower intent.question objects with
    | none => .error (.planning "问题包含时间范围，但没有召回可用时间字段")
    | some field => .ok ⟨some range, some field, rfl⟩

/-- `plan` -/
def plan (context : QueryContext) (maxRows : { n : Nat // 1 ≤ n }) (planId : String) :
    Except Failure QueryPlan := do
  let intent := context.intent
  let l ← locate context
  let objects := l.objects context
  let aggregates ← intent.aggregates.mapM (resolveAggregate lower intent.question objects)
  let filters := resolveFilters lower intent.filters objects
  let dimensions := matchedDimensions lower intent.question objects
  let time ← resolveTime lower intent objects
  let outputFields := if dimensions ≠ [] then dimensions
    else if aggregates ≠ [] then [] else defaultFields l.first.profile
  return {
    id := planId
    datasourceId := l.source.datasourceId
    queryLanguage := l.language
    dataObjectIds := objects.map (·.id)
    outputFields := outputFields
    metrics := aggregates.filterMap fun item => given item.field
    dimensions := dimensions
    relationshipIds := (l.joining context).relationships.map (·.id)
    filters := filters
    timeRange := time.range
    timeField := time.field
    aggregates := aggregates
    groupBy := if aggregates ≠ [] then dimensions else []
    sorts := resolveSorts intent.sorts aggregates dimensions
    limit := min (intent.limit.getD maxRows) (min maxRows 1000)
    expectedResultType := resultType l.source.kind
    rationale := l.first.reasons ++ ["第一版仅选择一个数据源，可使用源内已确认关系"]
    unresolvedAmbiguities := intent.ambiguities
    dataObjectIds_length := by
      rw [List.length_map]
      exact List.length_pos_iff.mpr (l.joining context).selected_ne
    limit_range := by
      have hmax := maxRows.property
      have hlimit : 1 ≤ intent.limit.getD maxRows := by
        cases h : intent.limit with
        | none => exact hmax
        | some n => exact (intent.limit_range n h).1
      omega
    time_together := time.together }

end RuleBasedQueryPlanner

/-! ## Validation -/

namespace QueryPlanValidator

/-- `objects` -/
def objects (source : RetrievedDataSource) : Dict DataObjectProfile :=
  Dict.update [] (source.dataObjects.map fun item => (item.profile.id, item.profile))

/-- `allowed_fields` -/
def allowedFields (source : RetrievedDataSource) (objectIds : List String) : List String :=
  objectIds.flatMap fun objectId =>
    match (objects source).get? objectId with
    | some profile => profile.fields.map fun field => referenceText objectId field.path
    | none => []

/-- `aliases` -/
def aliases (plan : QueryPlan) : List String := plan.aggregates.filterMap fun item => given item.alias_

/-- `used_fields` -/
def usedFields (plan : QueryPlan) : List String :=
  plan.outputFields ++ plan.metrics ++ plan.dimensions ++ plan.groupBy ++
    plan.filters.map (·.field) ++ plan.aggregates.filterMap (fun item => given item.field) ++
    (given plan.timeField).toList ++ (plan.sorts.map (·.field)).filter (· ∉ aliases plan)

/-- `allowed_relationships` -/
def allowedRelationships (context : QueryContext) : Dict RelationshipProfile :=
  Dict.update [] (context.relationships.map fun item => (item.id, item))

/-- The relationship joins two objects of the plan in its source. -/
def Within (plan : QueryPlan) (item : RelationshipProfile) : Prop :=
  item.fromDatasourceId = plan.datasourceId ∧ item.toDatasourceId = plan.datasourceId ∧
    item.fromObjectId ∈ plan.dataObjectIds ∧ item.toObjectId ∈ plan.dataObjectIds

instance (plan : QueryPlan) (item : RelationshipProfile) : Decidable (Within plan item) :=
  inferInstanceAs (Decidable (_ ∧ _ ∧ _ ∧ _))

/-- `validate` -/
def validate (plan : QueryPlan) (context : QueryContext) : Except Failure Unit :=
  match context.dataSources.filter (·.datasourceId = plan.datasourceId) with
  | [source] =>
    if ¬ ∀ objectId ∈ plan.dataObjectIds, objectId ∈ (objects source).keys then
      .error (.planning "查询计划包含未授权的数据对象")
    else if plan.timeRange.isNone ≠ plan.timeField.isNone then
      .error (.planning "时间范围和时间字段必须同时存在")
    else if ¬ ∀ field ∈ usedFields plan, field ∈ allowedFields source plan.dataObjectIds then
      .error (.planning "查询计划包含未召回的字段")
    else if ¬ ∀ id ∈ plan.relationshipIds, id ∈ (allowedRelationships context).keys then
      .error (.planning "查询计划包含未召回的关系")
    else if ¬ ∀ id ∈ plan.relationshipIds, ∀ item ∈ (allowedRelationships context).get? id,
        Within plan item then
      .error (.planning "第一版禁止跨数据源关系或计划外对象参与执行")
    else .ok ()
  | _ => .error (.planning "查询计划必须使用一个已召回的数据源")

end QueryPlanValidator

end Querying
