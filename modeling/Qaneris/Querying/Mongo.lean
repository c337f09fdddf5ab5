import Qaneris.Querying.Sql

/-!
# MongoDB commands

`GroundedMongoCompiler`: one collection, read by `find` or by an aggregation pipeline.
-/

namespace Querying

open Contracts

/-! ## Dictionaries -/

/-- `fields[key] = value` -/
def setItem (fields : List (String × Value)) (key : String) (value : Value) : List (String × Value) :=
  if fields.any fun field => field.1 = key then
    fields.map fun field => if field.1 = key then (key, value) else field
  else fields ++ [(key, value)]

/-- `{key: value for …}` -/
def dictOf (items : List (String × Value)) : List (String × Value) :=
  items.foldl (fun fields item => setItem fields item.1 item.2) []

/-- `path.replace(".", "_")` -/
def underscored (path : String) : String :=
  String.ofList (path.toList.map fun c => if c = '.' then '_' else c)

namespace MongoCompiler

variable (t : Texts) (plan : GroundedQueryPlan)

/-! ## Paths -/

/-- `text.split(".")` -/
def splitDots : List Char → List (List Char)
  | [] => [[]]
  | c :: text =>
    if c = '.' then [] :: splitDots text
    else
      match splitDots text with
      | [] => [[c]]
      | part :: parts => (c :: part) :: parts

/-- `not path or any(part.startswith("$") or not part for part in path.split("."))` -/
def unsafePath (path : String) : Bool :=
  path = "" || (splitDots path.toList).any fun part => part = [] || part.head? = some '$'

/-- `allowed` -/
def allowed : List String :=
  plan.selectedFields.map GroundedFieldRef.fieldPath ++ plan.groupBy.map GroundedFieldRef.fieldPath ++
    plan.filters.map (fun item => item.field.fieldPath) ++
    plan.aggregates.filterMap (fun item => item.field.map GroundedFieldRef.fieldPath) ++
    plan.sorts.filterMap (fun item => item.field.map GroundedFieldRef.fieldPath) ++
    (plan.timeField.map GroundedFieldRef.fieldPath).toList

/-! ## Conditions -/

/-- `_OPERATORS` -/
def operatorName : FilterOperator → Option String
  | .equals => some "$eq"
  | .notEquals => some "$ne"
  | .greaterThan => some "$gt"
  | .greaterOrEqual => some "$gte"
  | .lessThan => some "$lt"
  | .lessOrEqual => some "$lte"
  | .in_ => some "$in"
  | .between | .contains => none

/-- `_value` -/
def value : Value → Value
  | .moment m => .str (t.isoformat m)
  | v => v

/-- `_time_value`: the first or the last microsecond of a day. -/
def timeValue (m : Moment) (stop : Bool) : Value :=
  .moment { day := m.day, time := some (m.time.getD (if stop then 86399999999 else 0)) }

def clause (item : PlanFilter) : Except Failure (List (String × Value)) :=
  let field := item.field.fieldPath
  match item.operator, item.value.items? with
  | .contains, _ => .ok [(field, .dict [("$regex", .str (t.escape (t.str item.value)))])]
  | .between, some [low, high] =>
    .ok [(field, .dict [("$gte", value t low), ("$lte", value t high)])]
  | .between, _ => .error (.planning "BETWEEN requires two bounds")
  | .in_, some (v :: vs) => .ok [(field, .dict [("$in", .list ((v :: vs).map (value t)))])]
  | .in_, _ => .error (.planning "IN requires values")
  | operator, _ =>
    match operatorName operator with
    | some name => .ok [(field, .dict [(name, value t item.value)])]
    | none => .error (.planning "Unsupported MongoDB filter")

def timeClauses : List (List (String × Value)) :=
  match plan.timeField, plan.timeRange with
  | some ref, some range =>
    let bounds := (range.start.map fun m => ("$gte", timeValue m false)).toList ++
      (range.stop.map fun m => ("$lte", timeValue m true)).toList
    if bounds = [] then [] else [[(ref.fieldPath, .dict bounds)]]
  | _, _ => []

/-- `match` -/
def matchOf : List (List (String × Value)) → List (String × Value)
  | [] => []
  | [clause] => clause
  | clauses => [("$and", .list (clauses.map .dict))]

/-- `sort` -/
def sortKeys : List (String × Int) :=
  plan.sorts.map fun item =>
    (match item.target with
      | .aggregate alias_ _ => alias_
      | .field ref => ref.fieldPath,
    if item.direction = .descending then -1 else 1)

/-! ## Commands -/

def find (name : String) (filter : List (String × Value)) : Except Failure (List (String × Value)) :=
  if plan.sorts.any fun item => item.field.isNone then
    .error (.planning "MongoDB aggregate sort requires an aggregate")
  else
    let projection := dictOf (plan.selectedFields.map fun ref => (ref.fieldPath, .int 1))
    let projection := if projection.any fun field => field.1 = "_id" then projection
      else projection ++ [("_id", .int 0)]
    .ok [("operation", .str "find"), ("collection", .str name), ("filter", .dict filter),
      ("projection", .dict projection),
      ("sort", .list ((sortKeys plan).map fun key => .tuple [.str key.1, .int key.2])),
      ("limit", .int plan.limit)]

/-- `_AGGREGATES` -/
def aggregateOperator : AggregateFunction → Option String
  | .sum => some "$sum"
  | .average => some "$avg"
  | .minimum => some "$min"
  | .maximum => some "$max"
  | .count => none

/-- What an aggregate of the plan computes. -/
def accumulator (item : PlanAggregate) : Value :=
  match aggregateOperator item.function, item.field with
  | some name, some ref => .dict [(name, .str ("$" ++ ref.fieldPath))]
  | _, _ => .dict [("$sum", .int 1)]

/-- `group_keys` -/
def groupKeys : List (String × Value) :=
  dictOf (plan.groupBy.map fun ref => (underscored ref.fieldPath, .str ("$" ++ ref.fieldPath)))

def addAggregate (group : List (String × Value)) (item : PlanAggregate) :
    Except Failure (List (String × Value)) :=
  if item.alias_.toList.head? = some '$' ∨ '.' ∈ item.alias_.toList then
    .error (.planning "MongoDB aggregate alias is unsafe")
  else if (groupKeys plan).any fun field => field.1 = item.alias_ then
    .error (.planning "MongoDB aggregate alias collides with a group field")
  else .ok (setItem group item.alias_ (accumulator item))

/-- `project` -/
def projectOf : List (String × Value) :=
  plan.aggregates.foldl (fun fields item => setItem fields item.alias_ (.int 1))
    (plan.groupBy.foldl (fun fields ref =>
      setItem fields (underscored ref.fieldPath) (.str ("$_id." ++ underscored ref.fieldPath)))
      [("_id", .int 0)])

def addSort (fields : List (String × Value)) (key : String × Int) :
    Except Failure (List (String × Value)) :=
  if (projectOf plan).any fun field => field.1 = underscored key.1 then
    .ok (setItem fields (underscored key.1) (.int key.2))
  else .error (.planning "MongoDB sort is outside projected results")

def aggregate (name : String) (filter : List (String × Value)) :
    Except Failure (List (String × Value)) :=
  if (groupKeys plan).length ≠ plan.groupBy.length then
    .error (.planning "MongoDB group field aliases collide")
  else do
    let id := if groupKeys plan = [] then .null else .dict (groupKeys plan)
    let group ← plan.aggregates.foldlM (addAggregate plan) [("_id", id)]
    let sorted ← (sortKeys plan).foldlM (addSort plan) []
    let pipeline := (if filter = [] then [] else [.dict [("$match", .dict filter)]]) ++
      [.dict [("$group", .dict group)], .dict [("$project", .dict (projectOf plan))]] ++
      (if sortKeys plan = [] then [] else [.dict [("$sort", .dict sorted)]]) ++
      [.dict [("$limit", .int plan.limit)]]
    return [("operation", .str "aggregate"), ("collection", .str name), ("pipeline", .list pipeline)]

def commandOf (name : String) (filter : List (String × Value)) :
    Except Failure (List (String × Value)) :=
  if plan.aggregates = [] ∧ plan.groupBy = [] then find plan name filter
  else aggregate plan name filter

/-! ## What is shown -/

/-- A stage of a pipeline with its conditions hidden. -/
def safeStage : Value → Value
  | .dict fields =>
    if fields.any fun field => field.1 = "$match" then .dict [("$match", .str "<param>")]
    else .dict fields
  | stage => stage

/-- `_safe_display` -/
def safeDisplay (command : List (String × Value)) : String :=
  let get (key : String) := (command.lookup key).getD .null
  let shape := [("operation", get "operation"), ("collection", get "collection")]
  if get "operation" = .str "find" then
    t.dumps (.dict (shape ++ [
      ("filter", if get "filter" = .dict [] then .dict [] else .str "<param>"),
      ("projection", get "projection"), ("sort", get "sort"), ("limit", get "limit")]))
  else
    t.dumps (.dict (shape ++ [("pipeline", .list (((get "pipeline").items?.getD []).map safeStage))]))

/-- `compile` -/
def compile : Except Failure NativeQuery :=
  if plan.dataObjectIds.length ≠ 1 ∨ plan.joins ≠ [] then
    .error (.planning "MongoDB formal execution supports one collection only")
  else
    match (plan.locator (plan.dataObjectIds.headD "")).bind fun locator => given locator.name with
    | none => .error (.planning "MongoDB collection locator is missing")
    | some name =>
      if (allowed plan).any unsafePath then .error (.planning "MongoDB field path is unsafe")
      else do
        let clauses ← plan.filters.mapM (clause t)
        let filter := matchOf (clauses ++ timeClauses plan)
        let command ← commandOf plan name filter
        return {
          datasourceId := plan.datasourceId, planId := plan.planId, scanVersion := plan.scanVersion
          queryLanguage := .mongodbJson, command := .document command
          displayCommand := safeDisplay t command }

end MongoCompiler

end Querying
