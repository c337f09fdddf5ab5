import Qaneris.Contracts.Query
import Qaneris.Infra.Tokens

/-!
# Parameterized SQL

`GroundedSQLCompiler`: the command of a plan for one of the three relational drivers. It names only
what the plan names, and every value of the plan becomes a parameter.
-/

namespace Querying

open Contracts

/-- What the compilers and the validators raise. -/
inductive Failure where
  | planning (message : String)
  | safety (message : String)
  | key (key : String)
  deriving DecidableEq, Repr

/-- What Python makes of values as text. -/
structure Texts where
  /-- `str(value)` -/
  str : Value → String
  isoformat : Moment → String
  /-- `re.escape` -/
  escape : String → String
  /-- `json.dumps(value, ensure_ascii=False, sort_keys=True, separators=(",", ":"))` -/
  dumps : Value → String
  repr : Value → String
  /-- The `repr` of a member of `QueryLanguage`. -/
  reprLanguage : QueryLanguage → String

inductive Driver where
  | sqlite
  | postgresql
  | mysql
  deriving DecidableEq, Repr

/-- `self.quote` -/
def Driver.quote : Driver → Char
  | .mysql => '`'
  | .sqlite | .postgresql => '"'

/-- `self.placeholder` -/
def Driver.placeholder : Driver → String
  | .sqlite => "?"
  | .postgresql | .mysql => "%s"

/-- `_AGGREGATES[function]` -/
def aggregateName : AggregateFunction → String
  | .count => "COUNT"
  | .sum => "SUM"
  | .average => "AVG"
  | .minimum => "MIN"
  | .maximum => "MAX"

/-- A text that Python takes for true. -/
def given : Option String → Option String
  | some text => if text = "" then none else some text
  | none => none

namespace SQLCompiler

variable (t : Texts) (d : Driver) (plan : GroundedQueryPlan)

/-! ## Names -/

/-- `_quote` -/
def quote (value : String) : String :=
  String.ofList (Infra.quote d.quote value.toList)

/-- `aliases[object_id]` -/
def aliasOf (objectId : String) : String :=
  "t" ++ Nat.repr (plan.dataObjectIds.idxOf objectId)

/-- `_table` -/
def table (objectId : String) : Except Failure String :=
  match (plan.locator objectId).bind fun locator => locator.name.map fun name => (locator, name) with
  | none => .error (.planning ("Missing native locator for data object: " ++ objectId))
  | some (locator, name) =>
    match given locator.namespace_ with
    | some space => .ok (quote d space ++ "." ++ quote d name)
    | none => .ok (quote d name)

/-- `_field` -/
def field (ref : GroundedFieldRef) : Except Failure String :=
  if ref.dataObjectId ∈ plan.dataObjectIds then
    .ok (aliasOf plan ref.dataObjectId ++ "." ++ quote d ref.fieldPath)
  else .error (.planning "Field is outside the compiled plan")

/-! ## Clauses -/

def aggregate (item : PlanAggregate) : Except Failure String := do
  let argument ← match item.field with
    | none => pure "*"
    | some ref => field d plan ref
  return aggregateName item.function ++ "(" ++ argument ++ ") AS " ++ quote d item.alias_

/-- The joined object, and the fields that are equal: the one of the base first. -/
def sides (base : String) (join : PlanJoin) :
    Except Failure (String × String × String) :=
  if join.fromDataObjectId = base then
    .ok (join.toDataObjectId, join.fromFieldPath, join.toFieldPath)
  else if join.toDataObjectId = base then
    .ok (join.fromDataObjectId, join.toFieldPath, join.fromFieldPath)
  else .error (.planning "Join is disconnected from the plan base object")

/-- The text of a join of the base. -/
def joinText (base : String) (join : PlanJoin) : Except Failure String := do
  let (joined, leftField, rightField) ← sides base join
  if joined ∉ plan.dataObjectIds then .error (.key joined)
  else
    let joinedTable ← table d plan joined
    return " JOIN " ++ joinedTable ++ " AS " ++ aliasOf plan joined ++ " ON " ++
      aliasOf plan base ++ "." ++ quote d leftField ++ " = " ++
      aliasOf plan joined ++ "." ++ quote d rightField

/-- `_value` -/
def value : Value → Value
  | .moment m => .str (t.isoformat m)
  | v => v

/-- `simple` -/
def simple : FilterOperator → Option String
  | .equals => some "="
  | .notEquals => some "!="
  | .greaterThan => some ">"
  | .greaterOrEqual => some ">="
  | .lessThan => some "<"
  | .lessOrEqual => some "<="
  | .in_ | .between | .contains => none

/-- `_predicate` -/
def predicate (field : String) (operator : FilterOperator) (v : Value) :
    Except Failure (String × List Value) :=
  if v = .null then
    match operator with
    | .equals => .ok (field ++ " IS NULL", [])
    | .notEquals => .ok (field ++ " IS NOT NULL", [])
    | _ => .error (.planning "NULL only supports equals and not_equals")
  else
    match simple operator with
    | some symbol => .ok (field ++ " " ++ symbol ++ " " ++ d.placeholder, [value t v])
    | none =>
      match operator, v.items? with
      | .between, some [low, high] =>
        .ok (field ++ " BETWEEN " ++ d.placeholder ++ " AND " ++ d.placeholder,
          [value t low, value t high])
      | .between, _ => .error (.planning "BETWEEN requires exactly two bounds")
      | .in_, some (item :: items) =>
        if .null ∈ item :: items then
          .error (.planning "IN with NULL is ambiguous; use an explicit NULL predicate")
        else
          .ok (field ++ " IN (" ++
              ", ".intercalate ((item :: items).map fun _ => d.placeholder) ++ ")",
            (item :: items).map (value t))
      | .in_, _ => .error (.planning "IN requires a non-empty list or tuple")
      | _, _ => .ok (field ++ " LIKE " ++ d.placeholder, [.str ("%" ++ t.str v ++ "%")])

def filter (item : PlanFilter) : Except Failure (String × List Value) := do
  let column ← field d plan item.field
  predicate t d column item.operator item.value

/-- The conditions of the time range. -/
def timeConditions : Except Failure (List (String × List Value)) :=
  match plan.timeField, plan.timeRange with
  | some ref, some range => do
    let column ← field d plan ref
    let start := range.start.map fun m =>
      (column ++ " >= " ++ d.placeholder, [value t (.moment m)])
    let stop := range.stop.map fun m =>
      (column ++ " <= " ++ d.placeholder, [value t (.moment m)])
    return start.toList ++ stop.toList
  | _, _ => .ok []

def ordering (item : PlanSort) : Except Failure String := do
  let target ← match item.target with
    | .aggregate alias_ _ => pure (quote d alias_)
    | .field ref => field d plan ref
  return target ++ " " ++ (if item.direction = .descending then "DESC" else "ASC")

/-- `" KEYWORD " + separator.join(items)`, or nothing when there are no items. -/
def clause (keyword separator : String) (items : List String) : String :=
  if items = [] then "" else keyword ++ separator.intercalate items

/-! ## The command -/

/-- `compile` -/
def compile : Except Failure NativeQuery :=
  if 1 < plan.joins.length then
    .error (.planning "Phase 1 supports only one confirmed direct join")
  else do
    let tables ← plan.dataObjectIds.mapM (table d plan)
    let fields ← plan.selectedFields.mapM (field d plan)
    let aggregates ← plan.aggregates.mapM (aggregate d plan)
    let base := plan.dataObjectIds.headD ""
    let joins ← plan.joins.mapM (joinText d plan base)
    let filters ← plan.filters.mapM (filter t d plan)
    let times ← timeConditions t d plan
    let groupBy ← plan.groupBy.mapM (field d plan)
    let orderBy ← plan.sorts.mapM (ordering d plan)
    let command := "SELECT " ++ ", ".intercalate (fields ++ aggregates) ++ " FROM " ++
      tables.headD "" ++ " AS " ++ aliasOf plan base ++ String.join joins ++
      clause " WHERE " " AND " ((filters ++ times).map Prod.fst) ++
      clause " GROUP BY " ", " groupBy ++ clause " ORDER BY " ", " orderBy ++
      " LIMIT " ++ d.placeholder
    return {
      datasourceId := plan.datasourceId, planId := plan.planId, scanVersion := plan.scanVersion
      queryLanguage := .sql, command := .text command
      parameters := (filters ++ times).flatMap Prod.snd ++ [.int plan.limit]
      displayCommand := command }

end SQLCompiler

end Querying
