import Qaneris.Contracts.Prepared
import Qaneris.Infra.Dict
import Qaneris.Infra.Except
import Qaneris.Querying.Sql

/-!
# Generated document filters

The filter documents `QueryGenerator` makes of a prepared plan for MongoDB and CouchDB. A filter and
the time range each assign one predicate to a field of the document.
-/

namespace Querying

open Contracts Infra

/-- The texts before and after the first `::`. -/
def splitReference : List Char → Option (List Char × List Char)
  | [] => none
  | ':' :: ':' :: rest => some ([], rest)
  | c :: rest => (splitReference rest).map fun parts => (c :: parts.1, parts.2)

/-- `reference.split("::", 1)[-1]` -/
def pathOf (reference : String) : String :=
  match splitReference reference.toList with
  | some (_, path) => String.ofList path
  | none => reference

/-- `_native_field` -/
def nativeField (dataObject : DataObjectProfile) (reference : String) : Except Failure String :=
  match splitReference reference.toList with
  | some (objectId, path) =>
    if String.ofList objectId = dataObject.id then .ok (String.ofList path)
    else .error (.planning "字段引用不属于目标数据对象")
  | none => .ok reference

namespace QueryGenerator

variable (t : Texts)

/-- `{"$gte": low, "$lte": high}` -/
def betweenDocument (value : Value) : Except Failure Value :=
  match value.items? with
  | some [low, high] => .ok (.dict [("$gte", low), ("$lte", high)])
  | _ => .error (.planning "BETWEEN 过滤需要两个边界值")

/-- What `_mongo` assigns to the field of a filter. -/
def mongoPredicate (item : FilterSpec) : Except Failure Value :=
  match item.operator with
  | .between => betweenDocument item.value
  | .equals => .ok item.value
  | .notEquals => .ok (.dict [("$ne", item.value)])
  | .greaterThan => .ok (.dict [("$gt", item.value)])
  | .greaterOrEqual => .ok (.dict [("$gte", item.value)])
  | .lessThan => .ok (.dict [("$lt", item.value)])
  | .lessOrEqual => .ok (.dict [("$lte", item.value)])
  | .in_ => .ok (.dict [("$in", item.value)])
  | .contains => .ok (.dict [("$regex", item.value)])

/-- What `_couchdb` assigns to the field of a filter. -/
def couchPredicate (item : FilterSpec) : Except Failure Value :=
  match item.operator with
  | .between => betweenDocument item.value
  | .contains => .ok (.dict [("$regex", .str (t.str item.value))])
  | .equals => .ok (.dict [("$eq", item.value)])
  | .notEquals => .ok (.dict [("$ne", item.value)])
  | .greaterThan => .ok (.dict [("$gt", item.value)])
  | .greaterOrEqual => .ok (.dict [("$gte", item.value)])
  | .lessThan => .ok (.dict [("$lt", item.value)])
  | .lessOrEqual => .ok (.dict [("$lte", item.value)])
  | .in_ => .ok (.dict [("$in", item.value)])

/-- The two targets whose filters are documents. -/
inductive DocumentTarget where
  | mongodb (dataObject : DataObjectProfile)
  | couchdb
  deriving DecidableEq, Repr

namespace DocumentTarget

def field : DocumentTarget → String → Except Failure String
  | mongodb dataObject, reference => nativeField dataObject reference
  | couchdb, reference => .ok (pathOf reference)

def predicate : DocumentTarget → FilterSpec → Except Failure Value
  | mongodb _, item => mongoPredicate item
  | couchdb, item => couchPredicate t item

/-- The assignment of a filter: the field, then the predicate. -/
def assignment (target : DocumentTarget) (item : FilterSpec) : Except Failure (String × Value) := do
  let field ← target.field item.field
  let predicate ← target.predicate t item
  return (field, predicate)

/-- The assignment of the time range. -/
def timeAssignment (target : DocumentTarget) (plan : QueryPlan) :
    Except Failure (List (String × Value)) :=
  match plan.timeRange, plan.timeField with
  | some range, some reference => do
    let field ← target.field reference
    let start := range.start.map fun m => ("$gte", Value.str (t.isoformat m))
    let stop := range.stop.map fun m => ("$lte", Value.str (t.isoformat m))
    return [(field, .dict (start.toList ++ stop.toList))]
  | _, _ => .ok []

end DocumentTarget

/-- `filters[field] = predicate` for each filter, then `_add_document_time_filter`. -/
def documentFilter (target : DocumentTarget) (plan : QueryPlan) : Except Failure (Dict Value) := do
  let filters ← plan.filters.foldlM (fun (filters : Dict Value) item => do
    let (field, predicate) ← target.assignment t item
    return filters.set field predicate) []
  let times ← target.timeAssignment t plan
  return filters.update times

/-- `_mongo` -/
def mongo (plan : QueryPlan) (dataObject : DataObjectProfile) :
    Except Failure (List (String × Value)) := do
  let filters ← documentFilter t (.mongodb dataObject) plan
  let fields ← plan.outputFields.mapM (nativeField dataObject)
  let projection := Dict.update [] (fields.map fun field => (field, Value.int 1))
  return [("collection", .str dataObject.name), ("filter", .dict filters),
    ("projection", if projection = [] then .null else .dict projection), ("limit", .int plan.limit)]

/-- `_couchdb` -/
def couchdb (plan : QueryPlan) : Except Failure (List (String × Value)) := do
  let selector ← documentFilter t .couchdb plan
  let payload := [("selector", Value.dict selector), ("limit", .int plan.limit)]
  if plan.outputFields = [] then return payload
  else
    return payload ++ [("fields", .list (plan.outputFields.map fun item => .str (pathOf item)))]

end QueryGenerator

end Querying
