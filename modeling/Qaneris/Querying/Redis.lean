import Qaneris.Querying.Sql

/-!
# Redis commands

`GroundedRedisCompiler`: governed virtual fields, read by a small set of commands.
-/

namespace Querying

open Contracts

namespace RedisCompiler

variable (t : Texts) (plan : GroundedQueryPlan)

/-- `VIRTUAL_FIELDS` -/
def virtualFields : List String := ["key", "value", "type", "ttl", "exists", "cardinality"]

/-- `_VALUE_COMMAND` -/
def valueCommand : String → Option String
  | "string" => some "GET"
  | "hash" => some "HGETALL"
  | "list" => some "LRANGE"
  | "set" => some "SMEMBERS"
  | "zset" => some "ZRANGE"
  | _ => none

/-- A text that can be a key. -/
def isKey : Value → Bool
  | .str key => key ≠ ""
  | _ => false

/-- One filter: `key_values` after it. -/
def addKeys (keys : Option (List Value)) (item : PlanFilter) :
    Except Failure (Option (List Value)) :=
  if item.field.fieldPath ≠ "key" ∨ keys.isSome then
    .error (.planning "Redis supports one key filter only")
  else
    let values := match item.operator, item.value with
      | .equals, .str key => some [.str key]
      | .in_, value => value.items?
      | _, _ => none
    match values with
    | none => .error (.planning "Redis key filter must be equals or IN")
    | some values =>
      if values = [] ∨ plan.limit < values.length ∨ values.any (fun key => ¬isKey key) then
        .error (.planning "Redis key filter is invalid or exceeds the limit")
      else .ok (some values)

/-- The names of the selected fields, each once. -/
def fields : List String := (plan.selectedFields.map GroundedFieldRef.fieldPath).eraseDups

def command (name : String) (args : List Value) : List (String × Value) :=
  [("command", .str name), ("args", .list args)]

def scan (kind : String) : List (String × Value) :=
  command "SCAN" [] ++ [("kind", .str kind), ("limit", .int plan.limit)]

/-- The value under the keys. -/
def readValue (kind operation : String) (keys : List Value) :
    Except Failure (List (String × Value)) :=
  if kind = "string" ∧ 1 < keys.length then .ok (command "MGET" keys)
  else
    match keys with
    | [key] =>
      if operation = "LRANGE" ∨ operation = "ZRANGE" then
        .ok (command operation [key, .int 0, .int (plan.limit - 1)])
      else .ok (command operation [key])
    | _ => .error (.planning "Redis collection values require one exact key")

/-- A fact about the key. -/
def readMetadata (kind selected : String) (keys : List Value) :
    Except Failure (List (String × Value)) :=
  if keys.length ≠ 1 then .error (.planning "Redis metadata reads require one exact key")
  else
    match selected with
    | "cardinality" =>
      if kind = "set" then .ok (command "SCARD" keys)
      else if kind = "zset" then .ok (command "ZCARD" keys)
      else .error (.planning "Redis cardinality needs a set or zset")
    | "exists" => .ok (command "EXISTS" keys)
    | "type" => .ok (command "TYPE" keys)
    | "ttl" => .ok (command "TTL" keys)
    | _ => .error (.planning "Unsupported Redis virtual field")

def readKeys (kind operation : String) (keys : List Value) :
    Except Failure (List (String × Value)) :=
  match fields plan with
  | [selected] =>
    if selected = "key" then
      .error (.planning "Redis exact-key query must select a read capability")
    else if selected = "value" then readValue plan kind operation keys
    else readMetadata kind selected keys
  | _ => .error (.planning "Redis exact-key query selects one virtual field")

/-- The command with its arguments hidden. -/
def safeDisplay (command : List (String × Value)) : String :=
  let get (key : String) := (command.lookup key).getD .null
  t.dumps (.dict ([("command", get "command"),
      ("args", .list (((get "args").items?.getD []).map fun _ => .str "<param>"))] ++
    if get "command" = .str "SCAN" then [("kind", get "kind"), ("limit", get "limit")] else []))

def commandOf (kind operation : String) (keys : Option (List Value)) :
    Except Failure (List (String × Value)) :=
  match keys with
  | none =>
    if fields plan ≠ ["key"] then .error (.planning "Redis key listing may select only key")
    else .ok (scan plan kind)
  | some keys => readKeys plan kind operation keys

/-- The kind of the only object, with the command that reads a value of this kind. -/
def kindOf : Option (String × String) := do
  let locator ← plan.locator (plan.dataObjectIds.headD "")
  let kind ← locator.objectKind
  let operation ← valueCommand kind
  return (kind, operation)

/-- `compile` -/
def compile : Except Failure NativeQuery :=
  if plan.dataObjectIds.length ≠ 1 ∨ plan.joins ≠ [] ∨ plan.aggregates ≠ [] ∨ plan.groupBy ≠ [] then
    .error (.planning "Redis does not support joins or SQL aggregation")
  else if plan.timeRange.isSome ∨ plan.timeField.isSome ∨ plan.sorts ≠ [] then
    .error (.planning "Redis does not support time ranges or arbitrary sorting")
  else
    match kindOf plan with
    | none => .error (.planning "Redis object kind is unsupported")
    | some (kind, operation) =>
      if fields plan = [] ∨ (fields plan).any (fun field => field ∉ virtualFields) then
        .error (.planning "Redis selected field is not a governed virtual field")
      else do
        let keys ← plan.filters.foldlM (addKeys plan) none
        let command ← commandOf plan kind operation keys
        return {
          datasourceId := plan.datasourceId, planId := plan.planId, scanVersion := plan.scanVersion
          queryLanguage := .redisJson, command := .document command
          displayCommand := safeDisplay t command }

end RedisCompiler

end Querying
