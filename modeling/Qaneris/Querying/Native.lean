import Qaneris.Querying.Mongo
import Qaneris.Querying.ReadOnly
import Qaneris.Querying.Redis
import Qaneris.Scan.Contracts

/-!
# Checking a native query

`GroundedNativeQueryValidator`: the query belongs to its plan, it only reads, and it is the one that the
compiler made.
-/

namespace Querying

open Contracts

/-! ## Placeholders -/

/-- `text.count("%s")` -/
def countPercents : List Char → Nat
  | '%' :: 's' :: text => countPercents text + 1
  | _ :: text => countPercents text
  | [] => 0

/-- The driver is guessed from the text: it is not SQLite when there is a `%s`. -/
def guessedPercents (sql : String) : Bool := countPercents (stripForSafety sql.toList) ≠ 0

/-- `_placeholder_count`, with `percents` for a driver that is not SQLite. -/
def placeholderCount (sql : String) (percents : Bool) : Except Failure Nat :=
  let stripped := stripForSafety sql.toList
  if percents then
    if stripped.count '?' ≠ 0 then .error (.safety "SQL placeholder dialect mismatch")
    else .ok (countPercents stripped)
  else if countPercents stripped ≠ 0 then .error (.safety "SQL placeholder dialect mismatch")
  else .ok (stripped.count '?')

/-! ## Provenance -/

namespace NativeValidator

variable (t : Texts)

def mismatch (field expected got : String) : Failure :=
  .safety ("Native query provenance mismatch (" ++ field ++ ") expected=" ++ expected ++ " got=" ++ got)

def intValue : Option Int → Value
  | some n => .int n
  | none => .null

/-- `_check_provenance` -/
def checkProvenance (query expected : NativeQuery) : Except Failure Unit :=
  if query.datasourceId ≠ expected.datasourceId then
    .error (mismatch "datasource_id" (t.repr (.str expected.datasourceId))
      (t.repr (.str query.datasourceId)))
  else if query.planId ≠ expected.planId then
    .error (mismatch "plan_id" (t.repr (.str expected.planId)) (t.repr (.str query.planId)))
  else if query.scanVersion ≠ expected.scanVersion then
    .error (mismatch "scan_version" (t.repr (intValue expected.scanVersion))
      (t.repr (intValue query.scanVersion)))
  else if query.queryLanguage ≠ expected.queryLanguage then
    .error (mismatch "query_language" (t.reprLanguage expected.queryLanguage)
      (t.reprLanguage query.queryLanguage))
  else if query.command ≠ expected.command then
    .error (.safety ("Native query provenance mismatch (command); " ++
      "the compiled native query must come from the validated plan"))
  else if query.parameters ≠ expected.parameters then
    .error (.safety ("Native query provenance mismatch (parameters); " ++
      "parameter ordering must match the compiled native query"))
  else .ok ()

/-! ## Languages -/

/-- The query, and the expected one, is SQL. -/
def validateSql (query : NativeQuery) (expected : Option NativeQuery) : Except Failure Unit :=
  match query.command with
  | .document _ => .error (.safety "SQL command must be a string")
  | .text command => do
    validateReadOnlyQuery command
    let percents := match expected with
      | some ⟨_, _, _, _, .text expectedCommand, _, _⟩ => guessedPercents expectedCommand
      | _ => guessedPercents command
    let count ← placeholderCount command percents
    if count ≠ query.parameters.length then
      .error (.safety "SQL placeholder count does not match parameter count")
    else .ok ()

/-- `_MONGO_STAGES` -/
def mongoStages : List String := ["$match", "$group", "$project", "$sort", "$limit", "$count"]

/-- `_MONGO_FORBIDDEN` -/
def mongoForbidden : List String :=
  ["$lookup", "$out", "$merge", "$where", "$function", "$accumulator"]

mutual

/-- `walk`: some key of the value, or of a value in it, is forbidden. -/
def forbidden : Value → Bool
  | .dict fields => forbiddenFields fields
  | .list items => forbiddenItems items
  | _ => false

def forbiddenItems : List Value → Bool
  | [] => false
  | item :: items => forbidden item || forbiddenItems items

def forbiddenFields : List (String × Value) → Bool
  | [] => false
  | (key, child) :: fields => key ∈ mongoForbidden || forbidden child || forbiddenFields fields

end

/-- `isinstance(value, int)`: its number. -/
def intOf : Value → Option Int
  | .int n => some n
  | .bool b => some (if b then 1 else 0)
  | _ => none

/-- A number between one and the limit of the plan. -/
def bounded (plan : GroundedQueryPlan) (value : Value) : Bool :=
  (intOf value).any fun n => 1 ≤ n ∧ n ≤ plan.limit

/-- `isinstance(stage, dict) and len(stage) == 1 and next(iter(stage)) in _MONGO_STAGES` -/
def isStage : Value → Bool
  | .dict [(name, _)] => name ∈ mongoStages
  | _ => false

def checkPipeline (plan : GroundedQueryPlan) (pipeline : Value) : Except Failure Unit :=
  match pipeline with
  | .list (stage :: stages) =>
    if (stage :: stages).any fun stage => ¬isStage stage then
      .error (.safety "MongoDB stage is not allowed")
    else if (stage :: stages).getLast? ≠ some (.dict [("$limit", .int plan.limit)]) then
      .error (.safety "MongoDB aggregate limit is invalid")
    else .ok ()
  | _ => .error (.safety "MongoDB pipeline is invalid")

/-- The bound of a command. -/
def checkBound (plan : GroundedQueryPlan) (command : List (String × Value)) : Except Failure Unit :=
  if command.lookup "operation" = some (.str "find") then
    if bounded plan ((command.lookup "limit").getD .null) then .ok ()
    else .error (.safety "MongoDB find limit is invalid")
  else checkPipeline plan ((command.lookup "pipeline").getD .null)

/-- `_validate_mongo` -/
def validateMongo (query : NativeQuery) (plan : GroundedQueryPlan) : Except Failure Unit :=
  match query.command, query.parameters with
  | .document command, [] =>
    if command.lookup "operation" ∉ [some (.str "find"), some (.str "aggregate")] then
      .error (.safety "MongoDB operation is not allowed")
    else
      let collection := (plan.locator (plan.dataObjectIds.headD "")).map fun locator =>
        (locator.name.map Value.str).getD .null
      if plan.dataObjectIds.length ≠ 1 ∨ plan.joins ≠ [] ∨
          collection ≠ some ((command.lookup "collection").getD .null) then
        .error (.safety "MongoDB collection is outside the plan")
      else do
        checkBound plan command
        if forbidden (.dict command) then .error (.safety "MongoDB operator is forbidden")
        else do
          let expected ← MongoCompiler.compile t plan
          checkProvenance t query expected
  | _, _ => .error (.safety "MongoDB requires a typed command without parameters")

/-- `_REDIS_READS` -/
def redisReads : List String :=
  ["GET", "MGET", "HGETALL", "LRANGE", "SMEMBERS", "ZRANGE", "SCAN", "EXISTS", "TYPE", "TTL", "SCARD",
    "ZCARD"]

/-- `value == 0` -/
def isZero : Value → Bool
  | .int n => n = 0
  | .bool b => b = false
  | .real r => r = 0
  | _ => false

def checkRedis (plan : GroundedQueryPlan) (operation : String) (args : List Value) (limit : Value) :
    Except Failure Unit :=
  if operation = "SCAN" then
    if args = [] ∧ bounded plan limit then .ok () else .error (.safety "Redis SCAN is unbounded")
  else if operation = "LRANGE" ∨ operation = "ZRANGE" then
    match args with
    | [_, start, stop] =>
      if isZero start ∧ (intOf stop).any fun n => n < plan.limit then .ok ()
      else .error (.safety "Redis range is unbounded")
    | _ => .error (.safety "Redis range is unbounded")
  else if args = [] then .error (.safety "Redis exact-key command needs a key")
  else .ok ()

/-- `_validate_redis` -/
def validateRedis (query : NativeQuery) (plan : GroundedQueryPlan) : Except Failure Unit :=
  match query.command, query.parameters with
  | .document command, [] =>
    match command.lookup "command", command.lookup "args" with
    | some (.str operation), some (.list args) =>
      if operation ∉ redisReads then .error (.safety "Redis command is not allowed")
      else do
        checkRedis plan operation args ((command.lookup "limit").getD .null)
        let expected ← RedisCompiler.compile t plan
        checkProvenance t query expected
    | _, _ => .error (.safety "Redis command is not allowed")
  | _, _ => .error (.safety "Redis requires a typed command without parameters")

/-! ## The validator -/

def validateLanguage (query : NativeQuery) (plan : GroundedQueryPlan)
    (expected : Option NativeQuery) : Except Failure Unit :=
  match query.queryLanguage with
  | .sql => validateSql query expected
  | .mongodbJson => validateMongo t query plan
  | .redisJson => validateRedis t query plan
  | _ => .error (.safety "Formal grounded execution does not support this language")

/-- `validate` -/
def validate (query : NativeQuery) (plan : GroundedQueryPlan) (expected : Option NativeQuery) :
    Except Failure Unit :=
  if query.datasourceId ≠ plan.datasourceId ∨ query.planId ≠ plan.planId then
    .error (.safety "Native query does not belong to the validated plan")
  else if query.scanVersion ≠ plan.scanVersion then
    .error (.safety "Native query scan version does not match its plan")
  else if expected.any fun e => query.queryLanguage ≠ e.queryLanguage then
    .error (.safety "Native query language does not match the compiler")
  else do
    validateLanguage t query plan expected
    match expected with
    | none => .ok ()
    | some expected => do
      checkProvenance t query expected
      if query.displayCommand ≠ expected.displayCommand then
        .error (.safety "Native query public display differs from compiler output")
      else .ok ()

end NativeValidator

/-! ## The compiler of a datasource -/

/-- The drivers that formal execution is enabled for. -/
inductive NativeDriver where
  | sql (d : Driver)
  | mongodb
  | redis
  deriving DecidableEq, Repr

def nativeDriver (datasource : Scan.Datasource) : Option NativeDriver :=
  match datasource.kind, datasource.driver with
  | .relational, some "sqlite" => some (.sql .sqlite)
  | .relational, some "postgresql" => some (.sql .postgresql)
  | .relational, some "mysql" => some (.sql .mysql)
  | .document, some "mongodb" => some .mongodb
  | .keyValue, some "redis" => some .redis
  | _, _ => none

/-- `GroundedNativeCompiler.compile` -/
def compileNative (t : Texts) (plan : GroundedQueryPlan) (datasource : Scan.Datasource) :
    Except Failure NativeQuery :=
  if datasource.id ≠ plan.datasourceId ∨ datasource.workspaceId ≠ plan.workspaceId then
    .error (.planning "Datasource does not match the grounded plan")
  else
    match nativeDriver datasource with
    | some (.sql d) => SQLCompiler.compile t d plan
    | some .mongodb => MongoCompiler.compile t plan
    | some .redis => RedisCompiler.compile t plan
    | none => .error (.planning "formal grounded execution is not enabled for this driver")

end Querying
