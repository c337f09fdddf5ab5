import Qaneris.Infra.Unicode
import Qaneris.Infra.Literals
import Qaneris.Querying.Documents

/-!
# Generated filter clauses

The text that `QueryGenerator` writes after ` WHERE ` for the SQL drivers and for Cypher, and how these
languages read it.

| target | a quote is doubled | backslash |
| --- | --- | --- |
| SQLite, PostgreSQL, TimescaleDB, Oracle, SQL Server, Cassandra | yes | no |
| MySQL, ClickHouse, Snowflake, BigQuery, Cypher | yes | yes |
-/

namespace Querying

open Contracts Infra

/-- The drivers that `_sql` is used for. -/
inductive SqlDriver where
  | sqlite
  | postgresql
  | mysql
  | oracle
  | sqlserver
  | timescaledb
  | clickhouse
  | snowflake
  | bigquery
  | cassandra
  deriving DecidableEq, Repr

namespace SqlDriver

/-- `quote` -/
def quote : SqlDriver → Char
  | mysql | bigquery => '`'
  | sqlserver => '['
  | _ => '"'

/-- `use_aliases` -/
def useAliases (driver : SqlDriver) : Bool := driver ≠ cassandra

end SqlDriver

namespace QueryGenerator

variable (t : Texts)

/-! ## Writing -/

/-- The quote that ends an identifier. -/
def closing (quote : Char) : Char := if quote = '[' then ']' else quote

/-- `_sql_identifier` -/
def sqlIdentifier (quote : Char) (value : List Char) : List Char :=
  ['.'].intercalate ((value.splitOn '.').map fun part =>
    quote :: (double (closing quote) part ++ [closing quote]))

/-- `_literal` -/
def literal (value : Value) : List Char :=
  match value with
  | .null => "NULL".toList
  | .bool b => if b then "TRUE".toList else "FALSE".toList
  | .int _ | .real _ => (t.str value).toList
  | _ => Infra.quote '\'' (t.str value).toList

/-- `aliases` in `_sql` -/
def aliases (driver : SqlDriver) (objects : List DataObjectProfile) : Dict String :=
  Dict.update [] (objects.zipIdx.map fun item =>
    (item.1.id, if driver.useAliases then "t" ++ toString item.2 else ""))

/-- `_sql_field` -/
def sqlField (reference : String) (aliases : Dict String) (quote : Char) :
    Except Failure (List Char) :=
  match splitReference reference.toList with
  | some (objectId, field) =>
    match aliases.get? (String.ofList objectId) with
    | some alias_ =>
      let qualifier := if alias_ = "" then [] else alias_.toList ++ ['.']
      .ok (qualifier ++ sqlIdentifier quote field)
    | none => .error (.planning ("字段引用不属于查询计划: " ++ reference))
  | none => .error (.planning ("字段引用不属于查询计划: " ++ reference))

/-- `_sql_operator` -/
def sqlOperator : FilterOperator → List Char
  | .equals => "=".toList
  | .notEquals => "!=".toList
  | .greaterThan => ">".toList
  | .greaterOrEqual => ">=".toList
  | .lessThan => "<".toList
  | .lessOrEqual => "<=".toList
  | .in_ => "IN".toList
  | .between => "BETWEEN".toList
  | .contains => "LIKE".toList

/-- `'%' + str(value) + '%'` -/
def likePattern (value : Value) : Value := .str ("%" ++ t.str value ++ "%")

/-- `_sql_predicate` -/
def sqlPredicate (item : FilterSpec) (aliases : Dict String) (quote : Char) :
    Except Failure (List Char) := do
  let expression ← sqlField item.field aliases quote
  match item.operator with
  | .in_ =>
    match item.value.items? with
    | some (value :: values) =>
      return expression ++ " IN (".toList ++
        ", ".toList.intercalate ((value :: values).map (literal t)) ++ ")".toList
    | _ => .error (.planning "IN 过滤需要非空值列表")
  | .between =>
    match item.value.items? with
    | some [low, high] =>
      return expression ++ " BETWEEN ".toList ++ literal t low ++ " AND ".toList ++ literal t high
    | _ => .error (.planning "BETWEEN 过滤需要两个边界值")
  | .contains => return expression ++ " LIKE ".toList ++ literal t (likePattern t item.value)
  | operator => return expression ++ " ".toList ++ sqlOperator operator ++ " ".toList ++ literal t item.value

/-- `_sql_time_predicates` -/
def sqlTimePredicates (plan : QueryPlan) (aliases : Dict String) (quote : Char) :
    Except Failure (List (List Char)) :=
  match plan.timeRange, plan.timeField with
  | some range, some reference => do
    let field ← sqlField reference aliases quote
    let start := range.start.map fun m => field ++ " >= ".toList ++ literal t (.moment m)
    let stop := range.stop.map fun m => field ++ " <= ".toList ++ literal t (.moment m)
    return start.toList ++ stop.toList
  | _, _ => .ok []

/-- `operators` in `_cypher` -/
def cypherOperator : FilterOperator → Option (List Char)
  | .equals => some "=".toList
  | .notEquals => some "<>".toList
  | .greaterThan => some ">".toList
  | .greaterOrEqual => some ">=".toList
  | .lessThan => some "<".toList
  | .lessOrEqual => some "<=".toList
  | .contains => some "CONTAINS".toList
  | .in_ | .between => none

/-- A clause of `_cypher`. -/
def cypherPredicate (item : FilterSpec) (dataObject : DataObjectProfile) :
    Except Failure (List Char) :=
  match cypherOperator item.operator with
  | none => .error (.planning "Cypher 第一版不支持该过滤操作")
  | some operator => do
    let field ← nativeField dataObject item.field
    return "n.`".toList ++ double '`' field.toList ++ "` ".toList ++ operator ++ " ".toList ++
      literal t item.value

/-- The two targets whose filters are clauses. -/
inductive ClauseTarget where
  | sql (driver : SqlDriver) (objects : List DataObjectProfile)
  | cypher (dataObject : DataObjectProfile)
  deriving DecidableEq, Repr

namespace ClauseTarget

def predicate : ClauseTarget → FilterSpec → Except Failure (List Char)
  | sql driver objects, item => sqlPredicate t item (aliases driver objects) driver.quote
  | cypher dataObject, item => cypherPredicate t item dataObject

def timePredicates : ClauseTarget → QueryPlan → Except Failure (List (List Char))
  | sql driver objects, plan => sqlTimePredicates t plan (aliases driver objects) driver.quote
  | cypher _, _ => .ok []

end ClauseTarget

/-- What `_sql` and `_cypher` write of the filters, and `_sql` of the time range. -/
def whereClause (target : ClauseTarget) (plan : QueryPlan) : Except Failure (List Char) := do
  let filters ← plan.filters.mapM (target.predicate t)
  let times ← target.timePredicates t plan
  let predicates := filters ++ times
  if predicates = [] then return []
  else return " WHERE ".toList ++ " AND ".toList.intercalate predicates

/-! ## Reading -/

/-- `\\uXXXX` and `\\UXXXXXXXX` -/
def unicodeEscapes : List Coded := [⟨['u'], 16, 4⟩, ⟨['U'], 16, 8⟩]

def mysqlEscapes : Escapes '\'' where
  kept := ['%', '_']
  single := [('0', '\x00'), ('b', '\x08'), ('n', '\n'), ('r', '\r'), ('t', '\t'), ('Z', '\x1a')]
  others := true

def clickhouseEscapes : Escapes '\'' where
  single := [('0', '\x00'), ('a', '\x07'), ('b', '\x08'), ('f', '\x0c'), ('n', '\n'), ('r', '\r'),
    ('t', '\t'), ('v', '\x0b')]
  coded := [⟨['x'], 16, 2⟩]
  others := true

def snowflakeEscapes : Escapes '\'' where
  single := [('b', '\x08'), ('f', '\x0c'), ('n', '\n'), ('r', '\r'), ('t', '\t')]
  coded := [⟨[], 8, 3⟩, ⟨['x'], 16, 2⟩, ⟨['u'], 16, 4⟩]
  others := true

def bigqueryEscapes : Escapes '\'' where
  single := [('a', '\x07'), ('b', '\x08'), ('f', '\x0c'), ('n', '\n'), ('r', '\r'), ('t', '\t'),
    ('v', '\x0b'), ('\\', '\\'), ('?', '?'), ('"', '"'), ('\'', '\''), ('`', '`')]
  coded := [⟨[], 8, 3⟩, ⟨['x'], 16, 2⟩, ⟨['X'], 16, 2⟩] ++ unicodeEscapes
  others := false

def cypherEscapes : Escapes '\'' where
  single := [('b', '\x08'), ('f', '\x0c'), ('n', '\n'), ('r', '\r'), ('t', '\t'), ('\\', '\\'),
    ('"', '"'), ('\'', '\'')]
  coded := unicodeEscapes
  others := false

/-- What a backslash takes with it in a string of the driver. -/
def driverEscapes : SqlDriver → Option (Escapes '\'')
  | .mysql => some mysqlEscapes
  | .clickhouse => some clickhouseEscapes
  | .snowflake => some snowflakeEscapes
  | .bigquery => some bigqueryEscapes
  | .sqlite | .postgresql | .oracle | .sqlserver | .timescaledb | .cassandra => none

namespace ClauseTarget

/-- The string literals of the target. -/
def strings : ClauseTarget → Quoting '\''
  | sql driver _ => { escapes := driverEscapes driver }
  | cypher _ => { escapes := some cypherEscapes }

/-- How the target tells texts, names and words apart. -/
def lexis : ClauseTarget → Lexis
  | sql driver objects =>
    { quote := '\''
      texts := (sql driver objects).strings
      openName := driver.quote
      closeName := closing driver.quote
      marks := ['(', ')', ',']
      openName_quote := by cases driver <;> decide
      between := by cases driver <;> simp [SqlDriver.quote, closing] }
  | cypher dataObject =>
    { quote := '\''
      texts := (cypher dataObject).strings
      openName := '`'
      closeName := '`'
      marks := ['(', ')', ','] }

end ClauseTarget

/-- One comparison of a clause. -/
structure Comparison where
  field : List Lexeme
  operator : List Char
  operands : List Lexeme
  deriving DecidableEq, Repr

attribute [local instance] Infra.lawfulBEq_chars

/-- The words that stand between a field and what it is compared with. -/
def isComparator : Lexeme → Bool
  | .word chars => chars ∈ ["=".toList, "!=".toList, "<>".toList, ">".toList, ">=".toList,
      "<".toList, "<=".toList, "LIKE".toList, "CONTAINS".toList, "IN".toList, "BETWEEN".toList]
  | _ => false

def isOperand : Lexeme → Bool
  | .text _ | .word _ => true
  | _ => false

/-- Operands up to the parenthesis that closes. -/
def readOperands : List Lexeme → Option (List Lexeme × List Lexeme)
  | value :: .mark ',' :: items =>
    if isOperand value then (readOperands items).map fun r => (value :: r.1, r.2) else none
  | value :: .mark ')' :: items => if isOperand value then some ([value], items) else none
  | _ => none

/-- What stands after the operator. -/
def readRight (operator : List Char) (items : List Lexeme) : Option (List Lexeme × List Lexeme) :=
  if operator = "IN".toList then
    match items with
    | .mark '(' :: items => readOperands items
    | _ => none
  else if operator = "BETWEEN".toList then
    match items with
    | low :: between :: high :: items =>
      if isOperand low ∧ between = .word "AND".toList ∧ isOperand high then some ([low, high], items)
      else none
    | _ => none
  else
    match items with
    | value :: items => if isOperand value then some ([value], items) else none
    | [] => none

def readComparison (items : List Lexeme) : Option (Comparison × List Lexeme) :=
  match items.dropWhile fun item => !isComparator item with
  | .word operator :: right => do
    let (operands, rest) ← readRight operator right
    return (⟨items.takeWhile fun item => !isComparator item, operator, operands⟩, rest)
  | _ => none

/-- The comparisons between `AND`s. -/
def readComparisons : Nat → List Lexeme → Option (List Comparison)
  | 0, _ => none
  | n + 1, items => do
    let (comparison, rest) ← readComparison items
    if rest = [] then return [comparison]
    else if rest.head? = some (.word "AND".toList) then
      (readComparisons n rest.tail).map (comparison :: ·)
    else none

/-- The comparisons that the target reads in a clause. -/
def ClauseTarget.readWhere (target : ClauseTarget) (clause : List Char) :
    Option (List Comparison) := do
  let items ← target.lexis.lex clause
  if items = [] then return []
  else if items.head? = some (.word "WHERE".toList) then readComparisons items.length items.tail
  else none

/-! ## What the clause is meant to say -/

/-- The values that a filter is compared with. -/
def ClauseTarget.operands (target : ClauseTarget) (item : FilterSpec) : List Value :=
  match target, item.operator with
  | .sql .., .in_ | .sql .., .between => item.value.items?.getD []
  | .sql .., .contains => [likePattern t item.value]
  | _, _ => [item.value]

/-- The value as one text or one word. -/
def denoted (value : Value) : Lexeme :=
  match value with
  | .null => .word "NULL".toList
  | .bool b => .word (if b then "TRUE".toList else "FALSE".toList)
  | .int _ | .real _ => .word (t.str value).toList
  | _ => .text (t.str value).toList

/-- The names that name a field, with what stands between them. -/
def namesOf (field : List Char) : List Lexeme :=
  ((field.splitOn '.').map Lexeme.name).intersperse (.word ['.'])

def ClauseTarget.fieldOf : ClauseTarget → String → List Lexeme
  | .sql driver objects, reference =>
    match splitReference reference.toList with
    | some (objectId, field) =>
      match (aliases driver objects).get? (String.ofList objectId) with
      | some alias_ =>
        (if alias_ = "" then [] else [.word (alias_.toList ++ ['.'])]) ++ namesOf field
      | none => namesOf field
    | none => []
  | .cypher _, reference => [.word "n.".toList, .name (pathOf reference).toList]

def ClauseTarget.operatorOf : ClauseTarget → FilterOperator → List Char
  | .sql .., operator => sqlOperator operator
  | .cypher _, operator => (cypherOperator operator).getD []

/-- The comparison a filter asks for. -/
def ClauseTarget.comparison (target : ClauseTarget) (item : FilterSpec) : Comparison where
  field := target.fieldOf item.field
  operator := target.operatorOf item.operator
  operands := (target.operands t item).map (denoted t)

/-- The bounds of the time range that are compared with. -/
def ClauseTarget.timeBounds : ClauseTarget → QueryPlan → List (List Char × Value)
  | .sql .., plan =>
    match plan.timeRange, plan.timeField with
    | some range, some _ =>
      (range.start.map fun m => (">=".toList, Value.moment m)).toList ++
        (range.stop.map fun m => ("<=".toList, Value.moment m)).toList
    | _, _ => []
  | .cypher _, _ => []

def ClauseTarget.timeComparisons (target : ClauseTarget) (plan : QueryPlan) : List Comparison :=
  (target.timeBounds plan).map fun bound =>
    ⟨target.fieldOf (plan.timeField.getD ""), bound.1, [denoted t bound.2]⟩

/-- The values that the clause is written with. -/
def ClauseTarget.written (target : ClauseTarget) (plan : QueryPlan) : List Value :=
  plan.filters.flatMap (target.operands t) ++ (target.timeBounds plan).map Prod.snd

end QueryGenerator

end Querying
