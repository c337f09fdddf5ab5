import Qaneris.Infra.Unicode
import Qaneris.Infra.Batches
import Qaneris.Infra.Literals
import Qaneris.Ingestion.Validator

/-!
# Materialization in SQLite

The tables of a validated workbook are written to a new database, which takes the place of `data.sqlite3`
when it is complete. `sqlite3` reads the texts of the statements as it is documented to; a fault of the disk
is left out.
-/

namespace Ingestion

namespace Materializer

open Infra (Batched Lexis Lexeme quote)
open Validator (ColumnPlan ExcelIngestionError Raised RowStream Texts iterTableRows)

structure TableWrite where
  tableName : String
  columns : List ColumnPlan
  rowCount : Nat
  rows : RowStream
  deriving DecidableEq, Repr

/-! ## Statements -/

def quoteIdentifier (name : String) : Except Raised (List Char) :=
  if name = "" then .error (.other "ValueError")
  else if '\x00' ∈ name.toList then .error (.other "ValueError")
  else .ok (quote '"' name.toList)

/-- `", ".join(…)` -/
def joined (items : List (List Char)) : List Char := [',', ' '].intercalate items

def createTableSql (table : TableWrite) : Except Raised (List Char) := do
  let columns ← table.columns.mapM fun column => do
    return (← quoteIdentifier column.columnName) ++ ' ' :: column.inferredType.value.toList
  let name ← quoteIdentifier table.tableName
  return "CREATE TABLE ".toList ++ (name ++ ' ' :: '(' :: (joined columns ++ [')']))

def insertSql (table : TableWrite) : Except Raised (List Char) := do
  let names ← table.columns.mapM fun column => quoteIdentifier column.columnName
  let name ← quoteIdentifier table.tableName
  let placeholders := table.columns.map fun _ => ['?']
  return "INSERT INTO ".toList ++
    (name ++ ' ' :: '(' :: (joined names ++ ')' :: (" VALUES (".toList ++ (joined placeholders ++ [')']))))

/-! ## SQLite -/

/-- How SQLite tells names, words and marks apart. -/
def sqliteLexis : Lexis where
  quote := '\''
  texts := {}
  openName := '"'
  closeName := '"'
  marks := ['(', ')', ',', '?']

inductive Statement where
  | createTable (name : String) (columns : List (String × String))
  | insert (name : String) (columns : List String) (parameters : Nat)
  deriving DecidableEq, Repr

/-- `"name" TYPE, …)` -/
def readDefinitions : List Lexeme → Option (List (String × String))
  | [.name c, .word type, .mark ')'] => some [(String.ofList c, String.ofList type)]
  | .name c :: .word type :: .mark ',' :: rest =>
    (readDefinitions rest).map fun columns => (String.ofList c, String.ofList type) :: columns
  | _ => none

/-- `"name", …)`, and what is after it. -/
def readNames : List Lexeme → Option (List String × List Lexeme)
  | .name c :: .mark ')' :: rest => some ([String.ofList c], rest)
  | .name c :: .mark ',' :: rest => (readNames rest).map fun r => (String.ofList c :: r.1, r.2)
  | _ => none

/-- `?, …)` -/
def readPlaceholders : List Lexeme → Option Nat
  | [.mark '?', .mark ')'] => some 1
  | .mark '?' :: .mark ',' :: rest => (readPlaceholders rest).map (· + 1)
  | _ => none

/-- `VALUES (?, …)` -/
def readValues : List Lexeme → Option Nat
  | .word ['V', 'A', 'L', 'U', 'E', 'S'] :: .mark '(' :: rest => readPlaceholders rest
  | _ => none

/-- The statement of these words, names and marks. -/
def parseStatement : List Lexeme → Option Statement
  | .word ['C', 'R', 'E', 'A', 'T', 'E'] :: .word ['T', 'A', 'B', 'L', 'E'] :: .name name :: .mark '(' :: rest =>
    (readDefinitions rest).map fun columns => .createTable (String.ofList name) columns
  | .word ['I', 'N', 'S', 'E', 'R', 'T'] :: .word ['I', 'N', 'T', 'O'] :: .name name :: .mark '(' :: rest =>
    (readNames rest).bind fun r => (readValues r.2).map fun n => .insert (String.ofList name) r.1 n
  | _ => none

def readStatement (text : List Char) : Option Statement := (sqliteLexis.lex text).bind parseStatement

structure SqlTable where
  name : String
  columns : List (String × String)
  rows : List (List SqlValue) := []
  deriving DecidableEq, Repr

abbrev Database := List SqlTable

/-- SQLite, as far as it depends on how it is built and what it holds of a value. -/
structure Sqlite where
  maxColumns : Nat
  /-- What a column of this declared type holds of a value, by the affinity of the type. -/
  stored : String → SqlValue → SqlValue
  stored_null : ∀ type, stored type .null = .null
  stored_integer : ∀ type ∈ ["BOOLEAN", "INTEGER"], ∀ n, stored type (.integer n) = .integer n
  stored_real : ∀ x, stored "REAL" (.real x) = .real x
  stored_text : ∀ s, stored "TEXT" (.text s) = .text s
  /-- A text that begins with a date is no number. -/
  stored_date : ∀ type ∈ ["DATE", "DATETIME"], ∀ s, (Infra.readDay s.toList).isSome →
    stored type (.text s) = .text s

/-- A name without the case of its ASCII letters, by which SQLite tells names apart. -/
def folded (name : String) : List Char := name.toList.map Char.toLower

/-- `sqlite_…` is for internal use. -/
def reserved (name : String) : Bool := "sqlite_".toList.isPrefixOf (folded name)

/-- A value that can be bound to a parameter. -/
def bindable : SqlValue → Bool
  | .integer n => -2 ^ 63 ≤ n && n < 2 ^ 63
  | _ => true

section Database

variable (sqlite : Sqlite)

attribute [local instance] Infra.lawfulBEq_chars

def Database.create (db : Database) (name : String) (columns : List (String × String)) : Except Raised Database :=
  if reserved name ∨ folded name ∈ db.map (fun table => folded table.name) ∨
      ¬ (columns.map fun column => folded column.1).Nodup ∨ sqlite.maxColumns < columns.length then
    .error (.other "OperationalError")
  else .ok (db ++ [{ name := name, columns := columns }])

/-- The new row of a table, which these columns get these values of. -/
def rowOf (table : SqlTable) (columns : List String) (values : List SqlValue) : List SqlValue :=
  table.columns.map fun column =>
    match (columns.zip values).find? fun item => folded item.1 = folded column.1 with
    | some item => sqlite.stored column.2 item.2
    | none => .null

def Database.insertRow (db : Database) (name : String) (columns : List String) (parameters : Nat)
    (values : List SqlValue) : Except Raised Database :=
  match db.find? fun table => folded table.name = folded name with
  | none => .error (.other "OperationalError")
  | some table =>
    if (columns.any fun column => folded column ∉ table.columns.map fun c => folded c.1) ∨
        parameters ≠ columns.length then
      .error (.other "OperationalError")
    else if values.length ≠ parameters then .error (.other "ProgrammingError")
    else if ¬ values.all bindable then .error (.other "OverflowError")
    else .ok <| db.map fun other =>
      if folded other.name = folded name then { other with rows := other.rows ++ [rowOf sqlite table columns values] }
      else other

/-- `connection.execute(text)` -/
def execute (db : Database) (text : List Char) : Except Raised Database :=
  match readStatement text with
  | some (.createTable name columns) => db.create sqlite name columns
  | some (.insert ..) => .error (.other "ProgrammingError")
  | none => .error (.other "OperationalError")

/-- One row of `connection.executemany(text, rows)`. -/
def executeRow (text : List Char) (db : Database) (values : List SqlValue) : Except Raised Database :=
  match readStatement text with
  | some (.insert name columns parameters) => db.insertRow sqlite name columns parameters values
  | some (.createTable ..) => .error (.other "ProgrammingError")
  | none => .error (.other "OperationalError")

/-! ## The materializer -/

/-- `_INSERT_BATCH` -/
def insertBatch : Nat := 500

/-- What the exception of a stream is called. -/
def raisedName : CellError → String
  | .unsupported _ => "UnsupportedCellValue"
  | .raised typeName => typeName

/-- `_insert_rows`: the database and how many rows have been inserted. -/
def insertRows (db : Database) (table : TableWrite) : Except Raised (Database × Nat) := do
  let statement ← insertSql table
  let batched ← table.rows.rows.foldlM (Batched.add (executeRow sqlite statement) insertBatch) { state := db }
  match table.rows.raised with
  | some e => .error (.other (raisedName e))
  | none => batched.finish (executeRow sqlite statement)

/-- One table of the transaction. -/
def writeTable (db : Database) (table : TableWrite) : Except Raised Database := do
  let db ← execute sqlite db (← createTableSql table)
  let (db, inserted) ← insertRows sqlite db table
  if inserted ≠ table.rowCount then
    .error <| .excel {
      code := .materializationFailed
      message := "表 " ++ table.tableName ++ " 写入 " ++ toString inserted ++ " 行，与校验结果 " ++
        toString table.rowCount ++ " 行不一致" }
  else return db

/-- `_write`: the staging database, when it is committed and intact. -/
def write (integrity : Database → List String) (tables : List TableWrite) : Except Raised Database := do
  let db ← tables.foldlM (writeTable sqlite) []
  if integrity db ≠ ["ok"] then
    .error <| .excel {
      code := .integrityCheckFailed
      message := "SQLite integrity_check 未通过：" ++ "/".intercalate (integrity db) }
  else return db

/-- `materialize`: what `data.sqlite3` is afterwards, and what is raised. -/
def materialize (integrity : Database → List String) (tables : List TableWrite) (before : Option Database) :
    Option Database × Except ExcelIngestionError Unit :=
  match write sqlite integrity tables with
  | .ok db => (some db, .ok ())
  | .error (.excel e) => (before, .error e)
  | .error (.other typeName) => (before, .error {
      code := .materializationFailed, message := "SQLite 物化失败（" ++ typeName ++ "）" })

/-- `is_finalized` -/
def isFinalized (integrity : Database → List String) (file : Option Database) (tableNames : List String) : Bool :=
  match file with
  | none => false
  | some db =>
    integrity db = ["ok"] && (db.all fun table => table.name ∈ tableNames) &&
      tableNames.all fun name => name ∈ db.map SqlTable.name

end Database

/-- `_table_writes` -/
def tableWrites (t : Texts) (plan : Validator.WorkbookPlan) : List TableWrite :=
  plan.sheets.map fun sheet => {
    tableName := sheet.tableName, columns := sheet.columns, rowCount := sheet.rowCount
    rows := iterTableRows t plan sheet }

end Materializer

end Ingestion
