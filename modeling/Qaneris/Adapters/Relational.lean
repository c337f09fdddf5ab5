import Mathlib.Data.List.Sort
import Qaneris.Infra.Patterns
import Qaneris.Infra.Unicode
import Qaneris.Scan.Contracts

/-!
# What the relational adapters scan

How `SQLAlchemyAdapter` names a dataset, and what `SQLiteAdapter` makes of the rows of the PRAGMAs.
-/

namespace Adapters

open Infra (Json)
open Scan (ConstraintInfo DatasetInfo FieldInfo IndexInfo RelationInfo)

/-! ## Names -/

/-- `SQLAlchemyAdapter._dataset_name` -/
def datasetName (schema : Option String) (table : String) : String :=
  match schema with
  | none => table
  | some schema => if schema = "" then table else schema ++ "." ++ table

/-- A table or a view, with its schema where the database has them. -/
@[ext] structure ScannedTable where
  schema : Option String
  table : String
  schema_length : ∀ s ∈ schema, 1 ≤ s.length
  deriving Repr

instance : DecidableEq ScannedTable := fun _ _ => decidable_of_iff' _ ScannedTable.ext_iff

/-- The name and the namespace of a dataset are those of the table. -/
def ScannedTable.IsDataset (t : ScannedTable) (dataset : DatasetInfo) : Prop :=
  dataset.name = datasetName t.schema t.table ∧ dataset.namespace_ = t.schema

instance (t : ScannedTable) (dataset : DatasetInfo) : Decidable (t.IsDataset dataset) :=
  inferInstanceAs (Decidable (_ ∧ _))

/-! ## SQLite -/

namespace SQLiteAdapter

/-- A column. A generated one is hidden: `PRAGMA table_info` has no row for it. -/
structure Column where
  name : String
  type : String
  notnull : Bool
  pk : Nat
  default : Option Json := none
  hidden : Bool := false
  deriving DecidableEq, Repr

/-- A row of `PRAGMA index_list`, with the names of `PRAGMA index_info`; an expression has none. -/
structure Index where
  name : String
  columns : List (Option String)
  unique : Bool
  deriving DecidableEq, Repr

/-- A row of `PRAGMA foreign_key_list`: one column of a foreign key. -/
structure ForeignKeyRow where
  id : Nat
  from_ : String
  table : String
  to_ : Option String
  deriving DecidableEq, Repr

/-- A table or a view of `sqlite_master`, with what the PRAGMAs say of it. -/
structure Object where
  name : String
  isView : Bool := false
  columns : List Column
  indexes : List Index := []
  foreignKeys : List ForeignKeyRow := []
  columns_nodup : (columns.map Column.name).Nodup
  indexes_nodup : (indexes.map Index.name).Nodup
  view : isView → indexes = [] ∧ foreignKeys = []
  deriving DecidableEq, Repr

/-- Names are the same when they differ in the case of ASCII letters only. -/
def foldCase (name : String) : List Char :=
  name.toList.map fun c => if Infra.isAsciiUpper c then Char.ofNat (c.toNat + 32) else c

structure Schema where
  objects : List Object
  objects_nodup : (objects.map fun object => foldCase object.name).Nodup
  deriving DecidableEq, Repr

/-- `name NOT LIKE 'sqlite_%'`; `LIKE` ignores the case of ASCII letters, and `_` is any character. -/
def isListed (name : String) : Bool :=
  ¬Infra.matchTokens (Infra.patternTokens none "sqlite_%".toList) (foldCase name)

/-- `PRAGMA table_info` -/
def tableInfo (object : Object) : List Column := object.columns.filter fun column => !column.hidden

/-- `text or None` -/
def given (text : String) : Option String := if text = "" then none else some text

def indexInfo (index : Index) : IndexInfo :=
  { name := index.name, fields := index.columns.filterMap id, unique := index.unique, indexType := some "btree" }

/-- The fields of the indexes that are kept. -/
def fieldsOf (keep : Index → Bool) (object : Object) : List String :=
  (object.indexes.filter keep).flatMap fun index => index.columns.filterMap id

def fieldInfo (object : Object) (column : Column) : FieldInfo :=
  { name := column.name, dataType := (given column.type).getD "unknown", nativeType := given column.type
    nullable := !column.notnull, primaryKey := column.pk ≠ 0
    unique := column.name ∈ fieldsOf Index.unique object
    indexed := column.name ∈ fieldsOf (fun _ => true) object ∨ column.pk ≠ 0, defaultValue := column.default }

def primaryKey (object : Object) : List ConstraintInfo :=
  let fields := ((tableInfo object).filter fun column => column.pk ≠ 0).map Column.name
  if fields = [] then []
  else [{ name := "pk_" ++ object.name, constraintType := "primary_key", fields }]

/-- The constraint of one column of a foreign key. -/
def foreignKey (object : Object) (row : ForeignKeyRow) : ConstraintInfo :=
  { name := "fk_" ++ object.name ++ "_" ++ toString row.id, constraintType := "foreign_key"
    fields := [row.from_], expression := some (row.table ++ "(" ++ row.to_.getD "None" ++ ")") }

def datasetInfo (datasourceId : String) (object : Object) : DatasetInfo :=
  { datasourceId, name := object.name, kind := if object.isView then "view" else "table"
    fields := (tableInfo object).map (fieldInfo object), indexes := object.indexes.map indexInfo
    constraints := primaryKey object ++ object.foreignKeys.map (foreignKey object) }

/-- `scan_metadata` -/
def scanMetadata (datasourceId : String) (schema : Schema) : List DatasetInfo :=
  ((schema.objects.filter fun object => isListed object.name).insertionSort fun a b => a.name ≤ b.name).map
    (datasetInfo datasourceId)

def relationInfo (datasourceId : String) (object : Object) (row : ForeignKeyRow) : RelationInfo :=
  { datasourceId, fromDataset := object.name, fromField := given row.from_, toDataset := row.table
    toField := row.to_.bind given, relationType := "foreign_key", source := "scan" }

/-- `scan_relations` -/
def scanRelations (datasourceId : String) (schema : Schema) : List RelationInfo :=
  (schema.objects.filter fun object => !object.isView && isListed object.name).flatMap fun object =>
    object.foreignKeys.map (relationInfo datasourceId object)

end SQLiteAdapter

end Adapters
