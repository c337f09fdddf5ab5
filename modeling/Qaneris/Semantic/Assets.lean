import Mathlib.Data.List.Sort

/-!
# The registry of semantic assets

`SQLiteSemanticAssetRegistry`: one table beside the catalog. Opening the registry moves a table that is
keyed by `asset_id` alone to the key of a workspace, in statements that are committed one by one.
-/

namespace Semantic

/-! ## Assets -/

inductive SemanticAssetSource where
  | databaseMetadata
  | enterpriseDefinition
  | administrator
  | modelSuggestion
  deriving DecidableEq, Repr

inductive SemanticAssetStatus where
  | suggested
  | pending
  | approved
  | published
  | deprecated
  deriving DecidableEq, Repr

def SemanticAssetStatus.value : SemanticAssetStatus → String
  | .suggested => "suggested"
  | .pending => "pending"
  | .approved => "approved"
  | .published => "published"
  | .deprecated => "deprecated"

/-- What `save` reads of an asset, with `model_dump_json(exclude={"trusted"})` as `payload`. -/
structure SemanticAsset where
  assetId : String
  workspaceId : String
  kind : String
  name : String
  source : SemanticAssetSource
  status : SemanticAssetStatus
  confirmedBy : Option String
  updatedAt : String
  payload : String
  deriving DecidableEq, Repr

/-- `_validate_trusted_governance` -/
def validateTrustedGovernance (asset : SemanticAsset) : Except String Unit :=
  if (asset.source = .databaseMetadata ∨ asset.source = .modelSuggestion) ∧
      (asset.status = .approved ∨ asset.status = .published) ∧ asset.confirmedBy.getD "" = "" then
    .error ("database/model assets require confirmed_by before becoming trusted: " ++ asset.assetId)
  else .ok ()

/-! ## Tables -/

structure AssetRow where
  assetId : String
  workspaceId : String
  kind : String
  name : String
  status : String
  assetJson : String
  updatedAt : String
  deriving DecidableEq, Repr

def SemanticAsset.row (asset : SemanticAsset) : AssetRow where
  assetId := asset.assetId
  workspaceId := asset.workspaceId
  kind := asset.kind
  name := asset.name
  status := asset.status.value
  assetJson := asset.payload
  updatedAt := asset.updatedAt

inductive AssetColumn where
  | assetId
  | workspaceId
  deriving DecidableEq, Repr

def AssetRow.column (row : AssetRow) : AssetColumn → String
  | .assetId => row.assetId
  | .workspaceId => row.workspaceId

structure AssetTable where
  primaryKey : List AssetColumn
  rows : List AssetRow
  deriving DecidableEq, Repr

/-- The key of `_SCHEMA`. -/
def workspaceKey : List AssetColumn := [.workspaceId, .assetId]

namespace AssetTable

variable (table : AssetTable)

def keyOf (row : AssetRow) : List String := table.primaryKey.map row.column

/-- `INSERT OR IGNORE` -/
def insertOrIgnore (row : AssetRow) : AssetTable :=
  if table.rows.any fun other => table.keyOf other = table.keyOf row then table
  else { table with rows := table.rows ++ [row] }

/-- `INSERT … ON CONFLICT(…) DO UPDATE` -/
def upsert (row : AssetRow) : AssetTable :=
  if table.rows.any fun other => table.keyOf other = table.keyOf row then
    { table with rows := table.rows.map fun other =>
        if table.keyOf other = table.keyOf row then row else other }
  else { table with rows := table.rows ++ [row] }

end AssetTable

inductive TableName where
  | asset
  | legacy
  deriving DecidableEq, Repr

/-- `semantic_asset`, `semantic_asset_legacy`, and the table of `semantic_asset_workspace_status`. -/
structure Database where
  asset : Option AssetTable
  legacy : Option AssetTable
  index : Option TableName
  deriving DecidableEq, Repr

/-! ## Statements -/

/-- What one transaction makes of the database; `none` when it raises. -/
abbrev Statement := Database → Option Database

/-- `_primary_key_columns` -/
def primaryKeyColumns (db : Database) : List AssetColumn :=
  match db.asset with
  | some table => table.primaryKey
  | none => []

/-- `CREATE TABLE IF NOT EXISTS semantic_asset` -/
def createTable : Statement := fun db =>
  match db.asset with
  | some _ => some db
  | none => some { db with asset := some { primaryKey := workspaceKey, rows := [] } }

/-- `CREATE INDEX IF NOT EXISTS semantic_asset_workspace_status` -/
def createIndex : Statement := fun db =>
  if db.index.isSome then some db
  else if db.asset.isSome then some { db with index := some .asset }
  else none

/-- `DROP TABLE IF EXISTS semantic_asset_legacy` -/
def dropLegacy : Statement := fun db =>
  some { db with
    legacy := none, index := if db.index = some .legacy then none else db.index }

/-- `ALTER TABLE semantic_asset RENAME TO semantic_asset_legacy`, which takes the index along. -/
def renameTable : Statement := fun db =>
  match db.asset, db.legacy with
  | some table, none => some {
      asset := none, legacy := some table
      index := if db.index = some .asset then some .legacy else db.index }
  | _, _ => none

/-- `DROP INDEX IF EXISTS semantic_asset_workspace_status` -/
def dropIndex : Statement := fun db => some { db with index := none }

/-- `INSERT OR IGNORE INTO semantic_asset … SELECT …` and `DROP TABLE semantic_asset_legacy`, which are
committed together. -/
def copyRows : Statement := fun db =>
  match db.asset, db.legacy with
  | some table, some legacy =>
    dropLegacy { db with asset := some (legacy.rows.foldl AssetTable.insertOrIgnore table) }
  | _, _ => none

/-- `_SCHEMA` -/
def schema : List Statement := [createTable, createIndex]

/-- `_migrate` -/
def migrate (db : Database) : List Statement :=
  if primaryKeyColumns db = [] ∨ primaryKeyColumns db = workspaceKey then []
  else [dropLegacy, renameTable, dropIndex] ++ schema ++ [copyRows]

/-- `_initializeTables` -/
def initializeTables (db : Database) : List Statement := migrate db ++ schema

/-- The statements up to the first that raises, and whether none does. -/
def execute (db : Database) : List Statement → Database × Bool
  | [] => (db, true)
  | statement :: statements =>
    match statement db with
    | none => (db, false)
    | some db => execute db statements

/-! ## The registry -/

/-- An opening whose process is killed after this number of statements. -/
def killed (db : Database) (statements : Nat) : Database :=
  (execute db ((initializeTables db).take statements)).1

/-- An opening that is not killed, and whether it succeeds. -/
def opened (db : Database) : Database × Bool := execute db (initializeTables db)

/-- `save` -/
def save (db : Database) (asset : SemanticAsset) : Except String Database := do
  validateTrustedGovernance asset
  match db.asset with
  | none => .error "no such table: semantic_asset"
  | some table =>
    if table.primaryKey = workspaceKey then
      return { db with asset := some (table.upsert asset.row) }
    else .error "ON CONFLICT clause does not match any PRIMARY KEY or UNIQUE constraint"

/-- `get`, up to the reading of the JSON. -/
def getAsset (db : Database) (workspaceId assetId : String) : Option String :=
  db.asset.bind fun table =>
    (table.rows.find? fun row => row.workspaceId = workspaceId ∧ row.assetId = assetId).map
      AssetRow.assetJson

/-- `list`, up to the reading of the JSON. -/
def listAssets (db : Database) (workspaceId : String) : List String :=
  match db.asset with
  | none => []
  | some table =>
    ((table.rows.filter fun row => row.workspaceId = workspaceId).mergeSort fun a b =>
      a.assetId ≤ b.assetId).map AssetRow.assetJson

end Semantic
