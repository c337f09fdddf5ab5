import Qaneris.Scan.Contracts

/-!
# Contracts of Excel ingestion

The request, the lifecycle record kept next to the managed artifact, and the result.
-/

namespace Ingestion

inductive ExcelErrorCode where
  | invalidExtension
  | invalidContainer
  | fileTooLarge
  | zipLimitExceeded
  | noImportableSheet
  | sheetLimitExceeded
  | rowLimitExceeded
  | columnLimitExceeded
  | cellLimitExceeded
  | mergedCellUnsupported
  | formulaUnsupported
  | invalidHeader
  | duplicateHeader
  | invalidTableName
  | duplicateTableName
  | invalidCellValue
  | materializationFailed
  | integrityCheckFailed
  | datasourceCreationFailed
  | scanFailed
  deriving DecidableEq, Repr

/-- What an import raises: an `ExcelIngestionError`, or what the parts below it raise. -/
inductive Failure where
  | excel (code : ExcelErrorCode) (message : String)
  | other (e : Scan.Failure)
  deriving DecidableEq, Repr

inductive ExcelImportStatus where
  | materialized
  | ready
  | failed
  deriving DecidableEq, Repr

structure ExcelColumnSummary where
  sourceHeader : String
  columnName : String
  inferredType : String
  nullable : Bool
  allNull : Bool
  deriving DecidableEq, Repr

structure ExcelSheetSummary where
  originalName : String
  tableName : String
  rowCount : Nat
  columnCount : Nat
  columns : List ExcelColumnSummary
  deriving DecidableEq, Repr

structure ExcelImportRequest where
  filePath : String
  datasourceName : Option String := none
  workspaceId : String := "default"
  deriving DecidableEq, Repr

structure ExcelManifest where
  formatVersion : String := "excel-manifest-v1"
  policyVersion : String
  importId : String
  workspaceId : String
  originalFilename : String
  fileSha256 : String
  fileSize : Nat
  createdAt : Scan.Instant
  status : ExcelImportStatus
  sqlitePath : Option String := none
  datasourceId : Option String := none
  snapshotId : Option String := none
  scanVersion : Option Nat := none
  sheets : List ExcelSheetSummary := []
  warnings : List String := []
  errorCode : Option ExcelErrorCode := none
  deriving DecidableEq, Repr

structure ExcelImportResult where
  importId : String
  workspaceId : String
  datasourceId : String
  snapshotId : String
  scanVersion : Nat
  status : ExcelImportStatus
  originalFilename : String
  fileSha256 : String
  sqlitePath : String
  artifactDirectory : String
  manifestPath : String
  policyVersion : String
  neo4jPublicationVerified : Bool
  sheets : List ExcelSheetSummary := []
  warnings : List String := []
  deriving DecidableEq, Repr

/-- One sheet of a validated workbook, as it is written to a table. -/
structure SheetPlan where
  originalName : String
  tableName : String
  rowCount : Nat
  columns : List ExcelColumnSummary
  deriving DecidableEq, Repr

structure WorkbookPlan where
  sheets : List SheetPlan
  warnings : List String := []
  deriving DecidableEq, Repr

/-- `_sheet_summaries` of one sheet. -/
def SheetPlan.summary (sheet : SheetPlan) : ExcelSheetSummary where
  originalName := sheet.originalName
  tableName := sheet.tableName
  rowCount := sheet.rowCount
  columnCount := sheet.columns.length
  columns := sheet.columns

/-- The tables that the workbook becomes. -/
def WorkbookPlan.tableNames (plan : WorkbookPlan) : List String := plan.sheets.map (·.tableName)

end Ingestion
