import Qaneris.Ingestion.CellTypes
import Qaneris.Ingestion.Contracts
import Qaneris.Ingestion.SheetXml

/-!
# Validation of a workbook

The visible sheets are scanned once to reject what cannot be imported and to decide the columns, and read
again to stream the rows. A worksheet of `openpyxl` is the rows that it yields: the first is row 1, and each
begins at column 1.
-/

namespace Ingestion

namespace Validator

/-! ## Data -/

/-- `ExcelIngestionPolicy`, the limits that the validator reads. -/
structure ExcelIngestionPolicy where
  maxVisibleSheets : Nat := 32
  maxRowsPerSheet : Nat := 100000
  maxColumnsPerSheet : Nat := 256
  maxTotalDataCells : Nat := 1000000
  maxTextLength : Nat := 32768
  maxColumnNameLength : Nat := 128
  positive : ∀ limit ∈ [maxVisibleSheets, maxRowsPerSheet, maxColumnsPerSheet, maxTotalDataCells,
    maxTextLength, maxColumnNameLength], 0 < limit := by decide

structure ExcelIngestionError where
  code : ExcelErrorCode
  message : String
  sheet : Option String := none
  coordinate : Option String := none
  deriving DecidableEq, Repr

/-- What the scan of a sheet raises. -/
inductive Raised where
  | excel (e : ExcelIngestionError)
  | other (typeName : String)
  deriving DecidableEq, Repr

/-- What the validator computes with. -/
structure Texts extends CellTexts where
  /-- `unicodedata.normalize("NFKC", …)` -/
  nfkc : String → String
  casefold : String → String
  /-- `get_column_letter` -/
  columnLetter : Nat → String

/-- A cell as `openpyxl` yields it. -/
structure RawCell where
  value : Option CellValue := none
  dataType : Option String := some "n"
  numberFormat : Option String := some "General"
  deriving DecidableEq, Repr

structure Worksheet where
  sheetState : String := "visible"
  maxRow : Option Nat := none
  maxColumn : Option Nat := none
  rows : List (List RawCell)
  deriving DecidableEq, Repr

/-- `iter_rows` from a row to another, each with this many cells. -/
def Worksheet.iterRows (worksheet : Worksheet) (minRow maxRow maxCol : Nat) : List (List RawCell) :=
  ((worksheet.rows.take maxRow).drop (minRow - 1)).map fun row =>
    (List.range maxCol).map fun i => row.getD i {}

structure Workbook where
  sheets : List (String × Worksheet)
  deriving DecidableEq, Repr

def Workbook.sheetnames (workbook : Workbook) : List String := workbook.sheets.map Prod.fst

/-- `workbook[name]` -/
def Workbook.get? (workbook : Workbook) (name : String) : Option Worksheet := workbook.sheets.lookup name

structure ColumnPlan where
  sourceHeader : String
  columnName : String
  inferredType : ColumnType
  nullable : Bool
  allNull : Bool
  deriving DecidableEq, Repr

structure SheetPlan where
  originalName : String
  tableName : String
  columns : List ColumnPlan
  rowCount : Nat
  rowExtent : Nat
  columnExtent : Nat
  deriving DecidableEq, Repr

/-- `WorkbookPlan`, with the workbook in the place of its bytes. -/
structure WorkbookPlan where
  workbook : Workbook
  sheets : List SheetPlan
  warnings : List String := []
  deriving DecidableEq, Repr

structure StoredCell where
  column : Nat
  value : CellValue
  dataType : String
  numberFormat : Option String
  deriving DecidableEq, Repr

structure HeaderColumn where
  column : Nat
  source : String
  name : String
  deriving DecidableEq, Repr

/-- `REPRESENTABLE_CELL_TYPES` -/
def representableCellTypes : List String := ["n", "s", "b", "d"]

/-- `str.strip` -/
def strip (s : String) : String := String.ofList (Infra.strip s.toList)

section Validator

variable (t : Texts) (policy : ExcelIngestionPolicy)

def coordinate (column row : Nat) : String := t.columnLetter column ++ toString row

/-! ## Rows -/

/-- `cell.data_type or "n"` -/
def RawCell.storedType (cell : RawCell) : String :=
  match cell.dataType with
  | none | some "" => "n"
  | some type => type

/-- The cell at this position, if it is not empty. -/
def storedCell (cell : RawCell) (position : Nat) : Option StoredCell :=
  cell.value.map fun value =>
    { column := position, value, dataType := cell.storedType, numberFormat := cell.numberFormat }

def storedCells (row : List RawCell) : List StoredCell :=
  (row.zipIdx 1).filterMap fun cell => storedCell cell.1 cell.2

/-- A text of more characters than that. -/
def longerThan (limit : Nat) : CellValue → Bool
  | .str s => limit < s.length
  | _ => false

/-- `_classify_cell` -/
def classifyStored (sheetName : String) (cell : StoredCell) (rowIndex : Nat) :
    Except ExcelIngestionError CellKind :=
  let invalid (message : String) : ExcelIngestionError :=
    { code := .invalidCellValue, message, sheet := some sheetName
      coordinate := some (coordinate t cell.column rowIndex) }
  if cell.dataType ∉ representableCellTypes then
    .error (invalid ("单元格值类型不受支持（" ++ cell.dataType ++ "）"))
  else if longerThan policy.maxTextLength cell.value then
    .error (invalid ("文本单元格超过 " ++ toString policy.maxTextLength ++ " 字符上限"))
  else (classifyCell (some cell.value) cell.numberFormat).mapError invalid

/-- `_parse_header` returns an error or raises one. -/
inductive HeaderFailure where
  | returned (e : ExcelIngestionError)
  | raised (typeName : String)
  deriving DecidableEq, Repr

/-- The header of one column; `seen` has the keys of the columns before it. -/
def parseHeaderCell (sheetName : String) (cell : StoredCell) (seen : List (String × Nat)) :
    Except HeaderFailure (HeaderColumn × String) :=
  let returned (code : ExcelErrorCode) (message : String) : HeaderFailure :=
    .returned { code, message, sheet := some sheetName, coordinate := some (coordinate t cell.column 1) }
  if cell.dataType ∉ representableCellTypes then
    .error (returned .invalidHeader ("Header 值类型不受支持（" ++ cell.dataType ++ "）"))
  else
    match classifyCell (some cell.value) cell.numberFormat with
    | .error message => .error (returned .invalidHeader ("Header 值不受支持：" ++ message))
    | .ok kind =>
      match canonicalText t.toCellTexts cell.value kind with
      | .error (.unsupported message) => .error (returned .invalidHeader ("Header 值不受支持：" ++ message))
      | .error (.raised typeName) => .error (.raised typeName)
      | .ok source =>
        let name := strip (t.nfkc source)
        if name = "" then .error (returned .invalidHeader "Header 规范化为空")
        else if '\x00' ∈ name.toList then .error (returned .invalidHeader "Header 不能包含 NUL 字符")
        else if policy.maxColumnNameLength < name.length then
          .error (returned .invalidHeader ("Header 超过 " ++ toString policy.maxColumnNameLength ++ " 个字符上限"))
        else
          let key := t.casefold name
          match seen.lookup key with
          | some column =>
            .error (returned .duplicateHeader ("Header 与第 " ++ toString column ++ " 列重复（按 casefold 比较）"))
          | none => .ok ({ column := cell.column, source, name }, key)

/-- The columns of the header that are left; `seen` has the keys of the columns before them. -/
def parseHeaderCells (sheetName : String) : (seen : List (String × Nat)) → List StoredCell →
    Except HeaderFailure (List HeaderColumn)
  | _, [] => .ok []
  | seen, cell :: cells => do
    let (column, key) ← parseHeaderCell t policy sheetName cell seen
    let columns ← parseHeaderCells sheetName (seen ++ [(key, cell.column)]) cells
    return column :: columns

/-- `_parse_header` -/
def parseHeader (cells : List StoredCell) (width : Nat) (sheetName : String) :
    Except HeaderFailure (List HeaderColumn) :=
  let present (column : Nat) : Option StoredCell := cells.find? fun cell => cell.column = column
  match (List.range' 1 width).find? fun column => (present column).isNone with
  | some column =>
    .error <| .returned {
      code := .invalidHeader, message := "Header 行存在空单元格", sheet := some sheetName
      coordinate := some (coordinate t column 1) }
  | none => parseHeaderCells t policy sheetName [] ((List.range' 1 width).filterMap present)

/-! ## The scan of a sheet -/

/-- The variables of the loop over the rows. -/
structure Scanned where
  header : List HeaderColumn := []
  headerError : Option ExcelIngestionError := none
  shapeError : Option ExcelIngestionError := none
  formula : Option String := none
  hasContent : Bool := false
  dataRows : Nat := 0
  dataCells : Nat := 0
  width : Nat := 0
  /-- The column of each kind, in the order in which they are appended. -/
  kinds : List (Nat × CellKind) := []
  nullColumns : List Nat := []
  deriving DecidableEq, Repr

/-- `kinds.get(column, [])` -/
def Scanned.kindsOf (s : Scanned) (column : Nat) : List CellKind :=
  (s.kinds.filter fun item => item.1 = column).map Prod.snd

/-- One column of a row of data. -/
def scanColumn (sheetName : String) (rowIndex : Nat) (cells : List StoredCell) (s : Scanned) (column : Nat) :
    Except ExcelIngestionError Scanned :=
  match cells.find? fun cell => cell.column = column with
  | none => .ok { s with nullColumns := s.nullColumns ++ [column] }
  | some cell => do
    let kind ← classifyStored t policy sheetName cell rowIndex
    return { s with kinds := s.kinds ++ [(column, kind)] }

/-- The error of the shape after a row: the first cell beyond the header is the one that counts. -/
def shapeAfter (sheetName : String) (rowIndex : Nat) (cells : List StoredCell) (s : Scanned) :
    Option ExcelIngestionError :=
  match s.shapeError, cells.find? fun cell => s.width < cell.column with
  | none, some beyond => some {
      code := .invalidHeader, message := "数据行出现 Header 范围之外的非空单元格"
      sheet := some sheetName, coordinate := some (coordinate t beyond.column rowIndex) }
  | e, _ => e

/-- A row of data. -/
def scanData (sheetName : String) (rowIndex : Nat) (cells : List StoredCell) (s : Scanned) :
    Except ExcelIngestionError Scanned :=
  let s := { s with dataRows := s.dataRows + 1, dataCells := s.dataCells + cells.length }
  if s.headerError.isSome then .ok s
  else
    (List.range' 1 s.width).foldlM (scanColumn t policy sheetName rowIndex cells)
      { s with shapeError := shapeAfter t sheetName rowIndex cells s }

/-- Row 1. -/
def scanHeader (sheetName : String) (cells : List StoredCell) (s : Scanned) : Except Raised Scanned :=
  let rowWidth := (cells.map (·.column)).foldl max 0
  match parseHeader t policy cells rowWidth sheetName with
  | .ok header => .ok { s with header, width := rowWidth }
  | .error (.returned e) => .ok { s with headerError := some e }
  | .error (.raised typeName) => .error (.other typeName)

/-- One round of the loop. -/
def scanRow (sheetName : String) (rowIndex : Nat) (row : List RawCell) (s : Scanned) :
    Except Raised Scanned :=
  let cells := storedCells row
  if cells = [] then .ok s
  else
    let s := { s with hasContent := true }
    match cells.find? fun cell => cell.dataType = "f" with
    | some cell => .ok { s with formula := some (coordinate t cell.column rowIndex) }
    | none =>
      if rowIndex = 1 then scanHeader t policy sheetName cells s
      else (scanData t policy sheetName rowIndex cells s).mapError .excel

/-- The loop, which a formula ends. -/
def scanRows (sheetName : String) : (rowIndex : Nat) → List (List RawCell) → Scanned → Except Raised Scanned
  | _, [], s => .ok s
  | rowIndex, row :: rows, s => do
    let s ← scanRow t policy sheetName rowIndex row s
    if s.formula.isSome then return s else scanRows sheetName (rowIndex + 1) rows s

/-- `_table_name`, with the names after it. -/
def tableName (sheetName : String) (tableNames : List String) :
    Except ExcelIngestionError (String × List String) :=
  let name := strip (t.nfkc sheetName)
  if name = "" then
    .error { code := .invalidTableName, message := "工作表名规范化为空", sheet := some sheetName }
  else if '\x00' ∈ name.toList then
    .error { code := .invalidTableName, message := "工作表名不能包含 NUL 字符", sheet := some sheetName }
  else
    let key := t.casefold name
    if key ∈ tableNames then
      .error { code := .duplicateTableName, message := "工作簿内存在规范化后重名的工作表", sheet := some sheetName }
    else .ok (name, tableNames ++ [key])

/-- The columns of the plan. -/
def Scanned.columns (s : Scanned) : List ColumnPlan :=
  s.header.map fun column => {
    sourceHeader := column.source
    columnName := column.name
    inferredType := inferColumnType (s.kindsOf column.column)
    nullable := column.column ∈ s.nullColumns
    allNull := s.kindsOf column.column = [] }

/-- What is said of a sheet that is skipped. -/
def skippedEmpty (sheetName : String) : String := "跳过空工作表“" ++ sheetName ++ "”"

/-- What the scan of a sheet returns, with the names of the tables after it. -/
structure SheetResult where
  plan : Option SheetPlan
  dataCells : Nat
  warnings : List String
  tableNames : List String
  deriving DecidableEq, Repr

/-- What is left of the scan when the loop has ended. -/
def finishScan (sheetName : String) (facts : SheetXmlFacts) (rowExtent : Nat) (tableNames : List String)
    (s : Scanned) : Except ExcelIngestionError SheetResult :=
  if let some formula := s.formula then
    .error {
      code := .formulaUnsupported
      message := "工作簿不支持公式，也不接受缓存计算结果；请另存为数值后重新导入"
      sheet := some sheetName, coordinate := some formula }
  else if s.hasContent = false then
    .ok { plan := none, dataCells := 0, warnings := [skippedEmpty sheetName], tableNames }
  else if facts.hasMergedRange then
    .error { code := .mergedCellUnsupported, message := "工作表包含合并单元格", sheet := some sheetName }
  else if let some e := s.headerError then .error e
  else if let some e := s.shapeError then .error e
  else do
    let (name, names) ← tableName t sheetName tableNames
    let plan : SheetPlan := {
      originalName := sheetName, tableName := name, columns := s.columns, rowCount := s.dataRows
      rowExtent, columnExtent := s.width }
    return { plan := some plan, dataCells := s.dataCells, warnings := [], tableNames := names }

/-- `facts.row_extent or (worksheet.max_row or 0)` -/
def extent (fact : Nat) (declared : Option Nat) : Nat := if fact ≠ 0 then fact else declared.getD 0

/-- `_scan_sheet` -/
def scanSheet (worksheet : Worksheet) (sheetName : String) (facts : SheetXmlFacts)
    (tableNames : List String) : Except Raised SheetResult :=
  let rowExtent := extent facts.rowExtent worksheet.maxRow
  let columnExtent := extent facts.columnExtent worksheet.maxColumn
  if policy.maxRowsPerSheet < rowExtent then
    .error <| .excel {
      code := .rowLimitExceeded, sheet := some sheetName
      message := "工作表行范围 " ++ toString rowExtent ++ " 超过上限 " ++ toString policy.maxRowsPerSheet }
  else if policy.maxColumnsPerSheet < columnExtent then
    .error <| .excel {
      code := .columnLimitExceeded, sheet := some sheetName
      message := "工作表列范围 " ++ toString columnExtent ++ " 超过上限 " ++ toString policy.maxColumnsPerSheet }
  else if rowExtent = 0 ∨ columnExtent = 0 then
    .ok { plan := none, dataCells := 0, warnings := [skippedEmpty sheetName], tableNames }
  else do
    let s ← scanRows t policy sheetName 1 (worksheet.iterRows 1 rowExtent columnExtent) {}
    (finishScan t sheetName facts rowExtent tableNames s).mapError .excel

/-- `_validate_sheet` -/
def validateSheet (worksheet : Worksheet) (sheetName : String) (facts : SheetXmlFacts)
    (tableNames : List String) : Except ExcelIngestionError SheetResult :=
  match scanSheet t policy worksheet sheetName facts tableNames with
  | .ok result => .ok result
  | .error (.excel e) => .error e
  | .error (.other typeName) => .error {
      code := .invalidContainer, message := "无法读取工作表内容（" ++ typeName ++ "）", sheet := some sheetName }

/-! ## The workbook -/

/-- The variables of the loop over the sheets. -/
structure Validated where
  warnings : List String := []
  sheets : List SheetPlan := []
  tableNames : List String := []
  dataCells : Nat := 0
  deriving DecidableEq, Repr

/-- One round of the loop: the sheet with this name. -/
def validateNext (facts : String → SheetXmlFacts) (v : Validated) (sheet : String × Worksheet) :
    Except ExcelIngestionError Validated :=
  if sheet.2.sheetState ≠ "visible" then
    .ok { v with
      warnings := v.warnings ++
        ["跳过非可见工作表“" ++ sheet.1 ++ "”（state=" ++ sheet.2.sheetState ++ "）"] }
  else do
    let result ← validateSheet t policy sheet.2 sheet.1 (facts sheet.1) v.tableNames
    let v := { v with warnings := v.warnings ++ result.warnings, tableNames := result.tableNames }
    match result.plan with
    | none => return v
    | some plan =>
      let dataCells := v.dataCells + result.dataCells
      if policy.maxTotalDataCells < dataCells then
        .error {
          code := .cellLimitExceeded, sheet := some sheet.1
          message := "非空数据单元格总数超过上限 " ++ toString policy.maxTotalDataCells }
      else return { v with sheets := v.sheets ++ [plan], dataCells }

/-- The sheet that each name gives. -/
def Workbook.named (workbook : Workbook) : List (String × Worksheet) :=
  workbook.sheetnames.filterMap fun name => (workbook.get? name).map fun worksheet => (name, worksheet)

/-- `_validate_workbook` -/
def validateWorkbook (workbook : Workbook) (facts : String → SheetXmlFacts) :
    Except ExcelIngestionError WorkbookPlan := do
  let visible := workbook.named.filter fun sheet => sheet.2.sheetState = "visible"
  if policy.maxVisibleSheets < visible.length then
    .error {
      code := .sheetLimitExceeded
      message := "可见工作表数量 " ++ toString visible.length ++ " 超过上限 " ++
        toString policy.maxVisibleSheets }
  else
    let v ← workbook.named.foldlM (validateNext t policy facts) {}
    if v.sheets = [] then
      .error { code := .noImportableSheet, message := "工作簿中没有可导入的工作表" }
    else return { workbook, sheets := v.sheets, warnings := v.warnings }

/-! ## Reading the rows again -/

/-- A generator: what it yields, and what it raises after that. -/
structure RowStream where
  rows : List (List SqlValue) := []
  raised : Option CellError := none
  deriving DecidableEq, Repr

/-- The value of the cell at this position. -/
def cellValue (columns : List ColumnPlan) (cell : RawCell) (i : Nat) : Except CellError SqlValue :=
  match cell.value, columns[i]? with
  | none, _ => .ok .null
  | some value, some column => coerceCell t.toCellTexts (some value) cell.numberFormat column.inferredType
  | some _, none => .error (.raised "IndexError")

/-- The values of one row. -/
def rowValues (columns : List ColumnPlan) (row : List RawCell) : Except CellError (List SqlValue) :=
  row.zipIdx.mapM fun cell => cellValue t columns cell.1 cell.2

/-- The rows that are left. -/
def streamRows (columns : List ColumnPlan) : List (List RawCell) → RowStream
  | [] => {}
  | row :: rows =>
    match rowValues t columns row with
    | .error e => { raised := some e }
    | .ok values =>
      let rest := streamRows columns rows
      if values.all (· = .null) then rest else { rest with rows := values :: rest.rows }

/-- `iter_table_rows` -/
def iterTableRows (plan : WorkbookPlan) (sheet : SheetPlan) : RowStream :=
  match plan.workbook.get? sheet.originalName with
  | none => { raised := some (.raised "KeyError") }
  | some worksheet => streamRows t sheet.columns (worksheet.iterRows 2 sheet.rowExtent sheet.columnExtent)

end Validator

end Validator

end Ingestion
