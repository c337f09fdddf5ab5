import Qaneris.Ingestion.Contracts
import Qaneris.Scan.Initializer

/-!
# Excel ingestion

An import of one workbook: the managed artifact, the datasource on it, the scan and the publication. All
that imports of the same bytes under one workspace and one policy share is one directory with its
manifest, and the catalog. Each access to a store is one step that may fail, and an import may be killed
between any two of them.
-/

namespace Ingestion

open Infra (Json Program Transaction)
open Infra.Program (attempt ofExcept)
open Scan (DatasourceRow)

/-! ## State and questions -/

/-- The datasource is the one with this identifier. -/
def hasId (id : String) (d : Scan.World) : Bool := d.catalog.datasource.any fun row => row.id = id

/-- The first datasource with the identifier is changed. -/
def updateAt (id : String) (f : Scan.World → Scan.World) : List Scan.World → List Scan.World
  | [] => []
  | d :: ds => if hasId id d then f d :: ds else d :: updateAt id f ds

/-- The directory of the artifact, and the datasources: each with its catalog rows and its published
graph. -/
structure World where
  /-- The digest of `source.xlsx`. -/
  source : Option String := none
  /-- The tables of `data.sqlite3`. -/
  sqlite : Option (List String) := none
  manifest : Option ExcelManifest := none
  datasources : List Scan.World := []
  /-- A read of the manifest or a listing of the catalog has failed, and an import went on without it. -/
  misread : Bool := false

/-- What the stores hold of one datasource; nothing where there is none. -/
def World.at (w : World) (id : String) : Scan.World :=
  (w.datasources.find? (hasId id)).getD { catalog := { datasource := none } }

def World.put (id : String) (w : World) (d : Scan.World) : World :=
  { w with datasources := updateAt id (fun _ => d) w.datasources }

/-- The graph reader of the application. -/
inductive Reader where
  /-- There is none, or the one that reads nothing. -/
  | missing
  | unavailable (message : String)
  | fails (e : Scan.Failure)
  | reads

/-- What the access to a store fails with: anything but the `KeyError` of a missing row. -/
structure StoreFailure where
  error : Scan.Failure
  not_key : error.typeName ≠ "KeyError"

/-- What an import asks: whether the access to a store fails, the clock, a fresh identifier, whether the
finished artifact is intact and whether a new one can be written, the connection test, the graph reader,
and what a scan asks. -/
inductive Question where
  | fault
  | clock
  | uuid
  | integrity
  | materialize
  | testConnection (profile : Scan.ConnectionProfile)
  | graphReader
  | scan (q : Scan.Question)

abbrev Answer : Question → Type
  | .fault => Option StoreFailure
  | .clock => Scan.Instant
  | .uuid => String
  | .integrity => Bool
  | .materialize => Except Failure Unit
  | .testConnection _ => Except Scan.Failure Unit
  | .graphReader => Reader
  | .scan q => Scan.Answer q

abbrev Prog := Program World Answer Failure

def ask (q : Question) : Prog (Answer q) := Program.ask q

/-- An access to a store: it fails for a reason of its own, or it is one transaction. -/
def storeCall {α : Type} (tx : Transaction World Scan.Failure α) : Prog α := do
  match ← ask .fault with
  | some e => .throw (.other e.error)
  | none => Program.atomic fun w => (tx w).mapError .other

/-- An access that only reads. -/
def readCall {α : Type} (read : World → Except Scan.Failure α) : Prog α :=
  storeCall fun w => (read w).map fun a => (w, a)

/-- `open` and `os.replace`, and `connect` of the catalog: a step that always takes effect. -/
def write (f : World → World) : Prog Unit := storeCall fun w => .ok (f w, ())

/-! ## The service -/

/-- The service with the texts it computes by digest, path resolution and redaction. -/
structure ExcelIngestionService where
  workspaceDigest : String → String
  policyVersion : String
  policyDigest : String
  /-- `artifact_key(policy)` -/
  policyKey : String
  root : String
  /-- `Path(…).expanduser().resolve()` -/
  resolve : String → String
  /-- `strip` and the first hundred characters. -/
  clip : String → String
  safeError : Scan.Failure → String
  generateDocuments : Bool

/-- The bytes of a workbook, as what is computed of them under the policy. -/
structure Workbook where
  fileSha256 : String
  fileSize : Nat
  /-- `read_container` -/
  readContainer : (filename : String) → Except Failure Unit
  /-- `validate_workbook` -/
  validate : Except Failure WorkbookPlan

namespace ExcelIngestionService

variable (service : ExcelIngestionService) (workbook : Workbook) (request : ExcelImportRequest)
  (filename : String)

def directory (workspaceId : String) : String :=
  service.root ++ "/ingestion/excel/" ++ service.workspaceDigest workspaceId ++ "/" ++
    service.policyKey ++ "/" ++ workbook.fileSha256

def sqlitePath (workspaceId : String) : String := service.directory workbook workspaceId ++ "/data.sqlite3"

def importId : String :=
  "excel_" ++ service.workspaceDigest request.workspaceId ++ "_" ++ service.policyDigest ++ "_" ++
    String.ofList (workbook.fileSha256.toList.take 16)

/-- The identifiers of the chain that an import has reached. -/
structure Chain where
  datasourceId : String
  snapshotId : String
  scanVersion : Nat

/-- `_manifest` -/
def manifest (status : ExcelImportStatus) (createdAt : Scan.Instant) (plan : Option WorkbookPlan)
    (sqlitePath : Option String) (chain : Option Chain) (errorCode : Option ExcelErrorCode) :
    ExcelManifest where
  policyVersion := service.policyVersion
  importId := service.importId workbook request
  workspaceId := request.workspaceId
  originalFilename := filename
  fileSha256 := workbook.fileSha256
  fileSize := workbook.fileSize
  createdAt := createdAt
  status := status
  sqlitePath := sqlitePath
  datasourceId := chain.map (·.datasourceId)
  snapshotId := chain.map (·.snapshotId)
  scanVersion := chain.map (·.scanVersion)
  sheets := (plan.elim [] (·.sheets)).map (·.summary)
  warnings := plan.elim [] (·.warnings)
  errorCode := errorCode

/-- `_result` -/
def result (m : ExcelManifest) : ExcelImportResult where
  importId := m.importId
  workspaceId := m.workspaceId
  datasourceId := m.datasourceId.getD ""
  snapshotId := m.snapshotId.getD ""
  scanVersion := m.scanVersion.getD 0
  status := m.status
  originalFilename := m.originalFilename
  fileSha256 := m.fileSha256
  sqlitePath := m.sqlitePath.getD (service.sqlitePath workbook request.workspaceId)
  artifactDirectory := service.directory workbook request.workspaceId
  manifestPath := service.directory workbook request.workspaceId ++ "/manifest.json"
  policyVersion := m.policyVersion
  neo4jPublicationVerified := true
  sheets := m.sheets
  warnings := m.warnings

/-! ## The managed artifact -/

/-- `_read_manifest`: a file that cannot be read counts as missing. -/
def readManifest : Prog (Option ExcelManifest) := do
  match ← ask .fault with
  | some _ => do
    Program.atomic fun w => .ok ({ w with misread := true }, ())
    return none
  | none => Program.atomic fun w => .ok (w, w.manifest)

/-- `is_file` of `data.sqlite3` -/
def sqliteIsFile : Prog Bool := Program.atomic fun w => .ok (w, w.sqlite.isSome)

/-- `_write_source` -/
def writeSource : Prog Unit :=
  write fun w => if w.source = some workbook.fileSha256 then w else { w with source := some workbook.fileSha256 }

/-- `is_finalized`: the artifact is there, intact, and holds the expected tables. -/
def isFinalized (tableNames : List String) : Prog Bool := do
  let intact ← ask .integrity
  Program.atomic fun w => .ok (w, intact && w.sqlite.any fun found =>
    found.all (· ∈ tableNames) && tableNames.all (· ∈ found))

/-- `_materialize` -/
def materialize (plan : WorkbookPlan) : Prog Unit := do
  if ← isFinalized plan.tableNames then return ()
  let written : Except Failure Unit ← ask .materialize
  ofExcept written
  Program.atomic fun w => .ok ({ w with sqlite := some plan.tableNames }, ())

/-- `_record_failure`; a manifest that cannot be written is left as it is. -/
def recordFailure (createdAt : Scan.Instant) (plan : Option WorkbookPlan) (chain : Option Chain)
    (code : ExcelErrorCode) : Prog Unit := do
  let written ← sqliteIsFile
  let sqlitePath := if written then some (service.sqlitePath workbook request.workspaceId) else none
  let failed := service.manifest workbook request filename .failed createdAt plan sqlitePath chain
    (some code)
  match ← ask .fault with
  | some _ => return ()
  | none => Program.atomic fun w => .ok ({ w with manifest := some failed }, ())

/-- `except ExcelIngestionError as error: self._record_failure(…); raise` -/
def recording {α : Type} (createdAt : Scan.Instant) (plan : Option WorkbookPlan) (chain : Option Chain)
    (p : Prog α) : Prog α := do
  match ← attempt p with
  | .ok a => return a
  | .error (.excel code message) => do
    service.recordFailure workbook request filename createdAt plan chain code
    .throw (.excel code message)
  | .error (.other e) => .throw (.other e)

/-! ## Reading the chain -/

def getDatasource (id : String) : Prog Scan.Datasource :=
  readCall fun w => (w.at id).catalog.getDatasource.map fun x => x.2.1

/-- `_is_ready` -/
def isReady (id : String) : Prog Bool := do
  let datasource ← getDatasource id
  return datasource.status = .ready

/-- `_active_snapshot` -/
def activeSnapshot (id : String) : Prog (Option Scan.ScanSnapshot) := do
  if id = "" then return none
  match ← attempt (isReady id) with
  | .error (.other e) => if e.typeName = "KeyError" then return none else .throw (.other e)
  | .error e => .throw e
  | .ok ready =>
    if ready then readCall fun w => .ok (w.at id).catalog.getActiveSnapshot else return none

/-- `_verify_publication` -/
def verifyPublication (id : String) (scanVersion : Nat) : Prog Unit := do
  match ← ask .graphReader with
  | .missing => .throw (.excel .scanFailed
      "Neo4j 图发布校验失败：未配置可验证的图读取后端，无法确认本次导入已发布")
  | .unavailable message => .throw (.excel .scanFailed ("Neo4j 图发布校验失败：" ++ message))
  | .fails e => .throw (.other e)
  | .reads => do
    let published ← readCall fun w => .ok ((w.at id).graph.map (·.scanVersion))
    if published = some scanVersion then return ()
    else .throw (.excel .scanFailed
      "Neo4j 图发布校验失败：发布的数据源或 scan_version 与快照不一致")

/-! ## Idempotency -/

/-- The checks of `_reusable_import` on the record alone. -/
def reusable (m : ExcelManifest) : Bool :=
  m.status = .ready ∧ m.fileSha256 = workbook.fileSha256 ∧ m.policyVersion = service.policyVersion ∧
    m.workspaceId = request.workspaceId ∧ m.datasourceId.isSome

/-- `_reusable_import` -/
def reusableImport : Prog (Option ExcelImportResult) := do
  match ← readManifest with
  | none => return none
  | some m =>
    if service.reusable workbook request m then
      if ← sqliteIsFile then
        let id := m.datasourceId.getD ""
        match ← activeSnapshot id with
        | none => return none
        | some snapshot =>
          if m.scanVersion = some snapshot.version then do
            verifyPublication id snapshot.version
            return some (service.result workbook request m)
          else return none
      else return none
    else return none

/-! ## The existing chain -/

/-- `endpoint.path` of a stored profile -/
def endpointPath (profile : Scan.ConnectionProfile) : Option String :=
  match (profile.document.get? "endpoint").bind (·.get? "path") with
  | some (.str path) => some path
  | _ => none

/-- The profile of a file. -/
def sqliteProfile (path : String) : Scan.ConnectionProfile where
  driver := "sqlite"
  document := .obj [("driver", .str "sqlite"), ("endpoint", .obj [("path", .str path)]),
    ("authentication", .obj [("method", .str "none")])]

/-- The stored profile points at the managed file. -/
def pointsAt (target : String) (profile : Option Scan.ConnectionProfile) : Bool :=
  (profile.bind endpointPath).any fun path => path ≠ "" && service.resolve path = target

/-- The loop of `_existing_datasource_id`. -/
def findDatasource (target : String) : List Scan.Datasource → Prog (Option String)
  | [] => return none
  | datasource :: datasources =>
    if datasource.driver = some "sqlite" then do
      let profile ← readCall fun w => (w.at datasource.id).catalog.getConnectionProfile.map (·.2)
      if service.pointsAt target profile then return some datasource.id
      else findDatasource target datasources
    else findDatasource target datasources

/-- A row of `list_datasources`. -/
def listed (workspaceId : String) (d : Scan.World) : Option Scan.Datasource :=
  match d.catalog.getDatasource with
  | .ok (_, datasource, _) => if datasource.workspaceId = workspaceId then some datasource else none
  | .error _ => none

/-- `_existing_datasource_id`: a catalog that cannot be listed counts as empty. -/
def existingDatasourceId : Prog (Option String) := do
  match ← ask .fault with
  | some _ => do
    Program.atomic fun w => .ok ({ w with misread := true }, ())
    return none
  | none => do
    let datasources ← Program.atomic fun w =>
      .ok (w, w.datasources.filterMap (listed request.workspaceId))
    service.findDatasource (service.resolve (service.sqlitePath workbook request.workspaceId)) datasources

/-- `_datasource_name` -/
def datasourceName : String :=
  let candidate := match request.datasourceName with
    | some name => if name = "" then "Excel: " ++ filename else name
    | none => "Excel: " ++ filename
  if service.clip candidate = "" then "Excel import" else service.clip candidate

/-- `_insert_datasource`; the identifier and the name within the workspace are unique. -/
def insertDatasource (id name workspaceId : String) (profile : Scan.ConnectionProfile) :
    Transaction World Scan.Failure Unit := fun w =>
  if w.datasources.any (hasId id) then .error (.integrityError "datasource.id")
  else if w.datasources.any fun d =>
      d.catalog.datasource.any fun row => row.workspaceId = workspaceId && row.name = name then
    .error (.integrityError "datasource.name")
  else
    let row : DatasourceRow :=
      { id, name, kind := .relational, workspaceId, connection := .secure profile }
    .ok ({ w with datasources := w.datasources ++ [{ catalog := { datasource := some row } }] }, ())

/-- `create_secure_datasource`: the connection is tested, then the datasource is stored. -/
def createSecureDatasource (name workspaceId : String) (profile : Scan.ConnectionProfile) :
    Prog String := do
  let tested : Except Scan.Failure Unit ← ask (.testConnection profile)
  ofExcept (tested.mapError .other)
  let uuid ← ask .uuid
  storeCall (insertDatasource ("ds_" ++ uuid) name workspaceId profile)
  return "ds_" ++ uuid

/-- `_create_datasource` -/
def createDatasource : Prog String := do
  match ← attempt (createSecureDatasource (service.datasourceName request filename) request.workspaceId
      (sqliteProfile (service.sqlitePath workbook request.workspaceId))) with
  | .ok id => return id
  | .error (.excel code message) => .throw (.excel code message)
  | .error (.other e) => .throw (.excel .datasourceCreationFailed (service.safeError e))

/-- `initialize_datasource`, on the rows of the datasource. -/
def initializeDatasource (id : String) : Prog Scan.InitializationJob :=
  Program.embed (World.at · id) (World.put id) Question.scan (fun _ r => r) Failure.other
    (Scan.initialize_ service.generateDocuments id {})

/-- The value of a scan status. -/
def scanStatusValue : Scan.ScanStatus → String
  | .created => "created"
  | .verifying => "verifying"
  | .connectionVerified => "connection_verified"
  | .scanning => "scanning"
  | .profiling => "profiling"
  | .ready => "ready"
  | .connectionFailed => "connection_failed"
  | .scanFailed => "scan_failed"
  | .profileFailed => "profile_failed"
  | .stale => "stale"

/-- The datasource is scanned; anything but a finished scan is an error of the import. -/
def initializeOrFail (id : String) : Prog Unit := do
  let job ← service.initializeDatasource id
  if job.status ≠ .ready then
    .throw (.excel .scanFailed ("数据源初始化未完成（" ++ scanStatusValue job.status ++ "）"))

/-- The datasource of the import, and whether it has to be scanned. -/
def chooseDatasource (retry : Bool) : Prog (String × Bool) := do
  match ← service.existingDatasourceId workbook request with
  | none => do
    let id ← service.createDatasource workbook request filename
    return (id, true)
  | some id => do
    if retry then return (id, true)
    let snapshot ← activeSnapshot id
    return (id, snapshot.isNone)

/-- `_ensure_scan` -/
def ensureScan (retry : Bool) : Prog Chain := do
  let (id, shouldInitialize) ← service.chooseDatasource workbook request filename retry
  if shouldInitialize then service.initializeOrFail id
  match ← activeSnapshot id with
  | none => .throw (.excel .scanFailed "未产生 READY 的活跃 ScanSnapshot")
  | some snapshot => do
    if snapshot.status ≠ .ready then
      .throw (.excel .scanFailed "未产生 READY 的活跃 ScanSnapshot")
    if ← isReady id then return { datasourceId := id, snapshotId := snapshot.id, scanVersion := snapshot.version }
    else .throw (.excel .scanFailed "数据源未进入 READY 状态")

/-! ## The import -/

/-- What `import_excel` does when there is nothing to reuse. -/
def importFresh : Prog ExcelImportResult := do
  ofExcept (workbook.readContainer filename)
  let previous ← readManifest
  let now ← ask .clock
  let createdAt := previous.elim now (·.createdAt)
  -- the directory is made private level by level, which may fail
  write fun w => w
  writeSource workbook
  let plan ← service.recording workbook request filename createdAt none none (ofExcept workbook.validate)
  service.recording workbook request filename createdAt (some plan) none (materialize plan)
  let chain ← service.recording workbook request filename createdAt (some plan) none
    (service.ensureScan workbook request filename previous.isSome)
  service.recording workbook request filename createdAt (some plan) (some chain)
    (verifyPublication chain.datasourceId chain.scanVersion)
  let ready := service.manifest workbook request filename .ready createdAt (some plan)
    (some (service.sqlitePath workbook request.workspaceId)) (some chain) none
  write fun w => { w with manifest := some ready }
  return service.result workbook request ready

/-- `import_excel` of a file with these bytes. -/
def importExcel : Prog ExcelImportResult := do
  match ← ask .fault with
  | some _ => .throw (.excel .invalidContainer "待导入文件无法读取")
  | none =>
    match ← service.reusableImport workbook request with
    | some existing => return existing
    | none => service.importFresh workbook request filename

end ExcelIngestionService

end Ingestion
