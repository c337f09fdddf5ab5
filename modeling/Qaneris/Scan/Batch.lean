import Mathlib.Algebra.Ring.Nat
import Qaneris.Graph.Reading
import Qaneris.Infra.Except
import Qaneris.Scan.Contracts

/-!
# Batch scans

`MultiDatabaseScanRunner.scan`: every request of a batch is tested, saved and scanned, and one failure
does not stop the rest. What the calls of a member answer, or raise, is given with the member. The files
of the report are always written here.
-/

namespace Scan

open Infra

/-! ## What is asked for and what is reported -/

/-- What the runner reads of a `SecureDatasourceCreate`. -/
structure ScanRequest where
  name : String
  driver : String
  kind : String
  workspaceId : String
  deriving DecidableEq, Repr

/-- `status` of a test, a scan, a validation or a run. -/
inductive Outcome where
  | passed
  | failed
  | notRun
  | running
  deriving DecidableEq, Repr

structure ConnectionTestResult where
  name : String
  driver : String
  workspaceId : String
  status : Outcome
  error : Option String := none
  deriving DecidableEq, Repr

/-- `expected` and `actual` of a validation. -/
structure GraphCounts where
  datasourceId : Option String
  scanVersion : Option Int
  objects : Nat
  fields : Nat
  relationships : Nat
  deriving DecidableEq, Repr

structure Neo4jValidation where
  status : Outcome
  checks : List (String × Bool) := []
  expected : GraphCounts
  actual : Option GraphCounts := none
  error : Option String := none
  deriving DecidableEq, Repr

structure ScanRunMember where
  name : String
  driver : String
  kind : String
  workspaceId : String
  status : Outcome
  connectionStatus : Outcome
  scanStatus : Outcome
  datasourceId : Option String := none
  snapshotId : Option String := none
  scanVersion : Option Nat := none
  objects : Nat := 0
  fields : Nat := 0
  indexes : Nat := 0
  constraints : Nat := 0
  relationships : Nat := 0
  documentStatus : Option DocumentStatus := none
  documentPath : Option String := none
  neo4jStatus : Outcome := .notRun
  neo4jValidation : Option Neo4jValidation := none
  error : Option String := none
  warnings : List String := []
  deriving DecidableEq, Repr

structure ScanRunSummary where
  configuredDatasources : Nat
  connectionPassed : Nat
  scanPassed : Nat
  scanFailed : Nat
  totalDataObjects : Nat
  totalFields : Nat
  totalIndexes : Nat
  totalConstraints : Nat
  totalRelationships : Nat
  deriving DecidableEq, Repr

structure ScanRunInfo where
  runId : String
  workspaceId : String
  startedAt : Instant
  completedAt : Option Instant := none
  status : Outcome
  configSource : String
  deriving DecidableEq, Repr

structure ScanRunReport where
  run : ScanRunInfo
  summary : ScanRunSummary
  datasources : List ScanRunMember := []
  neo4jValidation : List (String × Neo4jValidation) := []
  warnings : List String := []
  failures : List (String × String) := []
  deriving DecidableEq, Repr

/-! ## What the calls answer -/

/-- What is asked of the reader of the graph. -/
structure GraphStructureRequest where
  workspaceId : String
  datasourceId : String
  maxDataObjects : Nat
  maxFields : Nat
  maxRelationships : Nat
  deriving DecidableEq, Repr

/-- What `create_secure_datasource` does: it raises before anything is stored, or it stores a row, and
may still raise after that. -/
inductive Creating where
  | refused (e : Failure)
  | stored (id : String) (e : Option Failure)

/-- What the calls for one member answer or raise. -/
structure Answers where
  connection : Except Failure Unit
  creating : Creating
  scanned : Except Failure Unit
  status : Except Failure DatasourceStatus
  snapshot : Except Failure (Option ScanSnapshot)
  datasets : Except Failure (List DatasetInfo)
  relations : Except Failure (List RelationInfo)
  /-- `get_datasource` of the validator. -/
  workspace : Except Failure String
  structure_ : GraphStructureRequest → Except Failure Graph.GraphStructure
  /-- Whether `list_datasources` raises. -/
  listing : Except Failure Unit

/-- A row of `datasource`, and the request of this run that it was created by. -/
structure CreatedRow where
  id : String
  name : String
  workspaceId : String
  owner : Option Nat := none
  deriving DecidableEq, Repr

/-- What makes errors and documents into texts. -/
structure ReportTexts where
  /-- `safe_error(error)` -/
  safeError : Failure → String
  /-- `safe_error(error, secrets=...)` -/
  safeErrorOf : ScanRequest → Failure → String
  documentPath : String → String

def Failure.runtimeError (message : String) : Failure := ⟨"RuntimeError", message, false⟩

/-! ## Graph validation -/

namespace SnapshotGraphValidator

def expected (snapshot : ScanSnapshot) (datasets : List DatasetInfo) (relations : List RelationInfo) :
    GraphCounts where
  datasourceId := some snapshot.datasourceId
  scanVersion := some snapshot.version
  objects := datasets.length
  fields := (datasets.map fun item => item.fields.length).sum
  relationships := relations.length

/-- `nodes` -/
def nodes (snapshot : ScanSnapshot) (graph : Graph.GraphStructure) : List Graph.GraphDatasource :=
  graph.datasources.filter fun item => item.datasourceId = snapshot.datasourceId

def actual (snapshot : ScanSnapshot) (graph : Graph.GraphStructure) : GraphCounts where
  datasourceId :=
    match nodes snapshot graph with
    | [node] => some node.datasourceId
    | _ => none
  scanVersion :=
    match nodes snapshot graph with
    | [node] => node.scanVersion
    | _ => none
  objects := graph.dataObjects.length
  fields := graph.fields.length
  relationships := graph.relationships.length

def checks (snapshot : ScanSnapshot) (expected : GraphCounts) (graph : Graph.GraphStructure) :
    List (String × Bool) :=
  let actual := actual snapshot graph
  [("database_node_exists", (nodes snapshot graph).length = 1),
    ("datasource_id_matches", actual.datasourceId = expected.datasourceId),
    ("scan_version_matches", actual.scanVersion = expected.scanVersion),
    ("data_object_count_matches", actual.objects = expected.objects),
    ("field_count_matches", actual.fields = expected.fields),
    ("relationship_count_matches", actual.relationships = expected.relationships),
    ("active_snapshot_matches",
      snapshot.active && snapshot.status = .ready && actual.scanVersion = some (snapshot.version : Int)),
    ("graph_read_not_truncated", !graph.truncated)]

/-- What the validator asks of the graph. -/
def request (workspaceId : String) (expected : GraphCounts) (snapshot : ScanSnapshot) :
    GraphStructureRequest where
  workspaceId := workspaceId
  datasourceId := snapshot.datasourceId
  maxDataObjects := max 1 (min (expected.objects + 1) 2000)
  maxFields := max 1 (min (expected.fields + 1) 20000)
  maxRelationships := max 1 (min (expected.relationships + 1) 2000)

/-- `validate` -/
def validate (t : ReportTexts) (answers : Answers) (snapshot : ScanSnapshot)
    (datasets : List DatasetInfo) (relations : List RelationInfo) : Neo4jValidation :=
  let expected := expected snapshot datasets relations
  match (do
    let workspaceId ← answers.workspace
    answers.structure_ (request workspaceId expected snapshot)) with
  | .ok graph =>
    let checks := checks snapshot expected graph
    { status := if checks.all (·.2) then .passed else .failed
      checks := checks
      expected := expected
      actual := some (actual snapshot graph) }
  | .error e => { status := .failed, expected := expected, error := some (t.safeError e) }

end SnapshotGraphValidator

/-! ## The runner -/

namespace MultiDatabaseScanRunner

variable (t : ReportTexts)

/-- `_test_connection` -/
def testConnection (request : ScanRequest) (answers : Answers) : ConnectionTestResult :=
  match answers.connection with
  | .ok _ =>
    { name := request.name, driver := request.driver, workspaceId := request.workspaceId,
      status := .passed }
  | .error e =>
    { name := request.name, driver := request.driver, workspaceId := request.workspaceId,
      status := .failed, error := some (t.safeErrorOf request e) }

/-- `error or "scan could not start"` -/
def errorText (error : Option String) : String :=
  match error with
  | some text => if text = "" then "scan could not start" else text
  | none => "scan could not start"

/-- `_blocked_member` -/
def blockedMember (request : ScanRequest) (connection : ConnectionTestResult) (error : Option String) :
    ScanRunMember where
  name := request.name
  driver := request.driver
  kind := request.kind
  workspaceId := request.workspaceId
  status := .failed
  connectionStatus := connection.status
  scanStatus := .notRun
  error := some (errorText error)

/-- `service.create_secure_datasource`, for the request of this place in the batch. The identifiers of
the table are distinct. -/
def create (index : Nat) (request : ScanRequest) (creating : Creating) (rows : List CreatedRow) :
    List CreatedRow × Except Failure String :=
  match creating with
  | .refused e => (rows, .error e)
  | .stored id e =>
    if ∃ row ∈ rows, row.id = id then
      (rows, .error (.integrityError "UNIQUE constraint failed: datasource.id"))
    else
      (rows ++ [⟨id, request.name, request.workspaceId, some index⟩],
        match e with
        | some e => .error e
        | none => .ok id)

/-- What the scan of a saved datasource finds. -/
structure Found where
  snapshot : ScanSnapshot
  datasets : List DatasetInfo
  relations : List RelationInfo

/-- The calls of `_scan_one` after the datasource was saved. -/
def find (answers : Answers) : Except Failure Found := do
  answers.scanned
  let status ← answers.status
  if status ≠ .ready then
    .error (.runtimeError "initialization did not commit a READY datasource")
  else
    match ← answers.snapshot with
    | none => .error (.runtimeError "READY datasource has no active ScanSnapshot")
    | some snapshot => do
      let datasets ← answers.datasets
      let relations ← answers.relations
      return ⟨snapshot, datasets, relations⟩

/-- The member as it stands before any call. -/
def freshMember (request : ScanRequest) : ScanRunMember where
  name := request.name
  driver := request.driver
  kind := request.kind
  workspaceId := request.workspaceId
  status := .failed
  connectionStatus := .passed
  scanStatus := .failed

/-- `member.error` of a member that was scanned and failed. -/
def failures (validation : Neo4jValidation) (documentReady : Bool) : List String :=
  (if validation.status ≠ .passed then ["Neo4j validation failed"] else []) ++
    if documentReady then [] else ["profile document is not ready"]

/-- The member of a datasource that was scanned. -/
def scannedMember (request : ScanRequest) (answers : Answers) (id : String) (found : Found) :
    ScanRunMember :=
  let validation :=
    SnapshotGraphValidator.validate t answers found.snapshot found.datasets found.relations
  let documentReady := found.snapshot.documentStatus = .ready
  let passed := validation.status = .passed ∧ documentReady
  { freshMember request with
    datasourceId := some id
    snapshotId := some found.snapshot.id
    scanVersion := some found.snapshot.version
    scanStatus := .passed
    objects := found.datasets.length
    fields := (found.datasets.map fun item => item.fields.length).sum
    indexes := (found.datasets.map fun item => item.indexes.length).sum
    constraints := (found.datasets.map fun item => item.constraints.length).sum
    relationships := found.relations.length
    documentStatus := some found.snapshot.documentStatus
    documentPath := (found.snapshot.documentPath.filter (· ≠ "")).map t.documentPath
    warnings := found.snapshot.warnings
    neo4jValidation := some validation
    neo4jStatus := validation.status
    status := if passed then .passed else .failed
    error := if passed then none else some ("; ".intercalate (failures validation documentReady)) }

/-- `matches` in `_scan_one` -/
def named (request : ScanRequest) (rows : List CreatedRow) : List CreatedRow :=
  rows.filter fun row => row.workspaceId = request.workspaceId ∧ row.name = request.name

/-- The handler of `_scan_one`. It lists the datasources, which may raise again. -/
def failedMember (request : ScanRequest) (answers : Answers) (rows : List CreatedRow)
    (datasourceId : Option String) (e : Failure) : Except Failure ScanRunMember := do
  answers.listing
  return { freshMember request with
    datasourceId :=
      match named request rows with
      | [row] => some row.id
      | _ => datasourceId
    error := some (t.safeError e) }

/-- `_scan_one` -/
def scanOne (index : Nat) (request : ScanRequest) (answers : Answers) (rows : List CreatedRow) :
    List CreatedRow × Except Failure ScanRunMember :=
  let (rows, created) := create index request answers.creating rows
  (rows,
    match created with
    | .error e => failedMember t request answers rows none e
    | .ok id =>
      match find answers with
      | .error e => failedMember t request answers rows (some id) e
      | .ok found => .ok (scannedMember t request answers id found))

/-- `_summary` -/
def summary (members : List ScanRunMember) (configured : Nat) : ScanRunSummary where
  configuredDatasources := configured
  connectionPassed := members.countP (·.connectionStatus = .passed)
  scanPassed := members.countP (·.status = .passed)
  scanFailed := members.countP (·.status = .failed)
  totalDataObjects := (members.map (·.objects)).sum
  totalFields := (members.map (·.fields)).sum
  totalIndexes := (members.map (·.indexes)).sum
  totalConstraints := (members.map (·.constraints)).sum
  totalRelationships := (members.map (·.relationships)).sum

/-- `status` as a text. -/
def Outcome.text : Outcome → String
  | .passed => "passed"
  | .failed => "failed"
  | .notRun => "not_run"
  | .running => "running"

/-- `_refresh` -/
def refresh (report : ScanRunReport) : ScanRunReport :=
  { report with
    summary := summary report.datasources report.summary.configuredDatasources
    neo4jValidation := report.datasources.filterMap fun member =>
      member.neo4jValidation.map fun validation => (member.name, validation)
    warnings := report.datasources.flatMap fun member =>
      member.warnings.map fun warning => member.name ++ ": " ++ warning
    failures := (report.datasources.filter (·.status ≠ .passed)).map fun member =>
      (member.name, (member.error.filter (· ≠ "")).getD (Outcome.text member.status)) }

/-- `_complete` -/
def complete (now : Instant) (report : ScanRunReport) : ScanRunReport :=
  let report := refresh report
  { report with
    run := { report.run with
      completedAt := some now
      status := if report.summary.scanPassed = report.summary.configuredDatasources then .passed
        else .failed } }

/-- The report with one more member. -/
def append (report : ScanRunReport) (member : ScanRunMember) : ScanRunReport :=
  { report with datasources := report.datasources ++ [member] }

/-- The loop over the requests and the results of their tests. -/
def scanAll : List (ScanRequest × Answers) → ScanRunReport → List CreatedRow →
    List CreatedRow × Except Failure ScanRunReport
  | [], report, rows => (rows, .ok report)
  | (request, answers) :: items, report, rows =>
    let connection := testConnection t request answers
    let (rows, member) :=
      if connection.status ≠ .passed then
        (rows, .ok (blockedMember request connection connection.error))
      else scanOne t report.datasources.length request answers rows
    match member with
    | .error e => (rows, .error e)
    | .ok member => scanAll items (refresh (append report member)) rows

/-- `_workspace_id` -/
def workspaceId (requests : List ScanRequest) : Except Failure String :=
  match requests with
  | [] => .error ⟨"ScanRunConfigurationError", "at least one datasource is required", false⟩
  | request :: requests =>
    if ∀ other ∈ requests, other.workspaceId = request.workspaceId then .ok request.workspaceId
    else
      let workspaces := ((request :: requests).map (·.workspaceId)).eraseDups
      .error ⟨"ScanRunConfigurationError", "one ScanRun cannot span multiple workspaces: " ++
        ", ".intercalate (workspaces.mergeSort (· ≤ ·)), false⟩

/-- What the clock and the caller give to a run. -/
structure RunInfo where
  runId : String
  startedAt : Instant
  completedAt : Instant
  configSource : String

/-- The report before the first member. -/
def begin_ (info : RunInfo) (workspace : String) (configured : Nat) : ScanRunReport where
  run :=
    { runId := info.runId, workspaceId := workspace, startedAt := info.startedAt,
      status := .running, configSource := info.configSource }
  summary := summary [] configured

/-- `scan`: the rows of the catalog after it, and the report or what is raised. `opened` is what building
the service raises. -/
def scan (info : RunInfo) (opened : Except Failure Unit) (items : List (ScanRequest × Answers))
    (rows : List CreatedRow) : List CreatedRow × Except Failure ScanRunReport :=
  match workspaceId (items.map Prod.fst) with
  | .error e => (rows, .error e)
  | .ok workspace =>
    let report := begin_ info workspace items.length
    match opened with
    | .error e =>
      let members := items.map fun item => blockedMember item.1 (testConnection t item.1 item.2)
        (some (t.safeError e))
      (rows, .ok (complete info.completedAt { report with datasources := members }))
    | .ok _ =>
      let (rows, report) := scanAll t items report rows
      (rows, report.map (complete info.completedAt))

end MultiDatabaseScanRunner

end Scan
