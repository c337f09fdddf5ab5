import Qaneris.Infra.Program
import Qaneris.Scan.Builder
import Qaneris.Scan.Catalog

/-!
# Scanning a datasource and changing its connection

`DatabaseInitializer.initialize` and `QanerisService.update_secure_datasource` as programs over the
two stores they write: the catalog and the published graph. Each call to a store is one indivisible
step that may fail; everything else a program reads comes from outside.

The state also keeps a log that no program reads. It says what the proofs talk about: when a scan
chose its version, what it published, and when it was committed.
-/

namespace Scan

open Infra (Json Program Transaction)
open Infra.Program (attempt ofExcept atomic)

/-! ## State and questions -/

inductive Event where
  /-- A scan chose the version of its snapshot. -/
  | versionRead
  /-- A scan published its graph; it had read its version when the log had `readAt` entries. -/
  | published (readAt : Nat) (graph : ScanGraph)
  /-- A scan through `opened` was committed while `stored` was the stored connection. -/
  | committed (opened : StoredConnection) (stored : Option StoredConnection) (snapshot : ScanSnapshot)
  deriving DecidableEq

/-- The catalog rows of the datasource, its published graph, and the log. -/
structure World where
  catalog : Catalog
  graph : Option ScanGraph := none
  log : List Event := []

/-- What a program asks: whether the call to a store fails, the clock, a fresh identifier, the
datasource itself, and the parts of the pipeline that only read. -/
inductive Question where
  | fault
  | clock
  | uuid
  | openConnection (connection : StoredConnection)
  | createAdapter (datasource : Datasource) (connection : StoredConnection)
  | testConnection
  | scanMetadata
  | scanRelations
  | scanSamples (datasets : List DatasetInfo) (limit : Nat)
  | scanProfileRecords (datasets : List DatasetInfo) (limit : Nat)
  | buildProfile
  | ensureSchema
  | writeDocuments (snapshot : ScanSnapshot)
  | cleanupSecrets (previous candidate : ConnectionProfile)

abbrev Answer : Question → Type
  | .fault => Option Failure
  | .clock => Instant
  | .uuid => String
  | .openConnection _ | .createAdapter _ _ | .testConnection | .ensureSchema => Except Failure Unit
  | .scanMetadata => Except Failure (List DatasetInfo)
  | .scanRelations => Except Failure (List RelationInfo)
  | .scanSamples _ _ => Except Failure (List DatasetSample)
  | .scanProfileRecords _ _ => Except Failure (List Json)
  | .buildProfile => Except Failure (Json × List Json)
  | .writeDocuments _ => Except Failure String
  | .cleanupSecrets _ _ => Unit

abbrev Prog := Program World Answer Failure

def ask (q : Question) : Prog (Answer q) :=
  Program.ask q

/-- A question whose answer may be an error, which is raised. -/
def askOk {α : Type} (q : Question) (h : Answer q = Except Failure α) : Prog α :=
  ask q >>= fun answer => ofExcept (cast h answer)

/-- A call to a store: it fails for a reason of its own, or it is one transaction. -/
def storeCall {α : Type} (tx : Transaction World Failure α) : Prog α :=
  ask .fault >>= fun
    | some e => .throw e
    | none => atomic tx

/-- `except … as error: raise f(error) from error` -/
def reraise {α : Type} (f : Failure → Failure) (p : Prog α) : Prog α := do
  match ← attempt p with
  | .ok a => return a
  | .error e => .throw (f e)

/-- A transaction of the catalog. -/
def onCatalog {α : Type} (tx : Catalog → Except Failure (Catalog × α)) :
    Transaction World Failure α :=
  fun w => do
    let (catalog, a) ← tx w.catalog
    return ({ w with catalog }, a)

def catalogCall {α : Type} (tx : Catalog → Except Failure (Catalog × α)) : Prog α :=
  storeCall (onCatalog tx)

/-! ## The calls that the log records -/

/-- `catalog.next_snapshot_version`, with the place of the call in the log. -/
def readVersion : Transaction World Failure (Nat × Nat) := fun w =>
  .ok ({ w with log := w.log ++ [.versionRead] }, w.catalog.nextSnapshotVersion, w.log.length)

/-- `graph_store.replace_datasource_graph`: the nodes and edges of the datasource are replaced. -/
def replaceDatasourceGraph (readAt : Nat) (graph : ScanGraph) : Transaction World Failure Unit :=
  fun w => .ok ({ w with graph := some graph, log := w.log ++ [.published readAt graph] }, ())

def deleteDatasourceGraph : Transaction World Failure Unit := fun w =>
  .ok ({ w with graph := none }, ())

def World.stored (w : World) : Option StoredConnection :=
  w.catalog.datasource.map DatasourceRow.connection

/-- `catalog.commit_scan_snapshot` of a scan through `opened`. -/
def commitSnapshot (opened : StoredConnection) (snapshot : ScanSnapshot)
    (datasets : List DatasetInfo) (relations : List RelationInfo) (samples : List DatasetSample) :
    Transaction World Failure Unit := fun w => do
  let (catalog, _) ← w.catalog.commitScanSnapshot snapshot datasets relations samples
  return ({ w with catalog, log := w.log ++ [.committed opened w.stored snapshot] }, ())

/-! ## One scan -/

def updateJob (job : InitializationJob) (status : ScanStatus) (snapshotId : Option String)
    (error : Option Failure) : Prog InitializationJob := do
  let now ← ask .clock
  catalogCall fun c =>
    c.updateInitializationJob job.id status now snapshotId (error.map Failure.typeName)

def verify (job : InitializationJob) : Prog Unit := do
  let _ ← updateJob job .verifying none none
  askOk .testConnection rfl
  let _ ← updateJob job .connectionVerified none none

/-- What the adapter reports of the datasource. -/
structure Scanned where
  datasets : List DatasetInfo
  relations : List RelationInfo
  previews : List DatasetSample
  profileRecords : List Json

def scan (job : InitializationJob) : Prog Scanned := do
  let _ ← updateJob job .scanning none none
  let datasets ← askOk .scanMetadata rfl
  let relations ← askOk .scanRelations rfl
  let previews ← askOk (.scanSamples datasets job.policy.previewSize) rfl
  let profileRecords ← askOk (.scanProfileRecords datasets job.policy.profileSize) rfl
  return { datasets, relations, previews, profileRecords }

def documentFailureWarning : String := "画像文档生成失败，可在扫描快照上单独重试"

/-- A document that cannot be written is a warning on the snapshot. -/
def writeProfileDocuments (snapshot : ScanSnapshot) : Prog ScanSnapshot := do
  let written : Except Failure String ← ask (.writeDocuments snapshot)
  match written with
  | .ok path =>
    return { snapshot with
      documentPath := some path, documentStatus := .ready, documentError := none
      warnings := snapshot.warnings.filter (· ≠ documentFailureWarning) }
  | .error e =>
    return { snapshot with
      documentStatus := .failed, documentPath := none
      documentError := some (e.typeName ++ ": " ++ e.message)
      warnings := if documentFailureWarning ∈ snapshot.warnings then snapshot.warnings
        else snapshot.warnings ++ [documentFailureWarning] }

/-- `if self.generate_profile_documents: self._write_profile_documents(…)` -/
def documented (generateDocuments : Bool) (snapshot : ScanSnapshot) : Prog ScanSnapshot :=
  if generateDocuments then writeProfileDocuments snapshot else pure snapshot

def makeSnapshot (job : InitializationJob) (datasource : Datasource) (uuid : String) (version : Nat)
    (profile : Json) (relationships : List Json) (now : Instant) : ScanSnapshot :=
  { id := "snap_" ++ uuid, datasourceId := datasource.id, version, status := .ready
    policy := job.policy, profile := some profile, relationships, startedAt := job.createdAt
    completedAt := some now, active := true }

/-- The version is chosen, the graph is published, the snapshot is committed. -/
def publish (generateDocuments : Bool) (job : InitializationJob) (datasource : Datasource)
    (opened : StoredConnection) (scanned : Scanned) : Prog InitializationJob := do
  let _ ← updateJob job .profiling none none
  let (profile, relationships) ← askOk .buildProfile rfl
  let now ← ask .clock
  let uuid ← ask .uuid
  let (version, readAt) ← storeCall readVersion
  let snapshot := makeSnapshot job datasource uuid version profile relationships now
  let graph ← ofExcept (build datasource scanned.datasets scanned.relations version now)
  ofExcept (validate graph)
  askOk .ensureSchema rfl
  storeCall (replaceDatasourceGraph readAt graph)
  let snapshot ← documented generateDocuments snapshot
  storeCall (commitSnapshot opened snapshot scanned.datasets scanned.relations scanned.previews)
  updateJob job .ready (some snapshot.id) none

/-- `connection_provider.open`: the connection the datasource is scanned through. -/
def openConnection : Prog StoredConnection := do
  let (_, legacy) ← catalogCall Catalog.getDatasource
  let profile ← catalogCall Catalog.getConnectionProfile
  let opened := (profile.map StoredConnection.secure).getD legacy
  askOk (.openConnection opened) rfl
  return opened

/-- `DatabaseInitializer._run` -/
def run (generateDocuments : Bool) (job : InitializationJob) : Prog InitializationJob := do
  let (datasource, _) ← catalogCall Catalog.getDatasource
  let opened ← openConnection
  askOk (.createAdapter datasource opened) rfl
  match ← attempt (verify job) with
  | .error e => updateJob job .connectionFailed none (some e)
  | .ok _ =>
    match ← attempt (scan job) with
    | .error e => updateJob job .scanFailed none (some e)
    | .ok scanned =>
      match ← attempt (publish generateDocuments job datasource opened scanned) with
      | .error e => updateJob job .profileFailed none (some e)
      | .ok job' => return job'

/-- `DatabaseInitializer.initialize` -/
def initialize_ (generateDocuments : Bool) (datasourceId : String) (policy : ScanPolicy) :
    Prog InitializationJob := do
  let now ← ask .clock
  let uuid ← ask .uuid
  let job ← catalogCall fun c => c.createInitializationJob ("job_" ++ uuid) datasourceId policy now
  run generateDocuments job

/-! ## One change of the connection -/

/-- An error that is not the application's own becomes one of the named class. -/
def wrapAs (typeName : String) (e : Failure) : Failure :=
  if e.isQanerisError then e else ⟨typeName, e.message, true⟩

/-- `_resolve_datasource` -/
def resolveDatasource : Prog Datasource :=
  reraise (fun e => if e.typeName = "KeyError" then ⟨"DatasourceNotFoundError", "数据源不存在", true⟩ else e) do
    let (datasource, _) ← catalogCall Catalog.getDatasource
    return datasource

/-- `_test_secure_connection` -/
def testSecureConnection (datasource : Datasource) (candidate : ConnectionProfile) : Prog Unit :=
  reraise (wrapAs "DatasourceConnectionTestError") do
    askOk (.openConnection (.secure candidate)) rfl
    askOk (.createAdapter datasource (.secure candidate)) rfl
    askOk .testConnection rfl

/-- `QanerisService.update_secure_datasource` -/
def updateSecureDatasource (candidate : ConnectionProfile) : Prog Datasource := do
  let datasource ← resolveDatasource
  match ← catalogCall Catalog.getConnectionProfile with
  | none => .throw (.secureProfileRequired "数据源不是受管安全数据源，无法更新连接配置")
  | some previous =>
    testSecureConnection datasource candidate
    reraise (fun e => ⟨"DatasourceUpdateError", "旧图删除失败，更新已中止：" ++ e.message, true⟩)
      (storeCall deleteDatasourceGraph)
    let updated ← reraise (wrapAs "DatasourceUpdateError") do
      let updated ← catalogCall fun c => c.updateSecureDatasource candidate
      catalogCall Catalog.invalidateDatasourceScan
      return updated
    let _ ← ask (.cleanupSecrets previous candidate)
    return updated

end Scan
