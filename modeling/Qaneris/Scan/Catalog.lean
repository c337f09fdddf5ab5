import Qaneris.Scan.Contracts

/-!
# The catalog rows of one datasource

Every statement below names one datasource, so the rows of that datasource are all the model keeps.
Each call is one transaction: it returns the new rows, or raises and leaves them as they were.

A document column holds the value that was dumped into it. Identifiers that a call draws at random
for its own rows are not read again, and are left out.
-/

namespace Scan

structure DatasourceRow where
  id : String
  name : String
  kind : DatasourceKind
  workspaceId : String
  connection : StoredConnection
  status : DatasourceStatus := .created
  deriving DecidableEq, Repr

/-- A row of `scan_snapshot`. -/
structure SnapshotRow where
  id : String
  version : Nat
  status : ScanStatus
  snapshot : ScanSnapshot
  active : Bool
  deriving DecidableEq, Repr

structure Catalog where
  datasource : Option DatasourceRow
  datasets : List DatasetInfo := []
  relations : List RelationInfo := []
  samples : List DatasetSample := []
  /-- The identifiers of the datasource's rows of `mapping`. -/
  mappings : List String := []
  jobs : List InitializationJob := []
  snapshots : List SnapshotRow := []
  deriving DecidableEq, Repr

namespace Catalog

/-! ## Reading -/

def missing : Failure := .keyError "Datasource not found"

def getDatasource (c : Catalog) : Except Failure (Catalog × Datasource × StoredConnection) :=
  match c.datasource with
  | none => .error missing
  | some row =>
    .ok (c, ⟨row.id, row.name, row.kind, row.workspaceId, row.connection.driver, row.status⟩,
      row.connection)

def getConnectionProfile (c : Catalog) : Except Failure (Catalog × Option ConnectionProfile) :=
  match c.datasource with
  | none => .error missing
  | some row => .ok (c, row.connection.profile)

/-- The row with `active = 1`. -/
def activeRow (c : Catalog) : Option SnapshotRow :=
  c.snapshots.find? SnapshotRow.active

def getActiveSnapshot (c : Catalog) : Option ScanSnapshot :=
  c.activeRow.map SnapshotRow.snapshot

def status (c : Catalog) : Option DatasourceStatus :=
  c.datasource.map DatasourceRow.status

/-- `SELECT COALESCE(MAX(version), 0) + 1` -/
def nextSnapshotVersion (c : Catalog) : Nat :=
  (c.snapshots.map SnapshotRow.version).foldr max 0 + 1

/-! ## Initialization jobs -/

def createInitializationJob (c : Catalog) (id datasourceId : String) (policy : ScanPolicy)
    (now : Instant) : Except Failure (Catalog × InitializationJob) :=
  match c.datasource with
  | none => .error missing
  | some _ =>
    if c.jobs.any (·.id = id) then .error (.integrityError "initialization_job.id")
    else
      let job : InitializationJob :=
        { id, datasourceId, policy, createdAt := now, updatedAt := now }
      .ok ({ c with jobs := c.jobs ++ [job] }, job)

def transitions : ScanStatus → List ScanStatus
  | .created => [.verifying]
  | .verifying => [.connectionVerified, .connectionFailed]
  | .connectionVerified => [.scanning]
  | .scanning => [.profiling, .scanFailed]
  | .profiling => [.ready, .profileFailed]
  | _ => []

def updateInitializationJob (c : Catalog) (jobId : String) (status : ScanStatus) (now : Instant)
    (snapshotId errorCode : Option String) : Except Failure (Catalog × InitializationJob) :=
  match c.jobs.find? (·.id = jobId) with
  | none => .error (.keyError "Initialization job not found")
  | some job =>
    if status ∉ transitions job.status then
      .error (.valueError "Invalid initialization transition")
    else
      let job' : InitializationJob := { job with
        status, snapshotId := snapshotId <|> job.snapshotId, errorCode, updatedAt := now }
      .ok ({ c with jobs := c.jobs.map fun j => if j.id = jobId then job' else j }, job')

/-! ## The scan result -/

def validateScanResult (datasourceId : String) (datasets : List DatasetInfo)
    (relations : List RelationInfo) (samples : List DatasetSample) : Except Failure Unit :=
  if datasets.any (·.datasourceId ≠ datasourceId) then
    .error (.valueError "All datasets must belong to the scanned datasource")
  else if relations.any (·.datasourceId ≠ datasourceId) then
    .error (.valueError "All relations must belong to the scanned datasource")
  else if samples.any (·.datasourceId ≠ datasourceId) then
    .error (.valueError "All samples must belong to the scanned datasource")
  else if samples.any fun sample => ¬ datasets.any (·.name = sample.dataset) then
    .error (.valueError "Every sample must reference a scanned dataset")
  else .ok ()

def deactivate (rows : List SnapshotRow) : List SnapshotRow :=
  rows.map fun row => { row with active := false }

def snapshotRow (snapshot : ScanSnapshot) : SnapshotRow :=
  ⟨snapshot.id, snapshot.version, snapshot.status, snapshot, true⟩

/-- `INSERT INTO scan_snapshot`; the identifier and the version are unique. -/
def SnapshotFree (rows : List SnapshotRow) (snapshot : ScanSnapshot) : Prop :=
  ∀ row ∈ rows, row.id ≠ snapshot.id ∧ row.version ≠ snapshot.version

instance (rows : List SnapshotRow) (snapshot : ScanSnapshot) :
    Decidable (SnapshotFree rows snapshot) :=
  inferInstanceAs (Decidable (∀ _ ∈ _, _))

def commitScanSnapshot (c : Catalog) (snapshot : ScanSnapshot) (datasets : List DatasetInfo)
    (relations : List RelationInfo) (samples : List DatasetSample) :
    Except Failure (Catalog × Unit) :=
  if ¬ snapshot.active ∨ snapshot.status ≠ .ready then
    .error (.valueError "Only an active ready snapshot can be committed")
  else
    match validateScanResult snapshot.datasourceId datasets relations samples with
    | .error e => .error e
    | .ok () =>
      if ¬ (datasets.map DatasetInfo.name).Nodup then .error (.integrityError "dataset.name")
      else if ¬ (samples.map DatasetSample.dataset).Nodup then
        .error (.integrityError "dataset_sample.dataset")
      else if ¬ SnapshotFree c.snapshots snapshot then .error (.integrityError "scan_snapshot")
      else
        match c.datasource with
        | none => .error missing
        | some row =>
          .ok ({ c with
            datasource := some { row with status := .ready }
            datasets, relations, samples
            snapshots := deactivate c.snapshots ++ [snapshotRow snapshot] }, ())

/-! ## Changing the connection -/

def updateSecureDatasource (c : Catalog) (profile : ConnectionProfile) :
    Except Failure (Catalog × Datasource) :=
  match c.datasource with
  | none => .error missing
  | some row =>
    if row.connection.profile.isNone then
      .error (.secureProfileRequired "datasource has no secure connection profile")
    else
      .ok ({ c with datasource := some { row with connection := .secure profile, status := .created } },
        ⟨row.id, row.name, row.kind, row.workspaceId, some profile.driver, .created⟩)

def invalidateDatasourceScan (c : Catalog) : Except Failure (Catalog × Unit) :=
  match c.datasource with
  | none => .error missing
  | some row =>
    .ok ({ c with
      datasource := some { row with status := .created }
      snapshots := deactivate c.snapshots
      datasets := [], relations := [], samples := [], mappings := [] }, ())

end Catalog

end Scan
