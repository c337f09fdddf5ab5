import Qaneris.Infra.Json

/-!
# Scan contracts

The records of a datasource scan: what an adapter reports, the graph made of it, the snapshot and
the job that are stored.

The identifiers of graph nodes and edges are digests of their parts in the source. A digest is
modelled by its parts, so two identifiers are equal exactly when their parts are.
-/

namespace Scan

open Infra (Json)

abbrev Instant := Int

/-! ## Datasources -/

inductive DatasourceKind where
  | relational
  | keyValue
  | document
  | wideColumn
  | graph
  | search
  | timeSeries
  | olap
  | vector
  deriving DecidableEq, Repr

inductive DatasourceStatus where
  | created
  | ready
  deriving DecidableEq, Repr

/-- A connection profile: its driver, and the rest of the document. -/
structure ConnectionProfile where
  driver : String
  document : Json
  deriving DecidableEq, Repr

/-- `connection_json`: a raw connection document, or a secure profile. -/
inductive StoredConnection where
  | legacy (document : Json)
  | secure (profile : ConnectionProfile)
  deriving DecidableEq, Repr

def StoredConnection.driver : StoredConnection → Option String
  | .legacy document =>
    match document.get? "driver" with
    | some (.str driver) => some driver
    | _ => none
  | .secure profile => some profile.driver

def StoredConnection.profile : StoredConnection → Option ConnectionProfile
  | .legacy _ => none
  | .secure profile => some profile

structure Datasource where
  id : String
  name : String
  kind : DatasourceKind
  workspaceId : String
  driver : Option String
  status : DatasourceStatus
  deriving DecidableEq, Repr

/-! ## What an adapter reports -/

structure FieldInfo where
  name : String
  dataType : String
  nativeType : Option String := none
  nullable : Bool := true
  primaryKey : Bool := false
  unique : Bool := false
  indexed : Bool := false
  defaultValue : Option Json := none
  comment : Option String := none
  deriving DecidableEq, Repr

structure IndexInfo where
  name : String
  fields : List String := []
  unique : Bool := false
  indexType : Option String := none
  nativeOptions : List (String × Json) := []
  deriving DecidableEq, Repr

structure ConstraintInfo where
  name : String
  constraintType : String
  fields : List String := []
  expression : Option String := none
  deriving DecidableEq, Repr

structure DatasetInfo where
  datasourceId : String
  name : String
  kind : String := "table"
  namespace_ : Option String := none
  comment : Option String := none
  estimatedRecordCount : Option Nat := none
  fields : List FieldInfo := []
  indexes : List IndexInfo := []
  constraints : List ConstraintInfo := []
  deriving DecidableEq, Repr

structure RelationInfo where
  datasourceId : String
  fromDataset : String
  fromField : Option String := none
  toDataset : String
  toField : Option String := none
  relationType : String
  source : String := "scan"
  deriving DecidableEq, Repr

structure DatasetSample where
  datasourceId : String
  dataset : String
  rows : List (List (String × Json)) := []
  deriving DecidableEq, Repr

/-! ## The scan graph -/

/-- A node identifier, by the parts it is the digest of. -/
inductive NodeId where
  | database (workspaceId datasourceId : String)
  | namespaceOf (datasourceId name : String)
  | dataObject (datasourceId name : String)
  | field (object : NodeId) (name : String)
  | index (object : NodeId) (name : String)
  | constraint (object : NodeId) (name : String)
  deriving DecidableEq, Repr

/-- What a node says of the thing it stands for. -/
inductive NodeProperties where
  | database (workspaceId datasourceId name : String) (kind : DatasourceKind)
      (driver : Option String) (scanVersion : Nat) (scannedAt : Instant)
  | namespaceOf (datasourceId name : String)
  | dataObject (datasourceId : String) (namespace_ : Option String) (name qualifiedName kind : String)
      (comment : Option String) (estimatedRecordCount : Option Nat)
  | field (object : NodeId) (info : FieldInfo)
  | index (object : NodeId) (info : IndexInfo)
  | constraint (object : NodeId) (info : ConstraintInfo)
  deriving DecidableEq, Repr

structure ScanGraphNode where
  id : NodeId
  properties : NodeProperties
  deriving DecidableEq, Repr

/-- What a confirmed relationship says of itself. -/
structure RelatesTo where
  relationshipType : String
  source : String
  fromFieldPath : Option String
  toFieldPath : Option String
  directed : Bool
  confirmed : Bool
  deriving DecidableEq, Repr

inductive ScanEdgeType where
  | hasNamespace
  | contains
  | hasField
  | hasIndex
  | hasConstraint
  | relatesTo (properties : RelatesTo)
  deriving DecidableEq, Repr

/-- An edge. Its identifier is the digest of all of it. -/
structure ScanGraphEdge where
  type : ScanEdgeType
  fromNodeId : NodeId
  toNodeId : NodeId
  deriving DecidableEq, Repr

structure ScanGraph where
  workspaceId : String
  datasourceId : String
  scanVersion : Nat
  scannedAt : Instant
  nodes : List ScanGraphNode
  edges : List ScanGraphEdge
  deriving DecidableEq, Repr

/-- A node without the revision and the time of the scan. -/
def NodeProperties.content : NodeProperties → NodeProperties
  | .database workspaceId datasourceId name kind driver _ _ =>
    .database workspaceId datasourceId name kind driver 0 0
  | properties => properties

/-- What was scanned: the graph without the revision and the time of the scan. -/
def ScanGraph.content (graph : ScanGraph) : List (NodeId × NodeProperties) × List ScanGraphEdge :=
  (graph.nodes.map fun node => (node.id, node.properties.content), graph.edges)

/-! ## Snapshots and jobs -/

inductive ScanStatus where
  | created
  | verifying
  | connectionVerified
  | scanning
  | profiling
  | ready
  | connectionFailed
  | scanFailed
  | profileFailed
  | stale
  deriving DecidableEq, Repr

structure ScanPolicy where
  profileSize : Nat := 20
  previewSize : Nat := 3
  fieldSampleSize : Nat := 10
  contextSampleSize : Nat := 3
  maxDataObjects : Nat := 1000
  maxSampleBytesPerObject : Nat := 64000
  timeoutSeconds : Nat := 60
  deriving DecidableEq, Repr

inductive DocumentStatus where
  | pending
  | ready
  | failed
  deriving DecidableEq, Repr

/-- One scan of a datasource. The profile and its relationships are documents here. -/
structure ScanSnapshot where
  id : String
  datasourceId : String
  version : Nat
  status : ScanStatus
  policy : ScanPolicy
  profile : Option Json
  relationships : List Json
  warnings : List String := []
  documentStatus : DocumentStatus := .pending
  documentPath : Option String := none
  documentError : Option String := none
  startedAt : Instant
  completedAt : Option Instant := none
  active : Bool := false
  deriving DecidableEq, Repr

structure InitializationJob where
  id : String
  datasourceId : String
  status : ScanStatus := .created
  policy : ScanPolicy
  snapshotId : Option String := none
  errorCode : Option String := none
  createdAt : Instant
  updatedAt : Instant
  deriving DecidableEq, Repr

/-- What a scan or an update raises: the class of the error, its message, and whether the class is
one of the application's own. -/
structure Failure where
  typeName : String
  message : String
  isQanerisError : Bool := false
  deriving DecidableEq, Repr

def Failure.keyError (message : String) : Failure := ⟨"KeyError", message, false⟩

def Failure.valueError (message : String) : Failure := ⟨"ValueError", message, false⟩

def Failure.integrityError (message : String) : Failure := ⟨"IntegrityError", message, false⟩

def Failure.secureProfileRequired (message : String) : Failure :=
  ⟨"DatasourceSecureProfileRequiredError", message, true⟩

end Scan
