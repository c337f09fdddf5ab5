import Qaneris.Scan.Contracts

/-!
# From a scan to its graph

`ScanGraphBuilder.build`, the integrity check a `ScanGraph` makes when it is built, and
`ScanGraphValidator.validate`.
-/

namespace Scan

/-! ## Building the nodes and edges -/

/-- `name.rsplit(".", 1)`: the text before and after the last dot. -/
def splitLastDot (name : List Char) : Option (List Char × List Char) :=
  match name.reverse.span (· ≠ '.') with
  | (_, []) => none
  | (tail, _ :: head) => some (head.reverse, tail.reverse)

/-- `_location`: the namespace of a dataset, and its name within it. -/
def location (dataset : DatasetInfo) : Option String × String :=
  let split := splitLastDot dataset.name.toList
  match dataset.namespace_, split with
  | some namespace_, split =>
    if namespace_ ≠ "" then
      (some namespace_, (split.map fun s => String.ofList s.2).getD dataset.name)
    else
      match split with
      | some (head, tail) => (some (String.ofList head), String.ofList tail)
      | none => (none, dataset.name)
  | none, some (head, tail) => (some (String.ofList head), String.ofList tail)
  | none, none => (none, dataset.name)

/-- The nodes and edges so far. -/
structure GraphParts where
  nodes : List ScanGraphNode
  edges : List ScanGraphEdge

def GraphParts.add (g : GraphParts) (node : ScanGraphNode) (type : ScanEdgeType) (parent : NodeId) :
    GraphParts :=
  ⟨g.nodes ++ [node], g.edges ++ [⟨type, parent, node.id⟩]⟩

def addField (objectId : NodeId) (g : GraphParts) (info : FieldInfo) : GraphParts :=
  g.add ⟨.field objectId info.name, .field objectId info⟩ .hasField objectId

def addIndex (objectId : NodeId) (g : GraphParts) (info : IndexInfo) : GraphParts :=
  g.add ⟨.index objectId info.name, .index objectId info⟩ .hasIndex objectId

def addConstraint (objectId : NodeId) (g : GraphParts) (info : ConstraintInfo) : GraphParts :=
  g.add ⟨.constraint objectId info.name, .constraint objectId info⟩ .hasConstraint objectId

/-- One dataset: its namespace when that is new, its object, and the parts of the object. -/
def addDataset (datasource : Datasource) (databaseId : NodeId) (g : GraphParts)
    (dataset : DatasetInfo) : GraphParts :=
  let (namespace_, objectName) := location dataset
  let (g, parentId) :=
    match namespace_ with
    | none => (g, databaseId)
    | some name =>
      if name = "" then (g, databaseId)
      else
        let namespaceId := NodeId.namespaceOf datasource.id name
        if g.nodes.any fun node => node.id = namespaceId then (g, namespaceId)
        else (g.add ⟨namespaceId, .namespaceOf datasource.id name⟩ .hasNamespace databaseId, namespaceId)
  let objectId := NodeId.dataObject datasource.id dataset.name
  let g := g.add
    ⟨objectId, .dataObject datasource.id namespace_ objectName dataset.name dataset.kind
      dataset.comment dataset.estimatedRecordCount⟩ .contains parentId
  let g := dataset.fields.foldl (addField objectId) g
  let g := dataset.indexes.foldl (addIndex objectId) g
  dataset.constraints.foldl (addConstraint objectId) g

def relationSource (relation : RelationInfo) : String :=
  if relation.source = "scan" ∨ relation.source = "database" then "database" else relation.source

def trustedSources : List String := ["database", "configuration"]

def relationEdge (datasource : Datasource) (datasets : List DatasetInfo) (relation : RelationInfo) :
    Except Failure ScanGraphEdge :=
  if ¬ datasets.any (·.name = relation.fromDataset) ∨ ¬ datasets.any (·.name = relation.toDataset) then
    .error (.valueError "relationship references an unknown object")
  else if relationSource relation ∉ trustedSources then
    .error (.valueError ("untrusted relationship source: " ++ relation.source))
  else .ok {
    type := .relatesTo {
      relationshipType := relation.relationType, source := relationSource relation,
      fromFieldPath := relation.fromField, toFieldPath := relation.toField,
      directed := true, confirmed := true }
    fromNodeId := .dataObject datasource.id relation.fromDataset
    toNodeId := .dataObject datasource.id relation.toDataset }

/-! ## Checking the graph -/

def ScanGraph.nodeIds (graph : ScanGraph) : List NodeId :=
  graph.nodes.map ScanGraphNode.id

/-- `ScanGraph.validate_integrity` -/
def checkIntegrity (graph : ScanGraph) : Except Failure ScanGraph :=
  if ¬ graph.nodeIds.Nodup then .error (.valueError "scan graph contains duplicate node ids")
  else if ¬ graph.edges.Nodup then .error (.valueError "scan graph contains duplicate edge ids")
  else if graph.edges.any fun edge => edge.fromNodeId ∉ graph.nodeIds ∨ edge.toNodeId ∉ graph.nodeIds then
    .error (.valueError "scan graph contains dangling edges")
  else .ok graph

/-- `ScanGraphBuilder.build` -/
def build (datasource : Datasource) (datasets : List DatasetInfo) (relations : List RelationInfo)
    (version : Nat) (scannedAt : Instant) : Except Failure ScanGraph := do
  let databaseId := NodeId.database datasource.workspaceId datasource.id
  let database : ScanGraphNode := ⟨databaseId, .database datasource.workspaceId datasource.id
    datasource.name datasource.kind datasource.driver version scannedAt⟩
  let parts := datasets.foldl (addDataset datasource databaseId) ⟨[database], []⟩
  let related ← relations.mapM (relationEdge datasource datasets)
  checkIntegrity {
    workspaceId := datasource.workspaceId, datasourceId := datasource.id, scanVersion := version,
    scannedAt, nodes := parts.nodes, edges := parts.edges ++ related }

/-- `ScanGraphValidator.validate` -/
def validate (graph : ScanGraph) : Except Failure Unit :=
  graph.edges.forM fun edge =>
    match edge.type with
    | .relatesTo properties =>
      if ¬ properties.confirmed then .error (.valueError "RELATES_TO must be confirmed")
      else if properties.source ∉ trustedSources then
        .error (.valueError "RELATES_TO must have a trusted source")
      else .ok ()
    | _ => .ok ()

theorem checkIntegrity_ok {graph graph' : ScanGraph} (h : checkIntegrity graph = .ok graph') :
    graph' = graph := by
  unfold checkIntegrity at h
  split at h
  · cases h
  · split at h
    · cases h
    · split at h
      · cases h
      · exact (Except.ok.inj h).symm

/-- A graph carries the revision it was built for. -/
theorem build_scanVersion {datasource : Datasource} {datasets : List DatasetInfo}
    {relations : List RelationInfo} {version : Nat} {scannedAt : Instant} {graph : ScanGraph}
    (h : build datasource datasets relations version scannedAt = .ok graph) :
    graph.scanVersion = version := by
  unfold build at h
  cases hr : relations.mapM (relationEdge datasource datasets) with
  | error e => simp [hr, bind, Except.bind] at h
  | ok related =>
    simp only [hr, bind, Except.bind] at h
    rw [checkIntegrity_ok h]

end Scan
