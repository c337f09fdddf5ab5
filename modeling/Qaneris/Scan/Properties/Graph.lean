import Qaneris.Scan.Builder
import Qaneris.Infra.Except
import Mathlib.Data.List.Nodup

/-!
# What the builder puts into a graph

* `locators_build` — the locators of a graph are the locations of its datasets
* `build_ok_iff` — when a graph is built
-/

namespace Scan

open Infra (bind_ok)

variable {datasource : Datasource} {datasets : List DatasetInfo} {relations : List RelationInfo}
  {version : Nat} {scannedAt : Instant} {graph : ScanGraph}

/-! ## The parts of a dataset -/

/-- The parts with the namespace of a dataset, and the parent of its object. -/
def enterNamespace (datasource : Datasource) (databaseId : NodeId) (g : GraphParts) (dataset : DatasetInfo) :
    GraphParts × NodeId :=
  match (location dataset).1 with
  | none => (g, databaseId)
  | some name =>
    if name = "" then (g, databaseId)
    else if g.nodes.any fun node => node.id = .namespaceOf datasource.id name then
      (g, .namespaceOf datasource.id name)
    else
      (g.add ⟨.namespaceOf datasource.id name, .namespaceOf datasource.id name⟩ .hasNamespace databaseId,
        .namespaceOf datasource.id name)

def objectNode (datasource : Datasource) (dataset : DatasetInfo) : ScanGraphNode :=
  ⟨.dataObject datasource.id dataset.name, .dataObject datasource.id (location dataset).1 (location dataset).2
    dataset.name dataset.kind dataset.comment dataset.estimatedRecordCount⟩

def fieldNode (objectId : NodeId) (info : FieldInfo) : ScanGraphNode × ScanEdgeType :=
  (⟨.field objectId info.name, .field objectId info⟩, .hasField)

def indexNode (objectId : NodeId) (info : IndexInfo) : ScanGraphNode × ScanEdgeType :=
  (⟨.index objectId info.name, .index objectId info⟩, .hasIndex)

def constraintNode (objectId : NodeId) (info : ConstraintInfo) : ScanGraphNode × ScanEdgeType :=
  (⟨.constraint objectId info.name, .constraint objectId info⟩, .hasConstraint)

/-- The nodes of the fields, the indexes and the constraints of a dataset, each with the type of its edge. -/
def partNodes (objectId : NodeId) (dataset : DatasetInfo) : List (ScanGraphNode × ScanEdgeType) :=
  dataset.fields.map (fieldNode objectId) ++ dataset.indexes.map (indexNode objectId) ++
    dataset.constraints.map (constraintNode objectId)

/-- The nodes, each with an edge from the object. -/
def addParts (objectId : NodeId) (g : GraphParts) (parts : List (ScanGraphNode × ScanEdgeType)) : GraphParts :=
  ⟨g.nodes ++ parts.map Prod.fst, g.edges ++ parts.map fun part => ⟨part.2, objectId, part.1.id⟩⟩

theorem addParts_append (objectId : NodeId) (g : GraphParts) (a b : List (ScanGraphNode × ScanEdgeType)) :
    addParts objectId (addParts objectId g a) b = addParts objectId g (a ++ b) := by
  simp only [addParts, List.map_append, List.append_assoc]

section Parts

variable {α : Type} {objectId : NodeId} {part : α → ScanGraphNode × ScanEdgeType}
  {step : GraphParts → α → GraphParts}

/-- One part after the other. -/
theorem foldl_add (hstep : ∀ g a, step g a = g.add (part a).1 (part a).2 objectId) (items : List α)
    (g : GraphParts) : items.foldl step g = addParts objectId g (items.map part) := by
  induction items generalizing g with
  | nil => simp [addParts]
  | cons item items ih =>
    rw [List.foldl_cons, ih, hstep]
    simp only [addParts, GraphParts.add, List.map_cons, List.append_assoc, List.singleton_append]

end Parts

theorem foldl_addField (objectId : NodeId) (infos : List FieldInfo) (g : GraphParts) :
    infos.foldl (addField objectId) g = addParts objectId g (infos.map (fieldNode objectId))  := by
  refine foldl_add ?_ infos g
  exact fun _ _ => rfl

theorem foldl_addIndex (objectId : NodeId) (infos : List IndexInfo) (g : GraphParts) :
    infos.foldl (addIndex objectId) g = addParts objectId g (infos.map (indexNode objectId))  := by
  refine foldl_add ?_ infos g
  exact fun _ _ => rfl

theorem foldl_addConstraint (objectId : NodeId) (infos : List ConstraintInfo) (g : GraphParts) :
    infos.foldl (addConstraint objectId) g = addParts objectId g (infos.map (constraintNode objectId))  := by
  refine foldl_add ?_ infos g
  exact fun _ _ => rfl

theorem addDataset_eq (databaseId : NodeId) (g : GraphParts) (dataset : DatasetInfo) :
    addDataset datasource databaseId g dataset =
      addParts (.dataObject datasource.id dataset.name)
        ((enterNamespace datasource databaseId g dataset).1.add (objectNode datasource dataset) .contains
          (enterNamespace datasource databaseId g dataset).2)
        (partNodes (.dataObject datasource.id dataset.name) dataset) := by
  have hfold : ∀ g : GraphParts, dataset.constraints.foldl (addConstraint (.dataObject datasource.id dataset.name))
      (dataset.indexes.foldl (addIndex (.dataObject datasource.id dataset.name))
        (dataset.fields.foldl (addField (.dataObject datasource.id dataset.name)) g)) =
      addParts (.dataObject datasource.id dataset.name) g
        (partNodes (.dataObject datasource.id dataset.name) dataset) := by
    intro g
    rw [foldl_addField, foldl_addIndex, foldl_addConstraint, addParts_append, addParts_append,
      ← List.append_assoc]
    rfl
  rw [← hfold]
  rfl

/-! ## Locators -/

/-- The qualified name of a data object, with its namespace and its name. -/
def ScanGraphNode.locator (node : ScanGraphNode) : Option (String × Option String × String) :=
  match node.properties with
  | .dataObject _ namespace_ name qualifiedName _ _ _ => some (qualifiedName, namespace_, name)
  | _ => none

def locators (nodes : List ScanGraphNode) : List (String × Option String × String) :=
  nodes.filterMap ScanGraphNode.locator

theorem locators_append (a b : List ScanGraphNode) : locators (a ++ b) = locators a ++ locators b :=
  List.filterMap_append

theorem locators_enterNamespace (databaseId : NodeId) (g : GraphParts) (dataset : DatasetInfo) :
    locators (enterNamespace datasource databaseId g dataset).1.nodes = locators g.nodes := by
  unfold enterNamespace
  split
  · rfl
  · split
    · rfl
    · split
      · rfl
      · rw [GraphParts.add, locators_append]
        exact List.append_nil _

theorem locators_partNodes (objectId : NodeId) (dataset : DatasetInfo) :
    locators ((partNodes objectId dataset).map Prod.fst) = [] := by
  rw [locators, List.filterMap_eq_nil_iff]
  intro node hnode
  obtain ⟨part, hpart, rfl⟩ := List.mem_map.mp hnode
  simp only [partNodes, List.mem_append, List.mem_map] at hpart
  rcases hpart with (⟨_, -, rfl⟩ | ⟨_, -, rfl⟩) | ⟨_, -, rfl⟩ <;> rfl

theorem locators_addDataset (databaseId : NodeId) (g : GraphParts) (dataset : DatasetInfo) :
    locators (addDataset datasource databaseId g dataset).nodes =
      locators g.nodes ++ [(dataset.name, location dataset)] := by
  rw [addDataset_eq, addParts, locators_append, locators_partNodes, List.append_nil, GraphParts.add,
    locators_append, locators_enterNamespace]
  rfl

theorem locators_foldl (databaseId : NodeId) (datasets : List DatasetInfo) (g : GraphParts) :
    locators (datasets.foldl (addDataset datasource databaseId) g).nodes =
      locators g.nodes ++ datasets.map fun dataset => (dataset.name, location dataset) := by
  induction datasets generalizing g with
  | nil => exact (List.append_nil _).symm
  | cons dataset datasets ih =>
    rw [List.foldl_cons, ih, locators_addDataset, List.append_assoc]
    rfl

/-- What a graph is made of, when it is built. -/
theorem build_ok (h : build datasource datasets relations version scannedAt = .ok graph) :
    ∃ related, relations.mapM (relationEdge datasource datasets) = .ok related ∧
      graph.nodes = (datasets.foldl (addDataset datasource (.database datasource.workspaceId datasource.id))
        ⟨[⟨.database datasource.workspaceId datasource.id, .database datasource.workspaceId datasource.id
          datasource.name datasource.kind datasource.driver version scannedAt⟩], []⟩).nodes := by
  obtain ⟨related, hrelated, h⟩ := bind_ok h
  rw [checkIntegrity_ok h]
  exact ⟨related, hrelated, rfl⟩

/-- The locators of a graph are the locations of its datasets. -/
theorem locators_build (h : build datasource datasets relations version scannedAt = .ok graph) :
    locators graph.nodes = datasets.map fun dataset => (dataset.name, location dataset) := by
  obtain ⟨_, -, hnodes⟩ := build_ok h
  rw [hnodes, locators_foldl]
  rfl

/-! ## Identifiers -/

def NodeId.isNamespace : NodeId → Bool
  | .namespaceOf _ _ => true
  | _ => false

def ScanEdgeType.isRelation : ScanEdgeType → Bool
  | .relatesTo _ => true
  | _ => false

def GraphParts.ids (g : GraphParts) : List NodeId := g.nodes.map ScanGraphNode.id

/-- The identifiers of the object of a dataset and of its parts. -/
def ownIds (datasourceId : String) (dataset : DatasetInfo) : List NodeId :=
  .dataObject datasourceId dataset.name ::
    (dataset.fields.map (fun info => NodeId.field (.dataObject datasourceId dataset.name) info.name) ++
      dataset.indexes.map (fun info => NodeId.index (.dataObject datasourceId dataset.name) info.name) ++
      dataset.constraints.map fun info => NodeId.constraint (.dataObject datasourceId dataset.name) info.name)

/-- What holds of the parts while a graph is built. -/
structure Grown (databaseId : NodeId) (g : GraphParts) : Prop where
  root : g.ids.head? = some databaseId
  targets : g.edges.map ScanGraphEdge.toNodeId = g.ids.tail
  sources : ∀ edge ∈ g.edges, edge.fromNodeId ∈ g.ids
  plain : ∀ edge ∈ g.edges, edge.type.isRelation = false
  namespaces : (g.ids.filter NodeId.isNamespace).Nodup

theorem ids_add (g : GraphParts) (node : ScanGraphNode) (type : ScanEdgeType) (parent : NodeId) :
    (g.add node type parent).ids = g.ids ++ [node.id] := List.map_append

theorem Grown.root_mem {databaseId : NodeId} {g : GraphParts} (h : Grown databaseId g) : databaseId ∈ g.ids :=
  List.mem_of_head? h.root

theorem Grown.add {databaseId : NodeId} {g : GraphParts} (h : Grown databaseId g) (node : ScanGraphNode)
    (type : ScanEdgeType) {parent : NodeId} (hparent : parent ∈ g.ids) (htype : type.isRelation = false)
    (hnamespace : node.id.isNamespace → node.id ∉ g.ids) : Grown databaseId (g.add node type parent) where
  root := by
    rw [ids_add, List.head?_append, h.root]
    rfl
  targets := by
    have hne : g.ids ≠ [] := List.ne_nil_of_mem hparent
    rw [ids_add, List.tail_append_of_ne_nil hne, ← h.targets]
    exact List.map_append
  sources := by
    intro edge hedge
    rw [ids_add]
    rcases List.mem_append.mp hedge with hedge | hedge
    · exact List.mem_append_left _ (h.sources edge hedge)
    · rw [List.mem_singleton.mp hedge]
      exact List.mem_append_left _ hparent
  plain := by
    intro edge hedge
    rcases List.mem_append.mp hedge with hedge | hedge
    · exact h.plain edge hedge
    · rw [List.mem_singleton.mp hedge]
      exact htype
  namespaces := by
    rw [ids_add, List.filter_append, List.filter_cons]
    by_cases hid : node.id.isNamespace
    · rw [if_pos hid]
      refine List.nodup_append.mpr ⟨h.namespaces, List.nodup_singleton _, fun a ha b hb heq => ?_⟩
      rw [List.mem_singleton.mp hb] at heq
      exact hnamespace hid (heq ▸ (List.mem_filter.mp ha).1)
    · rw [if_neg hid]
      exact (List.append_nil _).symm ▸ h.namespaces

/-- The parts of an object, none of which is a namespace. -/
theorem Grown.addParts {databaseId objectId : NodeId} {parts : List (ScanGraphNode × ScanEdgeType)}
    {g : GraphParts} (h : Grown databaseId g) (hobject : objectId ∈ g.ids)
    (hparts : ∀ part ∈ parts, part.1.id.isNamespace = false ∧ part.2.isRelation = false) :
    Grown databaseId (addParts objectId g parts) := by
  induction parts generalizing g with
  | nil => simpa [Scan.addParts] using h
  | cons part parts ih =>
    obtain ⟨hnamespace, htype⟩ := hparts part List.mem_cons_self
    have hadd := h.add part.1 part.2 hobject htype fun hid => absurd hid (by rw [hnamespace]; decide)
    have hmem : objectId ∈ (g.add part.1 part.2 objectId).ids := by
      rw [ids_add]
      exact List.mem_append_left _ hobject
    have hrest := ih hadd hmem fun part hpart => hparts part (List.mem_cons_of_mem _ hpart)
    have heq : Scan.addParts objectId g (part :: parts) =
        Scan.addParts objectId (g.add part.1 part.2 objectId) parts := by
      simp only [Scan.addParts, GraphParts.add, List.map_cons, List.append_assoc, List.singleton_append]
    rw [heq]
    exact hrest

/-- The identifiers that are not those of namespaces. -/
def NodeId.plain (ids : List NodeId) : List NodeId := ids.filter fun id => !id.isNamespace

variable (datasource) in
theorem Grown.enterNamespace {databaseId : NodeId} {g : GraphParts} (h : Grown databaseId g)
    (dataset : DatasetInfo) : Grown databaseId (enterNamespace datasource databaseId g dataset).1 ∧
      (Scan.enterNamespace datasource databaseId g dataset).2 ∈
        (Scan.enterNamespace datasource databaseId g dataset).1.ids ∧
      NodeId.plain (Scan.enterNamespace datasource databaseId g dataset).1.ids = NodeId.plain g.ids := by
  unfold Scan.enterNamespace
  split
  · exact ⟨h, h.root_mem, rfl⟩
  · next name _ =>
    by_cases hempty : name = ""
    · rw [if_pos hempty]
      exact ⟨h, h.root_mem, rfl⟩
    · rw [if_neg hempty]
      by_cases hknown : g.nodes.any fun node => node.id = .namespaceOf datasource.id name
      · rw [if_pos hknown]
        obtain ⟨node, hnode, hid⟩ := List.any_eq_true.mp hknown
        exact ⟨h, List.mem_map.mpr ⟨node, hnode, of_decide_eq_true hid⟩, rfl⟩
      · rw [if_neg hknown]
        have hnew : NodeId.namespaceOf datasource.id name ∉ g.ids := by
          intro hmem
          obtain ⟨node, hnode, hid⟩ := List.mem_map.mp hmem
          exact hknown (List.any_eq_true.mpr ⟨node, hnode, decide_eq_true hid⟩)
        refine ⟨h.add _ _ h.root_mem rfl fun _ => hnew, ?_, ?_⟩
        · rw [ids_add]
          exact List.mem_append_right _ List.mem_cons_self
        · rw [ids_add, NodeId.plain, List.filter_append]
          exact List.append_nil _

theorem partNodes_ids (objectId : NodeId) (dataset : DatasetInfo) :
    (partNodes objectId dataset).map (fun part => part.1.id) =
      dataset.fields.map (fun info => NodeId.field objectId info.name) ++
        dataset.indexes.map (fun info => NodeId.index objectId info.name) ++
        dataset.constraints.map fun info => NodeId.constraint objectId info.name := by
  rw [partNodes, List.map_append, List.map_append, List.map_map, List.map_map, List.map_map]
  rfl

theorem partNodes_plain {objectId : NodeId} {dataset : DatasetInfo} :
    ∀ part ∈ partNodes objectId dataset, part.1.id.isNamespace = false ∧ part.2.isRelation = false := by
  intro part hpart
  simp only [partNodes, List.mem_append, List.mem_map] at hpart
  rcases hpart with (⟨_, -, rfl⟩ | ⟨_, -, rfl⟩) | ⟨_, -, rfl⟩ <;> exact ⟨rfl, rfl⟩

theorem ownIds_plain (datasourceId : String) (dataset : DatasetInfo) :
    NodeId.plain (ownIds datasourceId dataset) = ownIds datasourceId dataset := by
  refine List.filter_eq_self.mpr fun id hid => ?_
  simp only [ownIds, List.mem_cons, List.mem_append, List.mem_map] at hid
  rcases hid with rfl | (⟨_, -, rfl⟩ | ⟨_, -, rfl⟩) | ⟨_, -, rfl⟩ <;> rfl

variable (datasource) in
/-- The parts after one dataset. -/
theorem Grown.addDataset {databaseId : NodeId} {g : GraphParts} (h : Grown databaseId g)
    (dataset : DatasetInfo) : Grown databaseId (addDataset datasource databaseId g dataset) ∧
      NodeId.plain (Scan.addDataset datasource databaseId g dataset).ids =
        NodeId.plain g.ids ++ ownIds datasource.id dataset := by
  obtain ⟨hgrown, hparent, hplain⟩ := h.enterNamespace datasource dataset
  have hadd := hgrown.add (objectNode datasource dataset) .contains hparent rfl fun hid => absurd hid Bool.false_ne_true
  rw [addDataset_eq]
  have hobject : NodeId.dataObject datasource.id dataset.name ∈
      ((Scan.enterNamespace datasource databaseId g dataset).1.add (objectNode datasource dataset) .contains
        (Scan.enterNamespace datasource databaseId g dataset).2).ids := by
    rw [ids_add]
    exact List.mem_append_right _ List.mem_cons_self
  refine ⟨hadd.addParts hobject partNodes_plain, ?_⟩
  have hids : (Scan.addParts (.dataObject datasource.id dataset.name)
      ((Scan.enterNamespace datasource databaseId g dataset).1.add (objectNode datasource dataset) .contains
        (Scan.enterNamespace datasource databaseId g dataset).2)
      (partNodes (.dataObject datasource.id dataset.name) dataset)).ids =
      (Scan.enterNamespace datasource databaseId g dataset).1.ids ++ ownIds datasource.id dataset := by
    rw [ownIds, ← partNodes_ids, GraphParts.ids, Scan.addParts, List.map_append, List.map_map]
    change GraphParts.ids _ ++ _ = _
    rw [ids_add, List.append_assoc]
    rfl
  rw [hids, NodeId.plain, List.filter_append]
  exact congrArg₂ _ hplain (ownIds_plain _ _)

variable (datasource) in
theorem Grown.foldl {databaseId : NodeId} {g : GraphParts} (h : Grown databaseId g)
    (datasets : List DatasetInfo) : Grown databaseId (datasets.foldl (Scan.addDataset datasource databaseId) g) ∧
      NodeId.plain (datasets.foldl (Scan.addDataset datasource databaseId) g).ids =
        NodeId.plain g.ids ++ datasets.flatMap (ownIds datasource.id) := by
  induction datasets generalizing g with
  | nil => exact ⟨h, (List.append_nil _).symm⟩
  | cons dataset datasets ih =>
    obtain ⟨hgrown, hplain⟩ := h.addDataset datasource dataset
    obtain ⟨hrest, hids⟩ := ih hgrown
    refine ⟨hrest, ?_⟩
    rw [List.foldl_cons, hids, hplain, List.flatMap_cons, List.append_assoc]

/-- A list has no repetition if and only if neither those that have a property nor the others have. -/
theorem nodup_filter_iff {α : Type} (p : α → Bool) (l : List α) :
    l.Nodup ↔ (l.filter p).Nodup ∧ (l.filter fun a => !p a).Nodup := by
  rw [← (List.filter_append_perm p l).nodup_iff, List.nodup_append, ← and_assoc]
  refine and_iff_left fun a ha b hb heq => ?_
  have hp := (List.mem_filter.mp ha).2
  have hnot := (List.mem_filter.mp hb).2
  rw [← heq, hp] at hnot
  exact absurd hnot (by decide)

/-! ## When a graph is built -/

/-- The parts before the first dataset. -/
def rootParts (datasource : Datasource) (version : Nat) (scannedAt : Instant) : GraphParts :=
  ⟨[⟨.database datasource.workspaceId datasource.id, .database datasource.workspaceId datasource.id
    datasource.name datasource.kind datasource.driver version scannedAt⟩], []⟩

variable (datasource version scannedAt) in
theorem grown_root : Grown (.database datasource.workspaceId datasource.id)
    (rootParts datasource version scannedAt) where
  root := rfl
  targets := rfl
  sources := fun _ h => absurd h List.not_mem_nil
  plain := fun _ h => absurd h List.not_mem_nil
  namespaces := List.nodup_nil

theorem checkIntegrity_iff : checkIntegrity graph = .ok graph ↔ graph.nodeIds.Nodup ∧ graph.edges.Nodup ∧
    ∀ edge ∈ graph.edges, edge.fromNodeId ∈ graph.nodeIds ∧ edge.toNodeId ∈ graph.nodeIds := by
  unfold checkIntegrity
  by_cases hids : graph.nodeIds.Nodup
  · by_cases hedges : graph.edges.Nodup
    · by_cases hdangling : graph.edges.any fun edge =>
          edge.fromNodeId ∉ graph.nodeIds ∨ edge.toNodeId ∉ graph.nodeIds
      · rw [if_neg (not_not.mpr hids), if_neg (not_not.mpr hedges), if_pos hdangling]
        refine iff_of_false nofun fun h => ?_
        obtain ⟨edge, hedge, hout⟩ := List.any_eq_true.mp hdangling
        rcases of_decide_eq_true hout with hfrom | hto
        · exact hfrom (h.2.2 edge hedge).1
        · exact hto (h.2.2 edge hedge).2
      · rw [if_neg (not_not.mpr hids), if_neg (not_not.mpr hedges), if_neg hdangling]
        refine iff_of_true rfl ⟨hids, hedges, fun edge hedge => ?_⟩
        by_contra hout
        refine hdangling (List.any_eq_true.mpr ⟨edge, hedge, decide_eq_true ?_⟩)
        exact not_and_or.mp hout
    · rw [if_neg (not_not.mpr hids), if_pos hedges]
      exact iff_of_false nofun fun h => hedges h.2.1
  · rw [if_pos hids]
    exact iff_of_false nofun fun h => hids h.1

/-- The edge of a relation. -/
def relationshipEdge (datasource : Datasource) (relation : RelationInfo) : ScanGraphEdge where
  type := .relatesTo {
    relationshipType := relation.relationType, source := relationSource relation,
    fromFieldPath := relation.fromField, toFieldPath := relation.toField, directed := true, confirmed := true }
  fromNodeId := .dataObject datasource.id relation.fromDataset
  toNodeId := .dataObject datasource.id relation.toDataset

/-- A relation between two datasets, with a source that is trusted. -/
def Relates (datasets : List DatasetInfo) (relation : RelationInfo) : Prop :=
  (∃ dataset ∈ datasets, dataset.name = relation.fromDataset) ∧
    (∃ dataset ∈ datasets, dataset.name = relation.toDataset) ∧ relationSource relation ∈ trustedSources

theorem relationEdge_iff {relation : RelationInfo} {edge : ScanGraphEdge} :
    relationEdge datasource datasets relation = .ok edge ↔
      Relates datasets relation ∧ edge = relationshipEdge datasource relation := by
  have hknown : ∀ name, datasets.any (·.name = name) = true ↔ ∃ dataset ∈ datasets, dataset.name = name := by
    simp [List.any_eq_true]
  unfold relationEdge Relates
  rw [← hknown, ← hknown]
  by_cases hfrom : datasets.any (·.name = relation.fromDataset) = true
  · by_cases hto : datasets.any (·.name = relation.toDataset) = true
    · rw [if_neg (not_or.mpr ⟨not_not.mpr hfrom, not_not.mpr hto⟩)]
      by_cases hsource : relationSource relation ∈ trustedSources
      · rw [if_neg (not_not.mpr hsource), and_iff_right ⟨hfrom, hto, hsource⟩]
        exact ⟨fun h => (Except.ok.inj h).symm, fun h => congrArg _ h.symm⟩
      · rw [if_pos hsource]
        exact iff_of_false nofun fun h => hsource h.1.2.2
    · rw [if_pos (.inr hto)]
      exact iff_of_false nofun fun h => hto h.1.2.1
  · rw [if_pos (.inl hfrom)]
    exact iff_of_false nofun fun h => hfrom h.1.1

section Built

variable {related : List ScanGraphEdge}

/-- The graph that is checked. -/
def builtGraph (datasource : Datasource) (datasets : List DatasetInfo) (related : List ScanGraphEdge)
    (version : Nat) (scannedAt : Instant) : ScanGraph :=
  let parts := datasets.foldl (addDataset datasource (.database datasource.workspaceId datasource.id))
    (rootParts datasource version scannedAt)
  { workspaceId := datasource.workspaceId, datasourceId := datasource.id, scanVersion := version, scannedAt
    nodes := parts.nodes, edges := parts.edges ++ related }

variable (datasource datasets version scannedAt related) in
theorem grown_built : Grown (.database datasource.workspaceId datasource.id)
      (datasets.foldl (addDataset datasource (.database datasource.workspaceId datasource.id))
        (rootParts datasource version scannedAt)) ∧
    NodeId.plain (builtGraph datasource datasets related version scannedAt).nodeIds =
      .database datasource.workspaceId datasource.id :: datasets.flatMap (ownIds datasource.id) := by
  obtain ⟨hgrown, hplain⟩ := (grown_root datasource version scannedAt).foldl datasource datasets
  exact ⟨hgrown, hplain⟩

theorem database_not_mem (workspaceId datasourceId datasourceId' : String) :
    NodeId.database workspaceId datasourceId ∉ datasets.flatMap (ownIds datasourceId') := by
  intro hmem
  obtain ⟨dataset, -, hid⟩ := List.mem_flatMap.mp hmem
  simp only [ownIds, List.mem_cons, List.mem_append, List.mem_map] at hid
  rcases hid with hid | (⟨_, -, hid⟩ | ⟨_, -, hid⟩) | ⟨_, -, hid⟩ <;> cases hid

theorem nodeIds_nodup_iff : (builtGraph datasource datasets related version scannedAt).nodeIds.Nodup ↔
    (datasets.flatMap (ownIds datasource.id)).Nodup := by
  obtain ⟨hgrown, hplain⟩ := grown_built datasource datasets version scannedAt related
  have hnamespaces : ((builtGraph datasource datasets related version scannedAt).nodeIds.filter
      NodeId.isNamespace).Nodup := hgrown.namespaces
  rw [nodup_filter_iff NodeId.isNamespace, and_iff_right hnamespaces]
  change (NodeId.plain _).Nodup ↔ _
  rw [hplain, List.nodup_cons, and_iff_right (database_not_mem _ _ _)]

theorem mem_nodeIds {dataset : DatasetInfo} (h : dataset ∈ datasets) {id : NodeId}
    (hid : id ∈ ownIds datasource.id dataset) :
    id ∈ (builtGraph datasource datasets related version scannedAt).nodeIds := by
  have hplain := (grown_built datasource datasets version scannedAt related).2
  have hmem : id ∈ NodeId.plain (builtGraph datasource datasets related version scannedAt).nodeIds := by
    rw [hplain]
    exact List.mem_cons_of_mem _ (List.mem_flatMap.mpr ⟨dataset, h, hid⟩)
  exact (List.mem_filter.mp hmem).1

theorem edges_nodup_iff (hids : (builtGraph datasource datasets related version scannedAt).nodeIds.Nodup)
    (hrelated : ∀ edge ∈ related, edge.type.isRelation = true) :
    (builtGraph datasource datasets related version scannedAt).edges.Nodup ↔ related.Nodup := by
  obtain ⟨hgrown, -⟩ := grown_built datasource datasets version scannedAt related
  have htargets := hgrown.targets
  have hnodup : (datasets.foldl (addDataset datasource (.database datasource.workspaceId datasource.id))
      (rootParts datasource version scannedAt)).edges.Nodup := by
    refine List.Nodup.of_map ScanGraphEdge.toNodeId ?_
    rw [htargets]
    exact hids.tail
  change List.Nodup (_ ++ related) ↔ _
  rw [List.nodup_append, and_iff_right hnodup]
  refine and_iff_left fun a ha b hb heq => ?_
  have hplain := hgrown.plain a ha
  rw [heq, hrelated b hb] at hplain
  exact absurd hplain (by decide)

/-- The edges of the parts, and those of the relations. -/
theorem edges_filter (hrelated : ∀ edge ∈ related, edge.type.isRelation = true) :
    (builtGraph datasource datasets related version scannedAt).edges.filter (fun edge => edge.type.isRelation) =
      related := by
  obtain ⟨hgrown, -⟩ := grown_built datasource datasets version scannedAt related
  change List.filter _ (_ ++ related) = _
  rw [List.filter_append, List.filter_eq_self.mpr hrelated, List.filter_eq_nil_iff.mpr]
  · rfl
  · intro edge hedge
    rw [hgrown.plain edge hedge]
    exact Bool.false_ne_true

theorem mem_built_iff {id : NodeId} (h : id.isNamespace = false) :
    id ∈ (builtGraph datasource datasets related version scannedAt).nodeIds ↔
      id = .database datasource.workspaceId datasource.id ∨ ∃ dataset ∈ datasets, id ∈ ownIds datasource.id dataset := by
  have hplain := (grown_built datasource datasets version scannedAt related).2
  have hfilter : id ∈ (builtGraph datasource datasets related version scannedAt).nodeIds ↔
      id ∈ NodeId.plain (builtGraph datasource datasets related version scannedAt).nodeIds := by
    rw [NodeId.plain, List.mem_filter, h]
    exact (and_iff_left rfl).symm
  rw [hfilter, hplain, List.mem_cons, List.mem_flatMap]

end Built

variable (datasource) in
theorem relationshipEdge_isRelation (relations : List RelationInfo) :
    ∀ edge ∈ relations.map (relationshipEdge datasource), edge.type.isRelation = true := by
  intro edge hedge
  obtain ⟨_, -, rfl⟩ := List.mem_map.mp hedge
  rfl

/-- When a graph is built of datasets and relations. -/
theorem build_ok_iff : build datasource datasets relations version scannedAt = .ok graph ↔
    (∀ relation ∈ relations, Relates datasets relation) ∧ (relations.map (relationshipEdge datasource)).Nodup ∧
      (datasets.flatMap (ownIds datasource.id)).Nodup ∧
      graph = builtGraph datasource datasets (relations.map (relationshipEdge datasource)) version scannedAt := by
  have hrelated := relationshipEdge_isRelation datasource relations
  have hchecked : (∀ relation ∈ relations, Relates datasets relation) →
      (checkIntegrity (builtGraph datasource datasets (relations.map (relationshipEdge datasource)) version
          scannedAt) =
        .ok (builtGraph datasource datasets (relations.map (relationshipEdge datasource)) version scannedAt) ↔
        (relations.map (relationshipEdge datasource)).Nodup ∧ (datasets.flatMap (ownIds datasource.id)).Nodup) := by
    intro hrelates
    rw [checkIntegrity_iff]
    constructor
    · rintro ⟨hids, hnodup, -⟩
      exact ⟨(edges_nodup_iff hids hrelated).mp hnodup, nodeIds_nodup_iff.mp hids⟩
    · rintro ⟨hnodup, hown⟩
      have hids : (builtGraph datasource datasets (relations.map (relationshipEdge datasource)) version
          scannedAt).nodeIds.Nodup := nodeIds_nodup_iff.mpr hown
      refine ⟨hids, (edges_nodup_iff hids hrelated).mpr hnodup, fun edge hedge => ?_⟩
      rcases List.mem_append.mp hedge with hedge | hedge
      · obtain ⟨hgrown, -⟩ := grown_built datasource datasets version scannedAt
          (relations.map (relationshipEdge datasource))
        refine ⟨hgrown.sources edge hedge, List.mem_of_mem_tail ?_⟩
        exact hgrown.targets ▸ List.mem_map_of_mem hedge
      · obtain ⟨relation, hrelation, rfl⟩ := List.mem_map.mp hedge
        obtain ⟨⟨dataset, hdataset, hfrom⟩, ⟨dataset', hdataset', hto⟩, -⟩ := hrelates relation hrelation
        rw [relationshipEdge, ← hfrom, ← hto]
        exact ⟨mem_nodeIds hdataset List.mem_cons_self, mem_nodeIds hdataset' List.mem_cons_self⟩
  constructor
  · intro h
    obtain ⟨related, hmap, h⟩ := bind_ok h
    obtain ⟨hrelates, rfl⟩ := (Infra.mapM_ok_iff fun _ _ => relationEdge_iff).mp hmap
    obtain rfl := checkIntegrity_ok h
    obtain ⟨hnodup, hown⟩ := (hchecked hrelates).mp h
    exact ⟨hrelates, hnodup, hown, rfl⟩
  · rintro ⟨hrelates, hnodup, hown, rfl⟩
    rw [build, (Infra.mapM_ok_iff fun _ _ => relationEdge_iff).mpr ⟨hrelates, rfl⟩]
    exact (hchecked hrelates).mpr ⟨hnodup, hown⟩

end Scan
