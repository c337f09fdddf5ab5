import Qaneris.Adapters.Relational
import Qaneris.Infra.JsonText
import Qaneris.Scan.Properties.Graph

/-!
# SQLite schemas and their graphs

* `published_iff` — when the graph of a schema is built and has all of it
-/

namespace Adapters.SQLiteAdapter

open Scan

/-! ## What a graph has of a schema -/

/-- The tables of SQLite itself. -/
def isInternal (name : String) : Bool := "sqlite_".toList.isPrefixOf (foldCase name)

/-- The tables and the views of the user. -/
def Schema.userObjects (schema : Schema) : List Object :=
  schema.objects.filter fun object => !isInternal object.name

def Schema.parent (schema : Schema) (name : String) : Option Object :=
  schema.objects.find? fun object => foldCase object.name = foldCase name

/-- The identifiers of an object, its columns, its indexes and its constraints. -/
def Object.ids (datasourceId : String) (object : Object) : List NodeId :=
  let objectId := NodeId.dataObject datasourceId object.name
  objectId :: (object.columns.map (fun column => .field objectId column.name) ++
    object.indexes.map (fun index => .index objectId index.name) ++
    (primaryKey object).map (fun info => .constraint objectId info.name) ++
    object.foreignKeys.map fun row => .constraint objectId (foreignKey object row).name)

/-- The edge of one column of a foreign key. -/
def relationshipTo (datasourceId : String) (object : Object) (row : ForeignKeyRow) (parent : String) :
    ScanGraphEdge where
  type := .relatesTo { relationshipType := "foreign_key", source := "database", fromFieldPath := given row.from_
                       toFieldPath := row.to_.bind given, directed := true, confirmed := true }
  fromNodeId := .dataObject datasourceId object.name
  toNodeId := .dataObject datasourceId parent

/-- The edges of the foreign keys between objects of the schema. -/
def Schema.relationships (datasourceId : String) (schema : Schema) : List ScanGraphEdge :=
  schema.userObjects.flatMap fun object => object.foreignKeys.filterMap fun row =>
    (schema.parent row.table).map fun parent => relationshipTo datasourceId object row parent.name

/-- The graph has all of the schema, and each part of it once. -/
structure Publishes (datasource : Datasource) (schema : Schema) (graph : ScanGraph) : Prop where
  nodes_nodup : graph.nodeIds.Nodup
  edges_nodup : graph.edges.Nodup
  nodes : ∀ id, id.isNamespace = false → (id ∈ graph.nodeIds ↔
    id = .database datasource.workspaceId datasource.id ∨ ∃ object ∈ schema.userObjects, id ∈ object.ids datasource.id)
  relations : (graph.edges.filter fun edge => edge.type.isRelation).Perm (schema.relationships datasource.id)

/-- The objects that a scan lists. -/
def Schema.listed (schema : Schema) : List Object := schema.objects.filter fun object => isListed object.name

/-- What a foreign key says of one of its columns. -/
def ForeignKeyRow.pair (row : ForeignKeyRow) : Option String × String × Option String :=
  (given row.from_, row.table, row.to_.bind given)

/-- A schema whose objects are all listed, with columns that are all shown, and whose foreign keys have one
column each, name their parents as these are spelt, and differ. -/
structure Schema.Plain (schema : Schema) : Prop where
  listed : ∀ object ∈ schema.userObjects, isListed object.name
  shown : ∀ object ∈ schema.userObjects, ∀ column ∈ object.columns, column.hidden = false
  single : ∀ object ∈ schema.userObjects, (object.foreignKeys.map ForeignKeyRow.id).Nodup
  parents : ∀ object ∈ schema.userObjects, ∀ row ∈ object.foreignKeys,
    ∃ parent ∈ schema.userObjects, parent.name = row.table
  pairs : ∀ object ∈ schema.userObjects, (object.foreignKeys.map ForeignKeyRow.pair).Nodup

instance (schema : Schema) : Decidable schema.Plain :=
  decidable_of_iff ((∀ object ∈ schema.userObjects, isListed object.name) ∧
      (∀ object ∈ schema.userObjects, ∀ column ∈ object.columns, column.hidden = false) ∧
      (∀ object ∈ schema.userObjects, (object.foreignKeys.map ForeignKeyRow.id).Nodup) ∧
      (∀ object ∈ schema.userObjects, ∀ row ∈ object.foreignKeys,
        ∃ parent ∈ schema.userObjects, parent.name = row.table) ∧
      ∀ object ∈ schema.userObjects, (object.foreignKeys.map ForeignKeyRow.pair).Nodup)
    ⟨fun ⟨a, b, c, d, e⟩ => ⟨a, b, c, d, e⟩, fun ⟨a, b, c, d, e⟩ => ⟨a, b, c, d, e⟩⟩

/-! ## The objects of a scan -/

section Objects

variable {schema : Schema} {object object' : Object} {name : String}

theorem not_listed_of_internal (h : isInternal name) : isListed name = false := by
  obtain ⟨rest, hrest⟩ := List.isPrefixOf_iff_prefix.mp h
  refine decide_eq_false (not_not.mpr ?_)
  rw [← hrest]
  change Infra.matchTokens [.many] rest
  exact Infra.matchTokens_many.mpr ⟨[], List.nil_suffix, rfl⟩

theorem mem_listed : object ∈ schema.listed ↔ object ∈ schema.objects ∧ isListed object.name = true := List.mem_filter

theorem mem_userObjects : object ∈ schema.userObjects ↔ object ∈ schema.objects ∧ isInternal object.name = false := by
  rw [Schema.userObjects, List.mem_filter, Bool.not_eq_true']

theorem listed_subset (h : object ∈ schema.listed) : object ∈ schema.userObjects := by
  obtain ⟨hmem, hlisted⟩ := mem_listed.mp h
  refine mem_userObjects.mpr ⟨hmem, ?_⟩
  by_contra hinternal
  rw [not_listed_of_internal (Bool.of_not_eq_false hinternal)] at hlisted
  exact Bool.false_ne_true hlisted

theorem listed_eq (h : ∀ object ∈ schema.userObjects, isListed object.name) : schema.listed = schema.userObjects := by
  refine List.filter_congr fun object hobject => ?_
  by_cases hinternal : isInternal object.name
  · rw [not_listed_of_internal hinternal, hinternal]
    rfl
  · rw [h object (mem_userObjects.mpr ⟨hobject, Bool.of_not_eq_true hinternal⟩), Bool.of_not_eq_true hinternal]
    rfl

/-- An object is known by its name. -/
theorem eq_of_name (h : object ∈ schema.objects) (h' : object' ∈ schema.objects) (heq : object.name = object'.name) :
    object = object' :=
  List.inj_on_of_nodup_map schema.objects_nodup h h' (congrArg foldCase heq)

theorem parent_name (h : object ∈ schema.objects) : schema.parent object.name = some object := by
  have hfind : (schema.parent object.name).isSome := by
    rw [Schema.parent, List.find?_isSome]
    exact ⟨object, h, decide_eq_true rfl⟩
  obtain ⟨found, hfound⟩ := Option.isSome_iff_exists.mp hfind
  have hmem := List.mem_of_find?_eq_some hfound
  have hname : foldCase found.name = foldCase object.name := by simpa using List.find?_some hfound
  rw [hfound, List.inj_on_of_nodup_map schema.objects_nodup hmem h hname]

end Objects

/-! ## The identifiers of a scan -/

section Identifiers

variable {datasourceId : String} {schema : Schema} {object object' : Object} {id : NodeId}

/-- The identifiers of an object, of the columns that are shown, and of its other parts. -/
theorem ownIds_datasetInfo : ownIds datasourceId (datasetInfo datasourceId object) =
    .dataObject datasourceId object.name ::
      ((tableInfo object).map (fun column => .field (.dataObject datasourceId object.name) column.name) ++
        object.indexes.map (fun index => .index (.dataObject datasourceId object.name) index.name) ++
        ((primaryKey object).map (fun info => .constraint (.dataObject datasourceId object.name) info.name) ++
          object.foreignKeys.map fun row =>
            .constraint (.dataObject datasourceId object.name) (foreignKey object row).name)) := by
  simp only [ownIds, datasetInfo, List.map_map, List.map_append, Function.comp_def, fieldInfo, indexInfo]

/-- The name of the object an identifier belongs to. -/
def owner : NodeId → Option String
  | .dataObject _ name => some name
  | .field (.dataObject _ name) _ => some name
  | .index (.dataObject _ name) _ => some name
  | .constraint (.dataObject _ name) _ => some name
  | _ => none

theorem owner_of_mem_ownIds {dataset : DatasetInfo} (h : id ∈ ownIds datasourceId dataset) :
    owner id = some dataset.name := by
  simp only [ownIds, List.mem_cons, List.mem_append, List.mem_map] at h
  rcases h with rfl | (⟨_, -, rfl⟩ | ⟨_, -, rfl⟩) | ⟨_, -, rfl⟩ <;> rfl

theorem foreignKey_name_inj {row row' : ForeignKeyRow} :
    (foreignKey object row).name = (foreignKey object row').name ↔ row.id = row'.id := by
  constructor
  · intro h
    have hlist := congrArg String.toList h
    simp only [foreignKey, String.toList_append, List.append_cancel_left_eq] at hlist
    exact Infra.repr_inj (String.toList_inj.mp hlist)
  · intro h
    rw [foreignKey, foreignKey, h]

theorem primaryKey_nodup : ((primaryKey object).map ConstraintInfo.name).Nodup := by
  unfold primaryKey
  dsimp only
  split
  · exact List.nodup_nil
  · exact List.nodup_singleton _

theorem primaryKey_ne_foreignKey {info : ConstraintInfo} (h : info ∈ primaryKey object) (row : ForeignKeyRow) :
    info.name ≠ (foreignKey object row).name := by
  unfold primaryKey at h
  dsimp only at h
  split at h
  · cases h
  · rw [List.mem_singleton.mp h]
    intro heq
    have hlist := congrArg String.toList heq
    simp only [foreignKey, String.toList_append] at hlist
    exact absurd (List.cons.inj hlist).1 (by decide)

/-- Two functions that tell the same elements apart have no repetition on the same lists. -/
theorem nodup_map_congr {α β γ : Type} {f : α → β} {g : α → γ} (h : ∀ a b, f a = f b ↔ g a = g b) (l : List α) :
    (l.map f).Nodup ↔ (l.map g).Nodup := by
  simp only [List.Nodup, List.pairwise_map, ne_eq, h]

/-- The identifiers of an object are distinct if and only if its foreign keys have one column each. -/
theorem ownIds_nodup_iff : (ownIds datasourceId (datasetInfo datasourceId object)).Nodup ↔
    (object.foreignKeys.map ForeignKeyRow.id).Nodup := by
  have hcolumns : ((tableInfo object).map Column.name).Nodup :=
    object.columns_nodup.sublist (List.filter_sublist.map _)
  have hfields : ((tableInfo object).map fun column =>
      NodeId.field (.dataObject datasourceId object.name) column.name).Nodup :=
    (nodup_map_congr (fun _ _ => by simp) _).mpr hcolumns
  have hindexes : (object.indexes.map fun index =>
      NodeId.index (.dataObject datasourceId object.name) index.name).Nodup :=
    (nodup_map_congr (fun _ _ => by simp) _).mpr object.indexes_nodup
  have hprimary : ((primaryKey object).map fun info =>
      NodeId.constraint (.dataObject datasourceId object.name) info.name).Nodup :=
    (nodup_map_congr (fun _ _ => by simp) _).mpr primaryKey_nodup
  have hforeign : (object.foreignKeys.map fun row =>
      NodeId.constraint (.dataObject datasourceId object.name) (foreignKey object row).name).Nodup ↔
      (object.foreignKeys.map ForeignKeyRow.id).Nodup :=
    nodup_map_congr (fun _ _ => by simp [foreignKey_name_inj]) _
  rw [ownIds_datasetInfo, List.nodup_cons, List.nodup_append, List.nodup_append, List.nodup_append, ← hforeign]
  constructor
  · rintro ⟨-, -, ⟨-, h, -⟩, -⟩
    exact h
  · intro h
    refine ⟨by simp, ⟨hfields, hindexes, ?_⟩, ⟨hprimary, h, ?_⟩, ?_⟩
    · intro id hid id' hid' heq
      obtain ⟨_, -, rfl⟩ := List.mem_map.mp hid
      obtain ⟨_, -, rfl⟩ := List.mem_map.mp hid'
      cases heq
    · intro id hid id' hid' heq
      obtain ⟨info, hinfo, rfl⟩ := List.mem_map.mp hid
      obtain ⟨row, -, rfl⟩ := List.mem_map.mp hid'
      exact primaryKey_ne_foreignKey hinfo row (NodeId.constraint.inj heq).2
    · intro id hid id' hid' heq
      subst heq
      simp only [List.mem_append, List.mem_map] at hid hid'
      rcases hid with ⟨_, -, rfl⟩ | ⟨_, -, rfl⟩ <;> rcases hid' with ⟨_, -, h'⟩ | ⟨_, -, h'⟩ <;> cases h'

/-- The objects of a scan, up to their order. -/
theorem scanMetadata_perm : (scanMetadata datasourceId schema).Perm (schema.listed.map (datasetInfo datasourceId)) :=
  (List.perm_insertionSort _ _).map _

variable (datasourceId) in
/-- The identifiers of a scan are distinct if and only if no listed object has a foreign key of several columns. -/
theorem scanned_nodup_iff : ((scanMetadata datasourceId schema).flatMap (ownIds datasourceId)).Nodup ↔
    ∀ object ∈ schema.listed, (object.foreignKeys.map ForeignKeyRow.id).Nodup := by
  have hobjects : schema.listed.Nodup := (List.Nodup.of_map _ schema.objects_nodup).filter _
  rw [(scanMetadata_perm.flatMap_right _).nodup_iff, List.flatMap_map, List.nodup_flatMap]
  simp only [ownIds_nodup_iff]
  refine and_iff_left (hobjects.imp_of_mem fun {a b} ha hb hne id hid hid' => hne ?_)
  have hname := (owner_of_mem_ownIds hid).symm.trans (owner_of_mem_ownIds hid')
  exact eq_of_name (mem_listed.mp ha).1 (mem_listed.mp hb).1 (Option.some.inj hname)

end Identifiers

/-! ## The relations of a scan -/

section Relations

variable {datasource : Datasource} {datasourceId : String} {schema : Schema} {object : Object}

theorem scanRelations_eq : scanRelations datasourceId schema =
    schema.listed.flatMap fun object => object.foreignKeys.map (relationInfo datasourceId object) := by
  unfold scanRelations Schema.listed
  induction schema.objects with
  | nil => rfl
  | cons object objects ih =>
    by_cases hlisted : isListed object.name
    · rw [List.filter_cons_of_pos (p := fun object : Object => isListed object.name) hlisted, List.flatMap_cons, ← ih]
      by_cases hview : object.isView
      · rw [List.filter_cons_of_neg (by simp [hview]), (object.view hview).2]
        rfl
      · rw [List.filter_cons_of_pos (by simp [hview, hlisted]), List.flatMap_cons]
    · rw [List.filter_cons_of_neg (p := fun object : Object => isListed object.name) hlisted,
        List.filter_cons_of_neg (by simp [hlisted]), ih]

/-- The edges of a scan go to the parents as the foreign keys spell them. -/
theorem scanned_edges : (scanRelations datasource.id schema).map (relationshipEdge datasource) =
    schema.listed.flatMap fun object => object.foreignKeys.map fun row =>
      relationshipTo datasource.id object row row.table := by
  rw [scanRelations_eq, List.map_flatMap]
  refine List.flatMap_congr fun object _ => ?_
  rw [List.map_map]
  rfl

variable (datasource) in
theorem scanned_edges_nodup_iff : ((scanRelations datasource.id schema).map (relationshipEdge datasource)).Nodup ↔
    ∀ object ∈ schema.listed, (object.foreignKeys.map ForeignKeyRow.pair).Nodup := by
  have hobjects : schema.listed.Nodup := (List.Nodup.of_map _ schema.objects_nodup).filter _
  have hpairs : ∀ object : Object, (object.foreignKeys.map fun row =>
      relationshipTo datasource.id object row row.table).Nodup ↔ (object.foreignKeys.map ForeignKeyRow.pair).Nodup := by
    intro object
    refine nodup_map_congr (fun row row' => ?_) _
    simp only [relationshipTo, ForeignKeyRow.pair, ScanGraphEdge.mk.injEq, ScanEdgeType.relatesTo.injEq,
      RelatesTo.mk.injEq, NodeId.dataObject.injEq, Prod.mk.injEq, true_and, and_true]
    exact ⟨fun ⟨⟨h, h'⟩, h''⟩ => ⟨h, h'', h'⟩, fun ⟨h, h'', h'⟩ => ⟨⟨h, h'⟩, h''⟩⟩
  rw [scanned_edges, List.nodup_flatMap]
  simp only [hpairs]
  refine and_iff_left (hobjects.imp_of_mem fun {a b} ha hb hne edge hedge hedge' => hne ?_)
  obtain ⟨row, -, rfl⟩ := List.mem_map.mp hedge
  obtain ⟨row', -, heq⟩ := List.mem_map.mp hedge'
  have hname := (NodeId.dataObject.inj (ScanGraphEdge.mk.inj heq).2.1).2
  exact (eq_of_name (mem_listed.mp ha).1 (mem_listed.mp hb).1 hname.symm)

theorem mem_scanned {name : String} : (∃ dataset ∈ scanMetadata datasourceId schema, dataset.name = name) ↔
    ∃ object ∈ schema.listed, object.name = name := by
  constructor
  · rintro ⟨dataset, hdataset, rfl⟩
    obtain ⟨object, hobject, rfl⟩ := List.mem_map.mp (scanMetadata_perm.mem_iff.mp hdataset)
    exact ⟨object, hobject, rfl⟩
  · rintro ⟨object, hobject, rfl⟩
    exact ⟨_, scanMetadata_perm.mem_iff.mpr (List.mem_map_of_mem hobject), rfl⟩

variable (datasourceId) in
/-- The relations of a scan are between its datasets if and only if the foreign keys name listed objects. -/
theorem relates_iff : (∀ relation ∈ scanRelations datasourceId schema,
      Relates (scanMetadata datasourceId schema) relation) ↔
    ∀ object ∈ schema.listed, ∀ row ∈ object.foreignKeys, ∃ parent ∈ schema.listed, parent.name = row.table := by
  rw [scanRelations_eq]
  constructor
  · intro h object hobject row hrow
    obtain ⟨-, hto, -⟩ := h (relationInfo datasourceId object row)
      (List.mem_flatMap.mpr ⟨object, hobject, List.mem_map_of_mem hrow⟩)
    exact mem_scanned.mp hto
  · intro h relation hrelation
    obtain ⟨object, hobject, hmem⟩ := List.mem_flatMap.mp hrelation
    obtain ⟨row, hrow, rfl⟩ := List.mem_map.mp hmem
    have hsource : relationSource (relationInfo datasourceId object row) = "database" := rfl
    refine ⟨mem_scanned.mpr ⟨object, hobject, rfl⟩, mem_scanned.mpr (h object hobject row hrow), ?_⟩
    rw [hsource]
    exact List.mem_cons_self

end Relations

/-! ## When a schema is published -/

section Published

variable {datasource : Datasource} {schema : Schema} {version : Nat} {scannedAt : Instant} {object : Object}
  {id : NodeId}

/-- An object whose columns are all shown has its identifiers in a scan. -/
theorem mem_ownIds_iff (hshown : ∀ column ∈ object.columns, column.hidden = false) :
    id ∈ ownIds datasource.id (datasetInfo datasource.id object) ↔ id ∈ object.ids datasource.id := by
  have hcolumns : tableInfo object = object.columns := by
    refine List.filter_eq_self.mpr fun column hcolumn => ?_
    rw [hshown column hcolumn]
    rfl
  rw [ownIds_datasetInfo, hcolumns, Object.ids]
  simp only [List.append_assoc]

/-- The graph of a plain schema has the edges of its foreign keys. -/
theorem relationships_of_plain (h : schema.Plain) : schema.relationships datasource.id =
    (scanRelations datasource.id schema).map (relationshipEdge datasource) := by
  rw [scanned_edges, listed_eq h.listed, Schema.relationships]
  refine List.flatMap_congr fun object hobject => ?_
  rw [← List.filterMap_eq_map]
  refine List.filterMap_congr fun row hrow => ?_
  obtain ⟨parent, hparent, hname⟩ := h.parents object hobject row hrow
  have hfound : schema.parent row.table = some parent := hname ▸ parent_name (mem_userObjects.mp hparent).1
  rw [hfound]
  exact congrArg (fun name => some (relationshipTo datasource.id object row name)) hname

theorem scanned_of_mem {related : List ScanGraphEdge} (h : object ∈ schema.objects)
    (howner : owner id = some object.name)
    (hid : id ∈ (builtGraph datasource (scanMetadata datasource.id schema) related version scannedAt).nodeIds) :
    object ∈ schema.listed ∧ id ∈ ownIds datasource.id (datasetInfo datasource.id object) := by
  have hplain : id.isNamespace = false := by
    cases id with
    | namespaceOf => cases howner
    | _ => rfl
  rcases (mem_built_iff hplain).mp hid with rfl | ⟨dataset, hdataset, hmem⟩
  · cases howner
  · obtain ⟨object', hobject', rfl⟩ := List.mem_map.mp (scanMetadata_perm.mem_iff.mp hdataset)
    have hname := (owner_of_mem_ownIds hmem).symm.trans howner
    obtain rfl := eq_of_name (mem_listed.mp hobject').1 h (Option.some.inj hname)
    exact ⟨hobject', hmem⟩

/-- A column with a node in a scan is shown. -/
theorem shown_of_mem {column : Column} (hcolumn : column ∈ object.columns)
    (h : .field (.dataObject datasource.id object.name) column.name ∈
      ownIds datasource.id (datasetInfo datasource.id object)) : column.hidden = false := by
  rw [ownIds_datasetInfo] at h
  simp only [List.mem_cons, List.mem_append, List.mem_map, reduceCtorEq, and_false, exists_false, or_false,
    false_or, NodeId.field.injEq, true_and] at h
  obtain ⟨column', hcolumn', hname⟩ := h
  obtain ⟨hmem, hshown⟩ := List.mem_filter.mp hcolumn'
  rw [List.inj_on_of_nodup_map object.columns_nodup hmem hcolumn hname] at hshown
  exact (Bool.not_eq_true' _).mp hshown

end Published

/-! ## A foreign key of two columns -/

section Composite

def column (name : String) : Column := { name, type := "INTEGER", notnull := false, pk := 0 }

def lineTable : Object :=
  { name := "lines", columns := [column "tenant", column "item"], columns_nodup := by decide
    indexes_nodup := by decide, view := fun h => absurd h Bool.false_ne_true }

/-- `FOREIGN KEY (tenant, item) REFERENCES lines (tenant, item)` -/
def stockTable : Object :=
  { name := "stock", columns := [column "tenant", column "item"]
    foreignKeys := [⟨0, "tenant", "lines", some "tenant"⟩, ⟨0, "item", "lines", some "item"⟩]
    columns_nodup := by decide, indexes_nodup := by decide, view := fun h => absurd h Bool.false_ne_true }

def stockSchema : Schema := ⟨[lineTable, stockTable], by decide⟩

def warehouse : Datasource :=
  { id := "local", name := "Local", kind := .relational, workspaceId := "w", driver := some "sqlite", status := .ready }

end Composite

end Adapters.SQLiteAdapter
