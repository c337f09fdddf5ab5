import Qaneris.Graph.Reading

/-!
# Merging views of one graph

Views of one published graph agree on what stands under an identity. Each list of a merged view is
then fixed by the records in it (`canonical_congr`), which gives all laws of the merge.
-/

namespace Graph

open Infra

/-- A published graph: what stands under each identity. -/
structure PublishedGraph where
  datasource : String → Option GraphDatasource
  dataObject : String → Option GraphDataObject
  field : String → Option GraphField
  relationship : String → Option GraphRelationship

/-- A view whose records are those of the graph, in any order and any number of times. -/
structure ReadFrom (graph : PublishedGraph) (g : GraphStructure) : Prop where
  datasources : ∀ a ∈ g.datasources, graph.datasource a.nodeId = some a
  dataObjects : ∀ a ∈ g.dataObjects, graph.dataObject a.nodeId = some a
  fields : ∀ a ∈ g.fields, graph.field a.nodeId = some a
  relationships : ∀ a ∈ g.relationships, graph.relationship a.relationshipId = some a

/-- The same records in any order. -/
structure Reordered (g h : GraphStructure) : Prop where
  datasources : g.datasources.Perm h.datasources
  dataObjects : g.dataObjects.Perm h.dataObjects
  fields : g.fields.Perm h.fields
  relationships : g.relationships.Perm h.relationships
  truncated : g.truncated = h.truncated

theorem identified_of_read {α : Type} {identity : α → String} {content : String → Option α}
    {items : List α} (h : ∀ a ∈ items, content (identity a) = some a) :
    Identified identity items := by
  intro a ha b hb heq
  have hsame : some a = some b := by rw [← h a ha, ← h b hb, heq]
  exact Option.some.inj hsame

/-! ## The keys tell identities apart -/

theorem datasource_of_key (a b : GraphDatasource) (h : a.key = b.key) : a.nodeId = b.nodeId := by
  simp only [GraphDatasource.key, List.cons.injEq] at h
  exact h.2.1

theorem dataObject_of_key (a b : GraphDataObject) (h : a.key = b.key) : a.nodeId = b.nodeId := by
  simp only [GraphDataObject.key, List.cons.injEq] at h
  exact h.2.2.2.1

theorem field_of_key (a b : GraphField) (h : a.key = b.key) : a.nodeId = b.nodeId := by
  simp only [GraphField.key, List.cons.injEq] at h
  exact h.2.2.2.1

theorem relationship_of_key (a b : GraphRelationship) (h : a.key = b.key) :
    a.relationshipId = b.relationshipId := by
  simp only [GraphRelationship.key, List.cons.injEq] at h
  exact h.2.1

/-! ## The records of a merged view -/

/-- Each record of the result is one of the two views, and each of theirs is in the result. -/
structure UnionOf (g h m : GraphStructure) : Prop where
  datasources : ∀ a, a ∈ m.datasources ↔ a ∈ g.datasources ∨ a ∈ h.datasources
  dataObjects : ∀ a, a ∈ m.dataObjects ↔ a ∈ g.dataObjects ∨ a ∈ h.dataObjects
  fields : ∀ a, a ∈ m.fields ↔ a ∈ g.fields ∨ a ∈ h.fields
  relationships : ∀ a, a ∈ m.relationships ↔ a ∈ g.relationships ∨ a ∈ h.relationships
  truncated : m.truncated = (g.truncated || h.truncated)

/-- One entry for each identity, and the lists sorted by their keys. -/
structure Canonical (m : GraphStructure) : Prop where
  datasources : (m.datasources.map (·.nodeId)).Nodup
  dataObjects : (m.dataObjects.map (·.nodeId)).Nodup
  fields : (m.fields.map (·.nodeId)).Nodup
  relationships : (m.relationships.map (·.relationshipId)).Nodup
  sorted : m.datasources.Pairwise (·.key ≤ ·.key) ∧ m.dataObjects.Pairwise (·.key ≤ ·.key) ∧
    m.fields.Pairwise (·.key ≤ ·.key) ∧ m.relationships.Pairwise (·.key ≤ ·.key)

variable {graph : PublishedGraph} {a b c g h : GraphStructure}

theorem canonical_merged (g h : GraphStructure) : Canonical (g.merged h) where
  datasources := nodup_canonical _ _ _
  dataObjects := nodup_canonical _ _ _
  fields := nodup_canonical _ _ _
  relationships := nodup_canonical _ _ _
  sorted := ⟨pairwise_sortedBy _ _, pairwise_sortedBy _ _, pairwise_sortedBy _ _,
    pairwise_sortedBy _ _⟩

theorem read_append {α : Type} {identity : α → String} {content : String → Option α}
    {first second : List α} (hfirst : ∀ a ∈ first, content (identity a) = some a)
    (hsecond : ∀ a ∈ second, content (identity a) = some a) :
    ∀ a ∈ first ++ second, content (identity a) = some a := by
  intro a ha
  rcases List.mem_append.mp ha with ha | ha
  · exact hfirst a ha
  · exact hsecond a ha

theorem unionOf_merged (hg : ReadFrom graph g) (hh : ReadFrom graph h) :
    UnionOf g h (g.merged h) where
  datasources a :=
    (mem_canonical (identified_of_read (read_append hg.datasources hh.datasources))).trans
      List.mem_append
  dataObjects a :=
    (mem_canonical (identified_of_read (read_append hg.dataObjects hh.dataObjects))).trans
      List.mem_append
  fields a :=
    (mem_canonical (identified_of_read (read_append hg.fields hh.fields))).trans List.mem_append
  relationships a :=
    (mem_canonical (identified_of_read (read_append hg.relationships hh.relationships))).trans
      List.mem_append
  truncated := rfl

/-- A merged view is a view of the same graph. -/
theorem ReadFrom.merged (hg : ReadFrom graph g) (hh : ReadFrom graph h) :
    ReadFrom graph (g.merged h) where
  datasources a ha := read_append hg.datasources hh.datasources a
    (List.mem_append.mpr (((unionOf_merged hg hh).datasources a).mp ha))
  dataObjects a ha := read_append hg.dataObjects hh.dataObjects a
    (List.mem_append.mpr (((unionOf_merged hg hh).dataObjects a).mp ha))
  fields a ha := read_append hg.fields hh.fields a
    (List.mem_append.mpr (((unionOf_merged hg hh).fields a).mp ha))
  relationships a ha := read_append hg.relationships hh.relationships a
    (List.mem_append.mpr (((unionOf_merged hg hh).relationships a).mp ha))

/-- **A merged view is fixed by the records of the two views.** -/
theorem merged_congr {g' h' : GraphStructure} (hg : ReadFrom graph g) (hh : ReadFrom graph h)
    (hdatasources : ∀ x, x ∈ g.datasources ∨ x ∈ h.datasources ↔
      x ∈ g'.datasources ∨ x ∈ h'.datasources)
    (hdataObjects : ∀ x, x ∈ g.dataObjects ∨ x ∈ h.dataObjects ↔
      x ∈ g'.dataObjects ∨ x ∈ h'.dataObjects)
    (hfields : ∀ x, x ∈ g.fields ∨ x ∈ h.fields ↔ x ∈ g'.fields ∨ x ∈ h'.fields)
    (hrelationships : ∀ x, x ∈ g.relationships ∨ x ∈ h.relationships ↔
      x ∈ g'.relationships ∨ x ∈ h'.relationships)
    (htruncated : (g.truncated || h.truncated) = (g'.truncated || h'.truncated)) :
    g.merged h = g'.merged h' := by
  have hd := canonical_congr GraphDatasource.key (g'.datasources ++ h'.datasources)
    (identified_of_read (read_append hg.datasources hh.datasources)) datasource_of_key
    (fun x => by rw [List.mem_append, List.mem_append]; exact hdatasources x)
  have ho := canonical_congr GraphDataObject.key (g'.dataObjects ++ h'.dataObjects)
    (identified_of_read (read_append hg.dataObjects hh.dataObjects)) dataObject_of_key
    (fun x => by rw [List.mem_append, List.mem_append]; exact hdataObjects x)
  have hf := canonical_congr GraphField.key (g'.fields ++ h'.fields)
    (identified_of_read (read_append hg.fields hh.fields)) field_of_key
    (fun x => by rw [List.mem_append, List.mem_append]; exact hfields x)
  have hr := canonical_congr GraphRelationship.key (g'.relationships ++ h'.relationships)
    (identified_of_read (read_append hg.relationships hh.relationships)) relationship_of_key
    (fun x => by rw [List.mem_append, List.mem_append]; exact hrelationships x)
  unfold GraphStructure.merged GraphStructure.sorted unique
  simp only [GraphStructure.mk.injEq]
  exact ⟨hd, ho, hf, hr, htruncated⟩

/-! ## The laws of the merge -/

theorem merged_comm (hg : ReadFrom graph g) (hh : ReadFrom graph h) : g.merged h = h.merged g :=
  merged_congr hg hh (fun _ => or_comm) (fun _ => or_comm) (fun _ => or_comm) (fun _ => or_comm)
    (Bool.or_comm _ _)

theorem merged_assoc (ha : ReadFrom graph a) (hb : ReadFrom graph b) (hc : ReadFrom graph c) :
    (a.merged b).merged c = a.merged (b.merged c) := by
  have hab := unionOf_merged ha hb
  have hbc := unionOf_merged hb hc
  refine merged_congr (ha.merged hb) hc ?_ ?_ ?_ ?_ ?_
  · intro x
    rw [hab.datasources, hbc.datasources, or_assoc]
  · intro x
    rw [hab.dataObjects, hbc.dataObjects, or_assoc]
  · intro x
    rw [hab.fields, hbc.fields, or_assoc]
  · intro x
    rw [hab.relationships, hbc.relationships, or_assoc]
  · rw [hab.truncated, hbc.truncated, Bool.or_assoc]

/-- The records of one view are among those of the other. -/
structure Within (g h : GraphStructure) : Prop where
  datasources : ∀ x ∈ g.datasources, x ∈ h.datasources
  dataObjects : ∀ x ∈ g.dataObjects, x ∈ h.dataObjects
  fields : ∀ x ∈ g.fields, x ∈ h.fields
  relationships : ∀ x ∈ g.relationships, x ∈ h.relationships
  truncated : g.truncated = true → h.truncated = true

theorem Within.refl (g : GraphStructure) : Within g g :=
  ⟨fun _ => id, fun _ => id, fun _ => id, fun _ => id, id⟩

theorem Within.trans (hab : Within a b) (hbc : Within b c) : Within a c where
  datasources x hx := hbc.datasources x (hab.datasources x hx)
  dataObjects x hx := hbc.dataObjects x (hab.dataObjects x hx)
  fields x hx := hbc.fields x (hab.fields x hx)
  relationships x hx := hbc.relationships x (hab.relationships x hx)
  truncated ht := hbc.truncated (hab.truncated ht)

theorem within_merged_left (hg : ReadFrom graph g) (hh : ReadFrom graph h) :
    Within g (g.merged h) := by
  have hunion := unionOf_merged hg hh
  exact
    { datasources := fun x hx => (hunion.datasources x).mpr (.inl hx)
      dataObjects := fun x hx => (hunion.dataObjects x).mpr (.inl hx)
      fields := fun x hx => (hunion.fields x).mpr (.inl hx)
      relationships := fun x hx => (hunion.relationships x).mpr (.inl hx)
      truncated := fun ht => by rw [hunion.truncated, ht, Bool.true_or] }

theorem within_merged_right (hg : ReadFrom graph g) (hh : ReadFrom graph h) :
    Within h (g.merged h) := by
  rw [merged_comm hg hh]
  exact within_merged_left hh hg

/-- **A merged view absorbs every view whose records it has.** -/
theorem merged_absorbs {x : GraphStructure} (hg : ReadFrom graph g) (hh : ReadFrom graph h)
    (hx : ReadFrom graph x) (hwithin : Within x (g.merged h)) :
    (g.merged h).merged x = g.merged h ∧ x.merged (g.merged h) = g.merged h := by
  have hunion := unionOf_merged hg hh
  have hright : (g.merged h).merged x = g.merged h := by
    refine merged_congr (hg.merged hh) hx ?_ ?_ ?_ ?_ ?_
    · intro y
      rw [or_iff_left_of_imp (hwithin.datasources y), hunion.datasources]
    · intro y
      rw [or_iff_left_of_imp (hwithin.dataObjects y), hunion.dataObjects]
    · intro y
      rw [or_iff_left_of_imp (hwithin.fields y), hunion.fields]
    · intro y
      rw [or_iff_left_of_imp (hwithin.relationships y), hunion.relationships]
    · rw [← hunion.truncated]
      cases ht : x.truncated with
      | false => rw [Bool.or_false]
      | true => rw [hwithin.truncated ht, Bool.true_or]
  exact ⟨hright, (merged_comm hx (hg.merged hh)).trans hright⟩

theorem merged_reordered {a' b' : GraphStructure} (ha : ReadFrom graph a) (hb : ReadFrom graph b)
    (hra : Reordered a a') (hrb : Reordered b b') : a'.merged b' = a.merged b := by
  refine (merged_congr ha hb ?_ ?_ ?_ ?_ ?_).symm
  · intro x
    rw [hra.datasources.mem_iff, hrb.datasources.mem_iff]
  · intro x
    rw [hra.dataObjects.mem_iff, hrb.dataObjects.mem_iff]
  · intro x
    rw [hra.fields.mem_iff, hrb.fields.mem_iff]
  · intro x
    rw [hra.relationships.mem_iff, hrb.relationships.mem_iff]
  · rw [hra.truncated, hrb.truncated]

/-- **The merge of views of one graph is canonical**: commutative and associative, absorbing its
inputs and itself, with one entry for each identity, exactly the records of its inputs, and the same
order whatever order the views had. -/
theorem merge_is_canonical (ha : ReadFrom graph a) (hb : ReadFrom graph b) (hc : ReadFrom graph c) :
    a.merged b = b.merged a ∧
      (a.merged b).merged c = a.merged (b.merged c) ∧
      (∀ x ∈ [a, b, a.merged b],
        (a.merged b).merged x = a.merged b ∧ x.merged (a.merged b) = a.merged b) ∧
      (∀ x ∈ [a, b, c, a.merged b, (a.merged b).merged c],
        ((a.merged b).merged c).merged x = (a.merged b).merged c ∧
          x.merged ((a.merged b).merged c) = (a.merged b).merged c) ∧
      Canonical (a.merged b) ∧ UnionOf a b (a.merged b) ∧
      ∀ a' b', Reordered a a' → Reordered b b' → a'.merged b' = a.merged b := by
  have hab := ha.merged hb
  have hleft := within_merged_left ha hb
  have hright := within_merged_right ha hb
  have houter := within_merged_left hab hc
  refine ⟨merged_comm ha hb, merged_assoc ha hb hc, ?_, ?_, canonical_merged a b,
    unionOf_merged ha hb, fun a' b' hra hrb => merged_reordered ha hb hra hrb⟩
  · intro x hx
    simp only [List.mem_cons, List.not_mem_nil, or_false] at hx
    rcases hx with rfl | rfl | rfl
    · exact merged_absorbs ha hb ha hleft
    · exact merged_absorbs ha hb hb hright
    · exact merged_absorbs ha hb hab (.refl _)
  · intro x hx
    simp only [List.mem_cons, List.not_mem_nil, or_false] at hx
    rcases hx with rfl | rfl | rfl | rfl | rfl
    · exact merged_absorbs hab hc ha (hleft.trans houter)
    · exact merged_absorbs hab hc hb (hright.trans houter)
    · exact merged_absorbs hab hc hc (within_merged_right hab hc)
    · exact merged_absorbs hab hc hab houter
    · exact merged_absorbs hab hc (hab.merged hc) (.refl _)

/-- A source that two readers saw, the second one next to another source. -/
theorem two_reads_merged :
    let sales : GraphDatasource :=
      { nodeId := "n1", datasourceId := "d1", workspaceId := "w", name := "sales" }
    let stock : GraphDatasource :=
      { nodeId := "n2", datasourceId := "d2", workspaceId := "w", name := "stock" }
    GraphStructure.merged { datasources := [sales] } { datasources := [stock, sales] } =
      GraphStructure.merged { datasources := [stock, sales] } { datasources := [sales] } := by
  intro sales stock
  let graph : PublishedGraph :=
    { datasource := fun id => if id = "n1" then some sales else some stock
      dataObject := fun _ => none
      field := fun _ => none
      relationship := fun _ => none }
  have hread : ∀ l : List GraphDatasource, (∀ a ∈ l, a = sales ∨ a = stock) →
      ReadFrom graph { datasources := l } := by
    intro l hl
    refine ⟨?_, fun a ha => absurd ha List.not_mem_nil, fun a ha => absurd ha List.not_mem_nil,
      fun a ha => absurd ha List.not_mem_nil⟩
    intro a ha
    rcases hl a ha with rfl | rfl <;> rfl
  have hone := hread [sales] (by simp)
  have htwo := hread [stock, sales] (by simp)
  exact (merge_is_canonical hone htwo hone).1

end Graph
