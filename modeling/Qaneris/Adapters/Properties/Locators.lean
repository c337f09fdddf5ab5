import Mathlib.Data.List.TakeWhile
import Qaneris.Adapters.Relational
import Qaneris.Querying.Dialects
import Qaneris.Scan.Properties.Graph

/-!
# Locators and the tables they stand for

* `locators_identify_iff` — the locators of a graph are the schemas and the names of the scanned tables if and
  only if no name of a table has a dot
-/

namespace Adapters

open Contracts (GroundedQueryPlan)
open Querying (Driver isIdent SQLCompiler.quote SQLCompiler.table)
open Scan

/-! ## The last dot -/

theorem splitLastDot_of_not_mem {name : List Char} (h : '.' ∉ name) : splitLastDot name = none := by
  unfold splitLastDot
  have hall : ∀ c ∈ name.reverse, decide (c ≠ '.') = true := by
    intro c hc
    refine decide_eq_true fun heq => h ?_
    rw [← heq]
    exact List.mem_reverse.mp hc
  rw [List.span_eq_takeWhile_dropWhile, List.dropWhile_eq_nil_iff.mpr hall]

theorem splitLastDot_append (head : List Char) {tail : List Char} (h : '.' ∉ tail) :
    splitLastDot (head ++ '.' :: tail) = some (head, tail) := by
  unfold splitLastDot
  have hall : ∀ c ∈ tail.reverse, decide (c ≠ '.') = true := by
    intro c hc
    refine decide_eq_true fun heq => h ?_
    rw [← heq]
    exact List.mem_reverse.mp hc
  have hreverse : (head ++ '.' :: tail).reverse = tail.reverse ++ '.' :: head.reverse := by simp
  rw [List.span_eq_takeWhile_dropWhile, hreverse, List.takeWhile_append_of_pos hall,
    List.dropWhile_append_of_pos hall, List.takeWhile_cons_of_neg (by decide),
    List.dropWhile_cons_of_neg (by decide)]
  simp

/-- A text with a dot is split at its last dot. -/
theorem exists_splitLastDot {name : List Char} (h : '.' ∈ name) :
    ∃ head tail, splitLastDot name = some (head, tail) ∧ name = head ++ '.' :: tail ∧ '.' ∉ tail := by
  obtain ⟨tail, head, hname, hnot⟩ := List.eq_append_cons_of_mem (List.mem_reverse.mpr h)
  have hsplit : name = head.reverse ++ '.' :: tail.reverse := by
    rw [← List.reverse_reverse name, hname]
    simp
  have htail : '.' ∉ tail.reverse := fun hmem => hnot (List.mem_reverse.mp hmem)
  refine ⟨head.reverse, tail.reverse, ?_, hsplit, htail⟩
  rw [hsplit]
  exact splitLastDot_append _ htail

/-! ## Locations -/

section Location

variable {t t' : ScannedTable} {dataset : DatasetInfo}

theorem datasetName_some {schema : String} (h : 1 ≤ schema.length) (table : String) :
    datasetName (some schema) table = schema ++ "." ++ table ∧ schema ≠ "" := by
  have hne : schema ≠ "" := by
    rintro rfl
    exact absurd h (by decide)
  exact ⟨if_neg hne, hne⟩

/-- A dataset is published under its schema and its table if and only if the table has no dot. -/
theorem location_iff (h : t.IsDataset dataset) :
    location dataset = (t.schema, t.table) ↔ '.' ∉ t.table.toList := by
  obtain ⟨hname, hnamespace⟩ := h
  obtain ⟨schema, table, hlength⟩ := t
  dsimp only at hname hnamespace ⊢
  cases schema with
  | none =>
    have hfull : dataset.name = table := hname
    by_cases hdot : '.' ∈ table.toList
    · obtain ⟨head, tail, hsplit, -, -⟩ := exists_splitLastDot hdot
      have heq : location dataset = (some (String.ofList head), String.ofList tail) := by
        simp only [location, hnamespace, hfull, hsplit]
      rw [heq]
      exact iff_of_false (fun heq => Option.some_ne_none _ (Prod.mk.inj heq).1) (not_not.mpr hdot)
    · have heq : location dataset = (none, table) := by
        simp only [location, hnamespace, hfull, splitLastDot_of_not_mem hdot]
      exact iff_of_true heq hdot
  | some schema =>
    obtain ⟨hdataset, hne⟩ := datasetName_some (hlength schema rfl) table
    have hfull : dataset.name = schema ++ "." ++ table := hname.trans hdataset
    have hlist : dataset.name.toList = schema.toList ++ '.' :: table.toList := by
      rw [hfull, String.toList_append, String.toList_append, List.append_assoc]
      rfl
    have hmem : '.' ∈ dataset.name.toList := by
      rw [hlist]
      exact List.mem_append_right _ List.mem_cons_self
    obtain ⟨head, tail, hsplit, hname, htail⟩ := exists_splitLastDot hmem
    have heq : location dataset = (some schema, String.ofList tail) := by
      simp only [location, hnamespace, hsplit, ne_eq, hne, not_false_eq_true, if_true, Option.map_some,
        Option.getD_some]
    rw [heq]
    constructor
    · intro h
      rw [← (Prod.mk.inj h).2, String.toList_ofList]
      exact htail
    · intro hdot
      have hother := splitLastDot_append schema.toList hdot
      rw [← hlist, hsplit] at hother
      rw [(Prod.mk.inj (Option.some.inj hother)).2, String.ofList_toList]

/-- Tables without dots are told apart by the names of their datasets. -/
theorem datasetName_inj (h : '.' ∉ t.table.toList) (h' : '.' ∉ t'.table.toList)
    (heq : datasetName t.schema t.table = datasetName t'.schema t'.table) : t = t' := by
  have hlocation : ∀ {t : ScannedTable}, '.' ∉ t.table.toList →
      splitLastDot (datasetName t.schema t.table).toList =
        t.schema.map fun schema => (schema.toList, t.table.toList) := by
    intro t ht
    obtain ⟨schema, table, hlength⟩ := t
    cases schema with
    | none => exact splitLastDot_of_not_mem ht
    | some schema =>
      rw [(datasetName_some (hlength schema rfl) table).1, String.toList_append, String.toList_append,
        List.append_assoc]
      exact splitLastDot_append _ ht
  have hsplit := (hlocation h).symm.trans ((congrArg (fun name => splitLastDot name.toList) heq).trans (hlocation h'))
  obtain ⟨schema, table, _⟩ := t
  obtain ⟨schema', table', _⟩ := t'
  cases schema with
  | none =>
    cases schema' with
    | none =>
      obtain rfl : table = table' := heq
      rfl
    | some schema' => cases hsplit
  | some schema =>
    cases schema' with
    | none => cases hsplit
    | some schema' =>
      obtain ⟨hschema, htable⟩ := Prod.mk.inj (Option.some.inj hsplit)
      obtain rfl := String.toList_inj.mp hschema
      obtain rfl := String.toList_inj.mp htable
      rfl

end Location

/-! ## Tables -/

/-- The tokens of a table in a command. -/
def ScannedTable.tokens (t : ScannedTable) : List Infra.Token :=
  match t.schema with
  | none => [.quoted t.table.toList]
  | some schema => [.quoted schema.toList, .mark '.', .quoted t.table.toList]

/-- The compiled table of a locator that is the table. -/
theorem table_tokens {t : ScannedTable} {d : Driver} {plan : GroundedQueryPlan} {objectId : String}
    {locator : Contracts.GroundedDataObjectRef} (h : plan.locator objectId = some locator)
    (hnamespace : locator.namespace_ = t.schema) (hname : locator.name = some t.table) :
    ∃ text, SQLCompiler.table d plan objectId = .ok text ∧
      Infra.lex isIdent d.quote text.toList = some t.tokens := by
  have hquote : isIdent d.quote = false := by cases d <;> decide
  have hbind : ((plan.locator objectId).bind fun locator => locator.name.map fun name => (locator, name)) =
      some (locator, t.table) := by
    rw [h, Option.bind_some, hname]
    rfl
  obtain ⟨schema, table, hlength⟩ := t
  cases schema with
  | none =>
    refine ⟨SQLCompiler.quote d table, ?_, ?_⟩
    · simp only [SQLCompiler.table, hbind, hnamespace, Querying.given]
    · have hclean : Infra.Clean isIdent d.quote [.quoted table.toList] :=
        ⟨fun _ h => (List.mem_singleton.mp h) ▸ trivial, .singleton _⟩
      have hread := Infra.lex_render hquote hclean
      rw [Infra.render_cons, Infra.render_nil, List.append_nil] at hread
      rw [SQLCompiler.quote, String.toList_ofList]
      exact hread
  | some schema =>
    obtain ⟨-, hne⟩ := datasetName_some (hlength schema rfl) table
    refine ⟨SQLCompiler.quote d schema ++ "." ++ SQLCompiler.quote d table, ?_, ?_⟩
    · simp only [SQLCompiler.table, hbind, hnamespace, Querying.given, hne, if_false]
    · have hfits : ∀ token ∈ [Infra.Token.quoted schema.toList, .mark '.', .quoted table.toList],
          token.Fits isIdent d.quote := by
        intro token hmem
        simp only [List.mem_cons, List.not_mem_nil, or_false] at hmem
        rcases hmem with rfl | rfl | rfl
        · trivial
        · exact ⟨by decide, by cases d <;> decide⟩
        · trivial
      have hapart : [Infra.Token.quoted schema.toList, .mark '.', .quoted table.toList].IsChain
          Infra.Token.Apart := .cons_cons trivial (.cons_cons trivial (.singleton _))
      have hread := Infra.lex_render hquote ⟨hfits, hapart⟩
      rw [Infra.render_cons, Infra.render_cons, Infra.render_cons, Infra.render_nil, List.append_nil] at hread
      rw [String.toList_append, String.toList_append, SQLCompiler.quote, SQLCompiler.quote,
        List.append_assoc]
      simp only [String.toList_ofList]
      exact hread

/-- The locators of a graph are the tables that were scanned. -/
structure Identified (graph : ScanGraph) (tables : List ScannedTable) : Prop where
  exact_ : ∀ t ∈ tables, ∀ pair,
    (datasetName t.schema t.table, pair) ∈ locators graph.nodes ↔ pair = (t.schema, t.table)
  distinct : ∀ t ∈ tables, ∀ t' ∈ tables, ∀ pair, (datasetName t.schema t.table, pair) ∈ locators graph.nodes →
    (datasetName t'.schema t'.table, pair) ∈ locators graph.nodes → t = t'
  quoted : ∀ t ∈ tables, ∀ (d : Driver) (plan : GroundedQueryPlan) objectId locator name,
    plan.locator objectId = some locator → locator.name = some name →
    (datasetName t.schema t.table, locator.namespace_, name) ∈ locators graph.nodes →
    ∃ text, SQLCompiler.table d plan objectId = .ok text ∧
      Infra.lex isIdent d.quote text.toList = some t.tokens

section Identified

variable {datasource : Datasource} {datasets : List DatasetInfo} {relations : List RelationInfo}
  {version : Nat} {scannedAt : Instant} {graph : ScanGraph} {tables : List ScannedTable}

theorem mem_locators_iff (hbuild : build datasource datasets relations version scannedAt = .ok graph)
    {entry : String × Option String × String} : entry ∈ locators graph.nodes ↔
      ∃ dataset ∈ datasets, (dataset.name, location dataset) = entry := by
  rw [locators_build hbuild, List.mem_map]

/-- The locators of a graph are the tables that were scanned if and only if no name of a table has a dot. -/
theorem locators_identify_iff (hbuild : build datasource datasets relations version scannedAt = .ok graph)
    (htables : List.Forall₂ ScannedTable.IsDataset tables datasets) :
    Identified graph tables ↔ ∀ t ∈ tables, '.' ∉ t.table.toList := by
  constructor
  · intro h t ht
    obtain ⟨dataset, hdataset, his⟩ := Infra.exists_of_forall₂ htables ht
    refine (location_iff his).mp ((h.exact_ t ht _).mp ((mem_locators_iff hbuild).mpr ⟨dataset, hdataset, ?_⟩))
    rw [his.1]
  · intro hdots
    have hmem : ∀ t ∈ tables, ∀ pair, (datasetName t.schema t.table, pair) ∈ locators graph.nodes ↔
        pair = (t.schema, t.table) := by
      intro t ht pair
      rw [mem_locators_iff hbuild]
      constructor
      · rintro ⟨dataset, hdataset, heq⟩
        obtain ⟨hname, rfl⟩ := Prod.mk.inj heq
        obtain ⟨t', ht', his⟩ := Infra.exists_of_forall₂ htables.flip hdataset
        obtain rfl := datasetName_inj (hdots t' ht') (hdots t ht) (his.1.symm.trans hname)
        exact (location_iff his).mpr (hdots t' ht')
      · rintro rfl
        obtain ⟨dataset, hdataset, his⟩ := Infra.exists_of_forall₂ htables ht
        exact ⟨dataset, hdataset, Prod.ext his.1 ((location_iff his).mpr (hdots t ht))⟩
    refine ⟨hmem, fun t ht t' ht' pair hpair hpair' => ?_, fun t ht d plan objectId locator name hlocator
      hname hpair => ?_⟩
    · have heq := ((hmem t ht pair).mp hpair).symm.trans ((hmem t' ht' pair).mp hpair')
      obtain ⟨hschema, htable⟩ := Prod.mk.inj heq
      refine datasetName_inj (hdots t ht) (hdots t' ht') ?_
      rw [hschema, htable]
    · obtain ⟨hnamespace, rfl⟩ := Prod.mk.inj ((hmem t ht _).mp hpair)
      exact table_tokens hlocator hnamespace hname

end Identified

/-! ## A table with a dot in its name -/

section Dotted

def shop : Datasource :=
  { id := "shop", name := "Shop", kind := .relational, workspaceId := "w", driver := some "postgresql", status := .ready }

def plainTable : ScannedTable := ⟨some "public", "orders", by decide⟩

/-- A table of the same schema whose name ends with the name of the other one. -/
def dottedTable : ScannedTable := ⟨some "public", "old.orders", by decide⟩

def scannedDataset (t : ScannedTable) : DatasetInfo :=
  { datasourceId := "shop", name := datasetName t.schema t.table, namespace_ := t.schema }

theorem plain_table_identified : ∃ graph, build shop [scannedDataset plainTable] [] 1 0 = .ok graph ∧
    Identified graph [plainTable] := by
  obtain ⟨graph, hgraph, -⟩ := Infra.ok_of_any (x := build shop [scannedDataset plainTable] [] 1 0)
    (p := fun _ => true) (by decide)
  exact ⟨graph, hgraph, (locators_identify_iff hgraph (.cons ⟨rfl, rfl⟩ .nil)).mpr (by decide)⟩

/-- Two tables are published with one locator, which is that of the first. -/
theorem dotted_table_misread : ∃ graph,
    build shop [scannedDataset plainTable, scannedDataset dottedTable] [] 1 0 = .ok graph ∧
    locators graph.nodes = [("public.orders", some "public", "orders"), ("public.old.orders", some "public", "orders")] ∧
    ¬Identified graph [plainTable, dottedTable] := by
  obtain ⟨graph, hgraph, -⟩ := Infra.ok_of_any
    (x := build shop [scannedDataset plainTable, scannedDataset dottedTable] [] 1 0) (p := fun _ => true)
    (by decide)
  have hlocators : locators graph.nodes =
      [("public.orders", some "public", "orders"), ("public.old.orders", some "public", "orders")] := by
    rw [locators_build hgraph]
    decide
  refine ⟨graph, hgraph, hlocators, fun h => ?_⟩
  have heq := h.distinct plainTable (by simp) dottedTable (by simp) (some "public", "orders")
  rw [hlocators] at heq
  exact absurd (heq (by decide) (by decide)) (by decide)

end Dotted

end Adapters
