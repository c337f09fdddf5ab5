import Qaneris.Querying.Properties.Filters
import Qaneris.Querying.Properties.Pipelines
import Qaneris.Querying.Properties.Planner

/-!
# Plans over one collection

* `MongoCompiler.exists_compile_iff` — which plans have a MongoDB command
* `planned_compiles_iff` — which contexts over one collection have one, where the planner returns a plan
-/

namespace Querying

open Contracts
open Infra (bind_ok exists_bind_ok)

/-! ## Names of dictionaries -/

section Names

variable {α : Type} {name : α → String} {value : α → Value} {items : List α}
  {fields : List (String × Value)} {key k : String} {v : Value}

theorem mem_names_setItem : k ∈ (setItem fields key v).map Prod.fst ↔ k = key ∨ k ∈ fields.map Prod.fst := by
  unfold setItem
  by_cases hany : (fields.any fun field => field.1 = key) = true
  · rw [if_pos hany, List.map_map]
    have hnames : fields.map (Prod.fst ∘ fun field => if field.1 = key then (key, v) else field) =
        fields.map Prod.fst := by
      refine List.map_congr_left fun field _ => ?_
      by_cases hfield : field.1 = key
      · simp [hfield]
      · simp [hfield]
    rw [hnames]
    refine ⟨Or.inr, fun h => h.elim (fun he => ?_) id⟩
    obtain ⟨field, hfield, hname⟩ := List.any_eq_true.mp hany
    exact List.mem_map.mpr ⟨field, hfield, (of_decide_eq_true hname).trans he.symm⟩
  · rw [if_neg hany, List.map_append, List.mem_append, List.map_cons, List.map_nil, List.mem_singleton, or_comm]

theorem mem_names_setAll : k ∈ (setAll name value items fields).map Prod.fst ↔
    k ∈ items.map name ∨ k ∈ fields.map Prod.fst := by
  induction items generalizing fields with
  | nil => simp [setAll]
  | cons item items ih =>
    have hstep : setAll name value (item :: items) fields =
        setAll name value items (setItem fields (name item) (value item)) := rfl
    rw [hstep, ih, mem_names_setItem, List.map_cons, List.mem_cons]
    tauto

theorem any_name_iff : (fields.any fun field => field.1 = k) = true ↔ k ∈ fields.map Prod.fst := by
  rw [List.any_eq_true, List.mem_map]
  exact exists_congr fun field => and_congr_right fun _ => decide_eq_true_iff

/-- A dictionary has an entry for each item when the names of the items are distinct. -/
theorem length_setAll_iff : (setAll name value items []).length = items.length ↔ (items.map name).Nodup := by
  refine ⟨fun h => (setAll_of_length h).1, fun h => ?_⟩
  induction items using List.reverseRecOn with
  | nil => rfl
  | append_singleton items item ih =>
    have hstep : setAll name value (items ++ [item]) [] =
        setItem (setAll name value items []) (name item) (value item) := List.foldl_append
    rw [List.map_append, List.map_cons, List.map_nil, List.nodup_append] at h
    obtain ⟨hnodup, -, hapart⟩ := h
    have hnew : ¬((setAll name value items []).any fun field => field.1 = name item) = true := by
      rw [any_name_iff, mem_names_setAll]
      rintro (hmem | hmem)
      · exact hapart _ hmem _ (List.mem_singleton.mpr rfl) rfl
      · cases hmem
    rw [hstep, setItem, if_neg hnew, List.length_append, List.length_append, ih hnodup]
    rfl

end Names

/-! ## Plans that have a command -/

namespace MongoCompiler

section Compiles

variable {t : Texts} {plan : GroundedQueryPlan}

/-- A path of segments that are not empty and do not begin with `$`. -/
def Dotted (path : String) : Prop :=
  ∀ part ∈ splitDots path.toList, part ≠ [] ∧ part.head? ≠ some '$'

theorem unsafePath_iff {path : String} : unsafePath path = false ↔ Dotted path := by
  unfold unsafePath Dotted
  rw [Bool.or_eq_false_iff, List.any_eq_false]
  constructor
  · rintro ⟨-, hparts⟩ part hpart
    simpa using hparts part hpart
  · intro hdotted
    refine ⟨decide_eq_false ?_, fun part hpart => by simpa using hdotted part hpart⟩
    rintro rfl
    exact (hdotted [] (by decide)).1 rfl

/-- The name of the collection of a plan. -/
def collectionName (plan : GroundedQueryPlan) : Option String :=
  (plan.locator (plan.dataObjectIds.headD "")).bind fun locator => given locator.name

/-- What the compiler asks of the name of an aggregate. -/
def FitsAlias (plan : GroundedQueryPlan) (item : PlanAggregate) : Prop :=
  item.alias_.toList.head? ≠ some '$' ∧ '.' ∉ item.alias_.toList ∧
    item.alias_ ∉ plan.groupBy.map fun ref => underscored ref.fieldPath

/-- What the compiler asks of a sort key. -/
def FitsSort (plan : GroundedQueryPlan) (key : String × Int) : Prop :=
  underscored key.1 = "_id" ∨ underscored key.1 ∈ (plan.groupBy.map fun ref => underscored ref.fieldPath) ∨
    underscored key.1 ∈ plan.aggregates.map PlanAggregate.alias_

/-- What the commands for a plan of aggregates ask of its names. -/
structure Grouped (plan : GroundedQueryPlan) : Prop where
  groups : (plan.groupBy.map fun ref => underscored ref.fieldPath).Nodup
  aliases : ∀ item ∈ plan.aggregates, FitsAlias plan item
  sorts : ∀ key ∈ sortKeys plan, FitsSort plan key

theorem groupKeys_eq_setAll : groupKeys plan = setAll (fun ref => underscored ref.fieldPath)
    (fun ref => Value.str ("$" ++ ref.fieldPath)) plan.groupBy [] := by
  unfold groupKeys dictOf setAll
  rw [List.foldl_map]

theorem mem_names_groupKeys {name : String} : name ∈ (groupKeys plan).map Prod.fst ↔
    name ∈ plan.groupBy.map fun ref => underscored ref.fieldPath := by
  rw [groupKeys_eq_setAll, mem_names_setAll]
  simp

theorem mem_names_projectOf {name : String} : name ∈ (projectOf plan).map Prod.fst ↔ name = "_id" ∨
    name ∈ (plan.groupBy.map fun ref => underscored ref.fieldPath) ∨
    name ∈ plan.aggregates.map PlanAggregate.alias_ := by
  have hproject : projectOf plan = setAll PlanAggregate.alias_ (fun _ => .int 1) plan.aggregates
      (setAll (fun ref : GroundedFieldRef => underscored ref.fieldPath)
        (fun ref => .str ("$_id." ++ underscored ref.fieldPath)) plan.groupBy [("_id", .int 0)]) := rfl
  rw [hproject, mem_names_setAll, mem_names_setAll, List.map_cons, List.map_nil, List.mem_singleton]
  tauto

theorem exists_addAggregate (group : List (String × Value)) (item : PlanAggregate) :
    (∃ group', addAggregate plan group item = .ok group') ↔ FitsAlias plan item := by
  unfold FitsAlias addAggregate
  rw [← mem_names_groupKeys, ← any_name_iff]
  split_ifs with hbadPath hcollides
  · refine iff_of_false (fun ⟨_, h⟩ => nomatch h) ?_
    rintro ⟨hdollar, hdot, -⟩
    exact hbadPath.elim hdollar hdot
  · exact iff_of_false (fun ⟨_, h⟩ => nomatch h) fun h => h.2.2 hcollides
  · rw [not_or] at hbadPath
    exact iff_of_true ⟨_, rfl⟩ ⟨hbadPath.1, hbadPath.2, hcollides⟩

theorem exists_addSort (fields : List (String × Value)) (key : String × Int) :
    (∃ fields', addSort plan fields key = .ok fields') ↔ FitsSort plan key := by
  unfold FitsSort addSort
  rw [← mem_names_projectOf, ← any_name_iff]
  split_ifs with hprojected
  · exact iff_of_true ⟨_, rfl⟩ hprojected
  · exact iff_of_false (fun ⟨_, h⟩ => nomatch h) hprojected

theorem exists_aggregate {name : String} {filter : List (String × Value)} :
    (∃ command, aggregate plan name filter = .ok command) ↔ Grouped plan := by
  have hgroups : (groupKeys plan).length ≠ plan.groupBy.length ↔
      ¬(plan.groupBy.map fun ref => underscored ref.fieldPath).Nodup := by
    rw [groupKeys_eq_setAll, ← length_setAll_iff]
  unfold aggregate
  by_cases hcollide : (groupKeys plan).length ≠ plan.groupBy.length
  · rw [if_pos hcollide]
    exact iff_of_false (fun ⟨_, h⟩ => nomatch h) fun h => hgroups.mp hcollide h.groups
  · have hnodup := not_not.mp fun h => hcollide (hgroups.mpr h)
    rw [if_neg hcollide]
    refine exists_bind_ok.trans ⟨?_, fun h => ?_⟩
    · rintro ⟨group, hgroup, hrest⟩
      obtain ⟨sorted, hsorted, -⟩ := exists_bind_ok.mp hrest
      exact ⟨hnodup, (Infra.exists_foldlM_ok exists_addAggregate).mp ⟨group, hgroup⟩,
        (Infra.exists_foldlM_ok exists_addSort).mp ⟨sorted, hsorted⟩⟩
    · obtain ⟨group, hgroup⟩ := (Infra.exists_foldlM_ok exists_addAggregate).mpr h.aliases
      obtain ⟨sorted, hsorted⟩ := (Infra.exists_foldlM_ok exists_addSort).mpr h.sorts
      refine ⟨group, hgroup, exists_bind_ok.mpr ⟨sorted, hsorted, ?_⟩⟩
      exact ⟨_, rfl⟩

theorem exists_find {name : String} {filter : List (String × Value)} :
    (∃ command, find plan name filter = .ok command) ↔ ∀ item ∈ plan.sorts, item.field ≠ none := by
  unfold find
  have hany : (plan.sorts.any fun item => item.field.isNone) = true ↔
      ¬∀ item ∈ plan.sorts, item.field ≠ none := by
    simp [List.any_eq_true]
  split_ifs with h
  · exact iff_of_false (fun ⟨_, h⟩ => nomatch h) (hany.mp h)
  · exact iff_of_true ⟨_, rfl⟩ (not_not.mp fun hno => h (hany.mpr hno))

/-- What the compiler asks of a plan. -/
structure Compiles (plan : GroundedQueryPlan) : Prop where
  single : plan.dataObjectIds.length = 1
  alone : plan.joins = []
  named : collectionName plan ≠ none
  safe : ∀ path ∈ allowed plan, Dotted path
  filters : ∀ item ∈ plan.filters, Refused item = false
  read : plan.aggregates = [] → plan.groupBy = [] → ∀ item ∈ plan.sorts, item.field ≠ none
  grouped : (plan.aggregates ≠ [] ∨ plan.groupBy ≠ []) → Grouped plan

theorem exists_clause {item : PlanFilter} : (∃ fields, clause t item = .ok fields) ↔ Refused item = false := by
  by_cases hoperator : item.operator = .contains
  · refine iff_of_true ?_ ?_
    · unfold clause
      rw [hoperator]
      exact ⟨_, rfl⟩
    · unfold Refused
      rw [hoperator]
  · exact clause_ok_iff hoperator

theorem exists_commandOf {name : String} {filter : List (String × Value)} :
    (∃ command, commandOf plan name filter = .ok command) ↔
      (plan.aggregates = [] → plan.groupBy = [] → ∀ item ∈ plan.sorts, item.field ≠ none) ∧
        ((plan.aggregates ≠ [] ∨ plan.groupBy ≠ []) → Grouped plan) := by
  unfold commandOf
  split_ifs with h
  · rw [exists_find]
    refine ⟨fun hread => ⟨fun _ _ => hread, fun hsome => ?_⟩, fun hand => hand.1 h.1 h.2⟩
    exact absurd h (fun hnone => hsome.elim (fun ha => ha hnone.1) fun hg => hg hnone.2)
  · rw [exists_aggregate]
    have hsome : plan.aggregates ≠ [] ∨ plan.groupBy ≠ [] := by
      by_contra hnone
      rw [not_or, not_not, not_not] at hnone
      exact h hnone
    exact ⟨fun hgrouped => ⟨fun ha hg => absurd ⟨ha, hg⟩ h, fun _ => hgrouped⟩, fun hand => hand.2 hsome⟩

/-- **The plans that have a MongoDB command.** -/
theorem exists_compile_iff : (∃ q, compile t plan = .ok q) ↔ Compiles plan := by
  have hbadPath : (allowed plan).any unsafePath = true ↔ ¬∀ path ∈ allowed plan, Dotted path := by
    rw [List.any_eq_true]
    simp only [← unsafePath_iff]
    simp
  unfold compile
  split
  · next hmany =>
    refine iff_of_false (fun ⟨_, h⟩ => nomatch h) fun h => ?_
    exact hmany.elim (fun hlength => hlength h.single) fun hjoins => hjoins h.alone
  next hone =>
  rw [not_or, not_not, not_not] at hone
  split
  · next hname => exact iff_of_false (fun ⟨_, h⟩ => nomatch h) fun h => h.named hname
  next name hname =>
  have hnamed : collectionName plan ≠ none := by
    unfold collectionName
    rw [hname]
    exact Option.some_ne_none _
  split
  · next hbad => exact iff_of_false (fun ⟨_, h⟩ => nomatch h) fun h => hbadPath.mp hbad h.safe
  next hsafe =>
  have hdotted := not_not.mp fun h => hsafe (hbadPath.mpr h)
  rw [exists_bind_ok]
  constructor
  · rintro ⟨clauses, hclauses, hrest⟩
    obtain ⟨command, hcommand, -⟩ := exists_bind_ok.mp hrest
    obtain ⟨hread, hgrouped⟩ := exists_commandOf.mp ⟨command, hcommand⟩
    refine ⟨hone.1, hone.2, hnamed, hdotted, fun item hitem => ?_, hread, hgrouped⟩
    exact exists_clause.mp (Infra.exists_mapM_ok.mp ⟨clauses, hclauses⟩ item hitem)
  · intro h
    obtain ⟨clauses, hclauses⟩ := Infra.exists_mapM_ok.mpr fun item hitem =>
      exists_clause (t := t).mpr (h.filters item hitem)
    obtain ⟨command, hcommand⟩ := exists_commandOf.mpr ⟨h.read, h.grouped⟩
    exact ⟨clauses, hclauses, exists_bind_ok.mpr ⟨command, hcommand, _, rfl⟩⟩

end Compiles

end MongoCompiler

/-! ## What the planner puts into a plan -/

namespace GroundedQueryPlanner

open GroundedPlanValidator (functionValue)

section Assembled

variable {t : Texts} {context : GroundedQueryContext}

/-- What a plan is made of, from what its steps have settled. -/
structure Assembled (context : GroundedQueryContext) (computed : Aggregates)
    (references : List GroundedFieldRef) (sorts : List PlanSort) (p : GroundedQueryPlan) : Prop where
  joins : ∃ datasourceId, relationships context datasourceId = .ok p.joins
  aggregated : aggregates context = .ok computed
  collected : groupBy context = .ok references
  ordered : ∃ limit, ordering context computed references = .ok (sorts, limit)
  objects : p.dataObjectIds = objectIds context p.joins
  dataObjects : p.dataObjects = context.dataObjects
  filters : p.filters = context.filters.map filterOf
  timeField : p.timeField = context.timeField
  selected : p.selectedFields = references
  read : Projects context → references ≠ [] →
    p.aggregates = [] ∧ p.groupBy = [] ∧ (p.sorts = [] ∨ p.sorts = sorts)
  grouped : (¬Projects context ∨ references = []) →
    p.aggregates = computed.items ∧ p.groupBy = references ∧ p.sorts = sorts

theorem plan_assembled {p : GroundedQueryPlan} (h : plan t context = .ok p) :
    ∃ computed references sorts, Assembled context computed references sorts p := by
  obtain ⟨b, hbody, hplan⟩ := bind_ok h
  unfold constrained at hplan
  split at hplan
  case isFalse => cases hplan
  cases hplan
  obtain ⟨datasourceId, -, hbody⟩ := bind_ok hbody
  obtain ⟨joins, hjoins, hbody⟩ := bind_ok hbody
  obtain ⟨-, -, hbody⟩ := bind_ok hbody
  obtain ⟨computed, hcomputed, hbody⟩ := bind_ok hbody
  obtain ⟨references, hreferences, hbody⟩ := bind_ok hbody
  obtain ⟨⟨sorts, limit⟩, hordering, hbody⟩ := bind_ok hbody
  refine ⟨computed, references, sorts, ?_⟩
  have hprojects := projectionLookup_objectIds hjoins
  dsimp only at hbody
  split at hbody
  · next hread =>
    cases hbody
    rw [hprojects] at hread
    refine ⟨⟨_, hjoins⟩, hcomputed, hreferences, ⟨_, hordering⟩, rfl, rfl, rfl, rfl, rfl, fun _ _ => ?_, ?_⟩
    · refine ⟨rfl, rfl, ?_⟩
      dsimp only [planOf]
      split
      · exact Or.inl rfl
      · exact Or.inr rfl
    · rintro (hnot | hnone)
      · exact absurd ⟨hread.1, hread.2.1⟩ hnot
      · exact absurd hnone hread.2.2
  · next hread =>
    cases hbody
    rw [hprojects] at hread
    refine ⟨⟨_, hjoins⟩, hcomputed, hreferences, ⟨_, hordering⟩, rfl, rfl, rfl, rfl, rfl, fun hp hsome => ?_,
      fun _ => ⟨rfl, rfl, rfl⟩⟩
    exact absurd ⟨hp.1, hp.2, hsome⟩ hread

/-! ### References -/

theorem fieldRef_ok {binding : QueryContextBinding} {ref : GroundedFieldRef}
    (h : binding.fieldRef = .ok (some ref)) :
    binding.fieldPath = some ref.fieldPath ∧ ref.datasourceId = binding.datasourceId ∧
      binding.dataObjectId = some ref.dataObjectId := by
  unfold QueryContextBinding.fieldRef at h
  dsimp only at h
  split_ifs at h with hpath hlength
  · cases Except.ok.inj h
  obtain rfl := Option.some.inj (Except.ok.inj h)
  have hsome : ∀ {text : Option String}, 1 ≤ (text.getD "").length → text = some (text.getD "") := by
    intro text hlong
    cases text with
    | none => exact absurd hlong (by decide)
    | some text => rfl
  exact ⟨hsome hlength.2.2, rfl, hsome hlength.2.1⟩

theorem dimensionRef_some {binding : QueryContextBinding} {ref : GroundedFieldRef}
    (h : dimensionRef binding = some ref) : binding.fieldRef = .ok (some ref) := by
  unfold dimensionRef at h
  cases hfield : binding.fieldRef with
  | error e =>
    rw [hfield] at h
    cases h
  | ok found =>
    rw [hfield] at h
    exact congrArg Except.ok h

/-- There are references when there are dimensions. -/
theorem groupBy_eq_nil {references : List GroundedFieldRef} (h : groupBy context = .ok references) :
    references = [] ↔ context.dimensions = [] := by
  constructor
  · intro hnone
    cases hdimensions : context.dimensions with
    | nil => rfl
    | cons binding bindings =>
      have hfold := h
      unfold groupBy at hfold
      rw [hdimensions, List.foldlM_cons] at hfold
      obtain ⟨middle, hmiddle, -⟩ := bind_ok hfold
      obtain ⟨ref, href, -⟩ := addDimension_ok hmiddle
      have hmem : ref ∈ dimensionRefs context :=
        List.mem_filterMap.mpr ⟨binding, hdimensions ▸ List.mem_cons_self, href⟩
      have hid := (groupBy_collected h).complete ref hmem
      rw [hnone] at hid
      cases hid
  · intro hnone
    unfold groupBy at h
    rw [hnone] at h
    exact (Except.ok.inj h).symm

/-! ### Aliases -/

theorem dot_not_mem_repr (n : Nat) : '.' ∉ (Nat.repr n).toList := by
  intro hdot
  rw [Nat.toList_repr] at hdot
  have hdigit := Nat.isDigit_of_mem_toDigits (by decide) (by decide) hdot
  exact absurd hdigit (by decide)

theorem candidate_text {base : String} (hne : base ≠ "") (k : Nat) :
    (candidate base k).toList.head? = base.toList.head? ∧
      ('.' ∈ (candidate base k).toList ↔ '.' ∈ base.toList) := by
  have hlist : base.toList ≠ [] := fun h => hne (String.toList_inj.mp h)
  cases k with
  | zero => exact ⟨rfl, Iff.rfl⟩
  | succ k =>
    rw [candidate, String.toList_append, String.toList_append]
    refine ⟨?_, ?_⟩
    · rw [List.append_assoc, List.head?_append_of_ne_nil _ hlist]
    · rw [List.mem_append, List.mem_append, or_assoc]
      refine or_iff_left (not_or.mpr ⟨by decide, dot_not_mem_repr _⟩)

theorem freshAlias_candidate (function : AggregateFunction) (fieldPath : String) (used : List String) :
    ∃ k, freshAlias function fieldPath used = candidate (if fieldPath = "" then functionValue function
      else functionValue function ++ "_" ++ fieldPath) k := by
  obtain ⟨name, hfind, -⟩ := exists_free (if fieldPath = "" then functionValue function
    else functionValue function ++ "_" ++ fieldPath) used
  obtain ⟨k, -, hk⟩ := List.mem_map.mp (List.mem_of_find?_eq_some hfind)
  refine ⟨k, ?_⟩
  unfold freshAlias
  dsimp only
  rw [hfind, hk]
  rfl

/-- An alias begins with a letter, and has a dot when the path has. -/
theorem freshAlias_text (function : AggregateFunction) (fieldPath : String) (used : List String) :
    (freshAlias function fieldPath used).toList.head? ≠ some '$' ∧
      ('.' ∈ (freshAlias function fieldPath used).toList ↔ '.' ∈ fieldPath.toList) := by
  obtain ⟨hne, hhead, hdot⟩ : functionValue function ≠ "" ∧
      (functionValue function).toList.head? ≠ some '$' ∧ '.' ∉ (functionValue function).toList := by
    cases function <;> decide
  obtain ⟨k, hk⟩ := freshAlias_candidate function fieldPath used
  rw [hk]
  by_cases hempty : fieldPath = ""
  · rw [if_pos hempty, hempty]
    obtain ⟨hfirst, hdots⟩ := candidate_text hne k
    exact ⟨hfirst ▸ hhead, hdots.trans (iff_of_false hdot (by decide))⟩
  · rw [if_neg hempty]
    have hbase : functionValue function ++ "_" ++ fieldPath ≠ "" := by
      intro h
      have hlist := congrArg String.toList h
      rw [String.toList_append, String.toList_append] at hlist
      exact absurd (List.append_eq_nil_iff.mp (List.append_eq_nil_iff.mp hlist).1).2 (by decide)
    obtain ⟨hfirst, hdots⟩ := candidate_text hbase k
    have hlist : (functionValue function).toList ≠ [] := fun h => hne (String.toList_inj.mp h)
    rw [hfirst, hdots, String.toList_append, String.toList_append]
    refine ⟨?_, ?_⟩
    · rwa [List.append_assoc, List.head?_append_of_ne_nil _ hlist]
    · rw [List.mem_append, List.mem_append]
      exact or_iff_right (not_or.mpr ⟨hdot, by decide⟩)

/-- What is known of the aggregates of some metrics. -/
structure Counted (metrics : List QueryContextBinding) (state : Aggregates) : Prop where
  items : ∀ item ∈ state.items, item.alias_.toList.head? ≠ some '$' ∧ ∃ ref, item.field = some ref ∧
    (∃ binding ∈ metrics, binding.fieldRef = .ok (some ref)) ∧
    ('.' ∈ item.alias_.toList ↔ '.' ∈ ref.fieldPath.toList)
  known : ∀ entry ∈ state.aliases, ∃ item ∈ state.items, ∃ ref, item.field = some ref ∧
    ref.identity = entry.1 ∧ item.alias_ = entry.2
  complete : ∀ binding ∈ metrics, ∃ ref, binding.fieldRef = .ok (some ref) ∧
    ref.identity ∈ state.aliases.map (·.1)

theorem Counted.add {metrics : List QueryContextBinding} {state state' : Aggregates}
    {binding : QueryContextBinding} (h : Counted metrics state)
    (hadd : addMetric context state binding = .ok state') : Counted (metrics ++ [binding]) state' := by
  unfold addMetric at hadd
  obtain ⟨found, hfound, hadd⟩ := bind_ok hadd
  cases found with
  | none => cases hadd
  | some ref =>
    have href := checked_ok hfound
    obtain ⟨function, -, hadd⟩ := bind_ok hadd
    have hitems : ∀ item ∈ state.items, item.alias_.toList.head? ≠ some '$' ∧ ∃ ref, item.field = some ref ∧
        (∃ binding' ∈ metrics ++ [binding], binding'.fieldRef = .ok (some ref)) ∧
        ('.' ∈ item.alias_.toList ↔ '.' ∈ ref.fieldPath.toList) := by
      intro item hitem
      obtain ⟨hhead, ref', hfield, ⟨binding', hmem, hb⟩, hdot⟩ := h.items item hitem
      exact ⟨hhead, ref', hfield, ⟨binding', List.mem_append_left _ hmem, hb⟩, hdot⟩
    split at hadd
    · next hknown =>
      cases hadd
      obtain ⟨entry, hentry, hid⟩ := List.any_eq_true.mp hknown
      refine ⟨hitems, h.known, fun binding' hmem => ?_⟩
      rcases List.mem_append.mp hmem with hmem | hmem
      · exact h.complete binding' hmem
      · rw [List.mem_singleton.mp hmem]
        exact ⟨ref, href, List.mem_map.mpr ⟨entry, hentry, of_decide_eq_true hid⟩⟩
    · obtain ⟨item, hitem, hadd⟩ := bind_ok hadd
      cases hadd
      unfold constrained at hitem
      split at hitem
      case isFalse => cases hitem
      cases hitem
      have htext := freshAlias_text function ref.fieldPath (state.aliases.map (·.2))
      refine ⟨fun item hitem => ?_, fun entry hentry => ?_, fun binding' hmem => ?_⟩
      · rcases List.mem_append.mp hitem with hitem | hitem
        · exact hitems item hitem
        · rw [List.mem_singleton.mp hitem]
          exact ⟨htext.1, ref, rfl, ⟨binding, by simp, href⟩, htext.2⟩
      · rcases List.mem_append.mp hentry with hentry | hentry
        · obtain ⟨item, hitem, hrest⟩ := h.known entry hentry
          exact ⟨item, List.mem_append_left _ hitem, hrest⟩
        · rw [List.mem_singleton.mp hentry]
          exact ⟨_, List.mem_append_right _ (List.mem_singleton.mpr rfl), ref, rfl, rfl, rfl⟩
      · rw [List.map_append]
        rcases List.mem_append.mp hmem with hmem | hmem
        · obtain ⟨ref', href', hid⟩ := h.complete binding' hmem
          exact ⟨ref', href', List.mem_append_left _ hid⟩
        · rw [List.mem_singleton.mp hmem]
          exact ⟨ref, href, List.mem_append_right _ (List.mem_singleton.mpr rfl)⟩

theorem foldlM_counted {metrics rest : List QueryContextBinding} {state state' : Aggregates}
    (h : Counted metrics state) (hfold : rest.foldlM (addMetric context) state = .ok state') :
    Counted (metrics ++ rest) state' := by
  induction rest generalizing metrics state with
  | nil =>
    cases hfold
    rw [List.append_nil]
    exact h
  | cons binding rest ih =>
    rw [List.foldlM_cons] at hfold
    obtain ⟨middle, hmiddle, hfold⟩ := bind_ok hfold
    have hrest := ih (h.add hmiddle) hfold
    rwa [List.append_assoc] at hrest

theorem aggregates_counted {computed : Aggregates} (h : aggregates context = .ok computed) :
    (metricBindings context = [] ∧ computed.items = [countRows]) ∨
      (metricBindings context ≠ [] ∧ Counted (metricBindings context) computed) := by
  unfold aggregates at h
  cases hmetrics : metricBindings context with
  | nil =>
    rw [hmetrics] at h
    cases h
    exact Or.inl ⟨rfl, rfl⟩
  | cons binding bindings =>
    rw [hmetrics] at h
    have hstart : Counted [] {} := by
      refine ⟨fun _ h => ?_, fun _ h => ?_, fun _ h => ?_⟩ <;> exact absurd h List.not_mem_nil
    have hcounted : Counted ([] ++ binding :: bindings) computed := foldlM_counted hstart h
    exact Or.inr ⟨List.cons_ne_nil _ _, hcounted⟩

/-- No metric is bound to a field within another. -/
def FlatMetrics (context : GroundedQueryContext) : Prop :=
  ∀ binding ∈ metricBindings context, '.' ∉ (binding.fieldPath.getD "").toList

theorem aliases_flat_iff {computed : Aggregates} (h : aggregates context = .ok computed) :
    (∀ item ∈ computed.items, '.' ∉ item.alias_.toList) ↔ FlatMetrics context := by
  unfold FlatMetrics
  rcases aggregates_counted h with ⟨hnone, hitems⟩ | ⟨-, hcounted⟩
  · rw [hnone, hitems]
    have hcount : '.' ∉ countRows.alias_.toList := by decide
    refine iff_of_true (fun item hitem => ?_) fun _ h => absurd h List.not_mem_nil
    rwa [List.mem_singleton.mp hitem]
  · constructor
    · intro hflat binding hbinding
      obtain ⟨ref, href, hid⟩ := hcounted.complete binding hbinding
      obtain ⟨entry, hentry, hsame⟩ := List.mem_map.mp hid
      obtain ⟨item, hitem, ref', hfield, hid', -⟩ := hcounted.known entry hentry
      obtain ⟨-, ref'', hfield', -, hdot⟩ := hcounted.items item hitem
      obtain rfl := Option.some.inj (hfield.symm.trans hfield')
      have hpath : ref'.fieldPath = ref.fieldPath :=
        congrArg (fun identity : Identity => identity.2.2) (hid'.trans hsame)
      rw [(fieldRef_ok href).1, Option.getD_some, ← hpath, ← hdot]
      exact hflat item hitem
    · intro hflat item hitem
      obtain ⟨-, ref, -, ⟨binding, hbinding, href⟩, hdot⟩ := hcounted.items item hitem
      have hpath := hflat binding hbinding
      rwa [(fieldRef_ok href).1, Option.getD_some, ← hdot] at hpath

theorem aggregates_ne_nil {computed : Aggregates} (h : aggregates context = .ok computed) :
    computed.items ≠ [] := by
  rcases aggregates_counted h with ⟨-, hitems⟩ | ⟨hsome, hcounted⟩
  · rw [hitems]
    exact List.cons_ne_nil _ _
  · obtain ⟨binding, hbinding⟩ := List.exists_mem_of_ne_nil _ hsome
    obtain ⟨ref, -, hid⟩ := hcounted.complete binding hbinding
    obtain ⟨entry, hentry, -⟩ := List.mem_map.mp hid
    obtain ⟨item, hitem, -⟩ := hcounted.known entry hentry
    exact List.ne_nil_of_mem hitem

/-! ### Sort keys -/

/-- The groups in their order, or the aggregate of the ranking. -/
theorem sorts_of_ordering {computed : Aggregates} {references : List GroundedFieldRef} {sorts : List PlanSort}
    {limit : Int} (h : ordering context computed references = .ok (sorts, limit)) :
    (context.ranking = none ∧ sorts = references.map fun ref => { target := .field ref }) ∨
      (context.ranking ≠ none ∧ ∃ alias_ halias direction, sorts = [⟨.aggregate alias_ halias, direction⟩] ∧
        alias_ ∈ computed.items.map PlanAggregate.alias_) := by
  unfold ordering at h
  cases hranking : context.ranking with
  | none =>
    rw [hranking] at h
    cases h
    exact Or.inl ⟨rfl, rfl⟩
  | some ranking =>
    rw [hranking] at h
    obtain ⟨found, -, h⟩ := bind_ok h
    cases found with
    | none => cases h
    | some alias_ =>
      dsimp only at h
      split at h
      · cases h
      next hsome =>
      obtain ⟨sort, hsort, h⟩ := bind_ok h
      cases h
      unfold constrained at hsort
      split at hsort
      case isFalse => cases hsort
      next halias =>
      cases hsort
      refine Or.inr ⟨Option.some_ne_none _, alias_, halias, _, rfl, ?_⟩
      simp only [List.all_eq_true, decide_eq_true_eq, not_forall, not_not] at hsome
      obtain ⟨item, hitem, he⟩ := hsome
      exact List.mem_map.mpr ⟨item, hitem, he⟩

/-! ### What is read and what is grouped -/

section Parts

variable {computed : Aggregates} {references : List GroundedFieldRef} {sorts : List PlanSort}
  {p : GroundedQueryPlan} (h : Assembled context computed references sorts p)

include h

theorem Assembled.parts : (p.aggregates = [] ∧ p.groupBy = [] ∧ (p.sorts = [] ∨ p.sorts = sorts)) ∨
    (p.aggregates = computed.items ∧ p.groupBy = references ∧ p.sorts = sorts) := by
  by_cases hread : Projects context ∧ references ≠ []
  · exact Or.inl (h.read hread.1 hread.2)
  · rw [not_and_or, not_not] at hread
    exact Or.inr (h.grouped hread)

theorem Assembled.mem_groupBy {ref : GroundedFieldRef} (href : ref ∈ p.groupBy) : ref ∈ references := by
  rcases h.parts with ⟨-, hnone, -⟩ | ⟨-, hsome, -⟩
  · rw [hnone] at href
    cases href
  · rwa [hsome] at href

theorem Assembled.mem_aggregates {item : PlanAggregate} (hitem : item ∈ p.aggregates) :
    item ∈ computed.items := by
  rcases h.parts with ⟨hnone, -, -⟩ | ⟨hsome, -, -⟩
  · rw [hnone] at hitem
    cases hitem
  · rwa [hsome] at hitem

theorem Assembled.mem_sorts {item : PlanSort} (hitem : item ∈ p.sorts) : item ∈ sorts := by
  rcases h.parts with ⟨-, -, hnone | hsome⟩ | ⟨-, -, hsome⟩
  · rw [hnone] at hitem
    cases hitem
  · rwa [hsome] at hitem
  · rwa [hsome] at hitem

theorem Assembled.sort_field {item : PlanSort} {ref : GroundedFieldRef} (hitem : item ∈ p.sorts)
    (hfield : item.field = some ref) : ref ∈ references := by
  obtain ⟨limit, hordering⟩ := h.ordered
  have hmem := h.mem_sorts hitem
  rcases sorts_of_ordering hordering with ⟨-, hsorts⟩ | ⟨-, alias_, halias, direction, hsorts, -⟩
  · rw [hsorts] at hmem
    obtain ⟨ref', href', rfl⟩ := List.mem_map.mp hmem
    obtain rfl := Option.some.inj hfield
    exact href'
  · rw [hsorts, List.mem_singleton] at hmem
    rw [hmem] at hfield
    cases hfield

end Parts

end Assembled

end GroundedQueryPlanner

/-! ## Contexts over one collection -/

open GroundedQueryPlanner

section Contexts

variable {pt : GroundedQueryPlanner.Texts} {t : Texts} {context : GroundedQueryContext} {p : GroundedQueryPlan}

/-- The bindings of a context, the ones that are read as metrics and dimensions with them. -/
def boundTo (context : GroundedQueryContext) : List QueryContextBinding :=
  context.bindings ++ context.metrics ++ context.dimensions

/-- The paths of the fields that a context binds. -/
def boundPaths (context : GroundedQueryContext) : List String :=
  (boundTo context).filterMap (fun binding => if truthy binding.fieldPath then binding.fieldPath else none) ++
    context.filters.map (fun item => item.field.fieldPath) ++
    (context.timeField.map GroundedFieldRef.fieldPath).toList

/-- The context is over one collection, and its paths, flattened, and the aliases are distinct. -/
structure OverCollection (context : GroundedQueryContext) : Prop where
  single : ∃ datasourceId id, (∀ binding ∈ boundTo context,
      binding.datasourceId = datasourceId ∧ (truthy binding.dataObjectId → binding.dataObjectId = some id)) ∧
    ((context.dataObjects.lookup id).bind fun locator => given locator.name) ≠ none
  dotted : ∀ path ∈ boundPaths context, MongoCompiler.Dotted path
  flattened : ∀ a ∈ boundPaths context, ∀ b ∈ boundPaths context, underscored a = underscored b → a = b
  aliases : ∀ name ∈ metricNames context, name ∉ (boundPaths context).map underscored

/-- The filters have the values that their operators take, and where there are aggregates, no metric is
bound to a field within another. -/
def Compilable (context : GroundedQueryContext) : Prop :=
  (∀ item ∈ context.filters, Refused (filterOf item) = false) ∧
    (Projects context ∧ context.dimensions ≠ [] ∨ FlatMetrics context)

theorem mem_boundPaths {binding : QueryContextBinding} {ref : GroundedFieldRef}
    (h : binding ∈ boundTo context) (href : binding.fieldRef = .ok (some ref)) :
    ref.fieldPath ∈ boundPaths context := by
  have hpath := (fieldRef_ok href).1
  have htruthy : truthy binding.fieldPath = true := by
    rw [hpath]
    have hlength := ref.fieldPath_length
    have hne : ref.fieldPath ≠ "" := by
      intro he
      rw [he] at hlength
      exact absurd hlength (by decide)
    simp [truthy, hne]
  refine List.mem_append_left _ (List.mem_append_left _ (List.mem_filterMap.mpr ⟨binding, h, ?_⟩))
  rw [if_pos htruthy, hpath]

theorem metricBindings_bound {binding : QueryContextBinding} (h : binding ∈ metricBindings context) :
    binding ∈ boundTo context := by
  unfold metricBindings at h
  rcases List.mem_append.mp h with hmetric | hextra
  · exact List.mem_append_left _ (List.mem_append_right _ hmetric)
  · rw [List.mem_insertionSort] at hextra
    exact List.mem_append_left _ (List.mem_append_left _ (List.mem_filter.mp hextra).1)

theorem dimension_bound {ref : GroundedFieldRef} (h : ref ∈ dimensionRefs context) :
    ∃ binding ∈ boundTo context, binding.fieldRef = .ok (some ref) := by
  obtain ⟨binding, hbinding, href⟩ := List.mem_filterMap.mp h
  exact ⟨binding, List.mem_append_right _ hbinding, dimensionRef_some href⟩

variable (hover : OverCollection context)

include hover

/-- The data object of the collection is the one of the plan. -/
theorem OverCollection.objects {computed : Aggregates} {references : List GroundedFieldRef}
    {sorts : List PlanSort} (h : Assembled context computed references sorts p) :
    p.dataObjectIds.length = 1 ∧ p.joins = [] ∧ MongoCompiler.collectionName p ≠ none := by
  obtain ⟨datasourceId, id, hsingle, hname⟩ := hover.single
  obtain ⟨_, hjoins⟩ := h.joins
  have hall : ∀ x ∈ objectIds context [], x = id := by
    intro x hx
    unfold objectIds at hx
    rw [mem_sortedSet, List.flatMap_nil, List.append_nil] at hx
    obtain ⟨binding, hbinding, hx⟩ := List.mem_filterMap.mp hx
    have hbound : binding ∈ boundTo context := List.mem_append_left _ (List.mem_append_left _ hbinding)
    split_ifs at hx with htruthy
    rw [(hsingle binding hbound).2 htruthy] at hx
    exact (Option.some.inj hx).symm
  have hnodup : (objectIds context []).Nodup := by
    unfold objectIds Semantic.sortedSet
    exact (List.perm_insertionSort _ _).nodup_iff.mpr (List.nodup_dedup _)
  have hlength : (objectIds context []).length ≤ 1 := by
    have hsub : (objectIds context []).Subperm [id] :=
      List.subperm_of_subset hnodup fun x hx => List.mem_singleton.mpr (hall x hx)
    exact hsub.length_le
  have hnone : p.joins = [] := by
    rcases relationships_ok hjoins with ⟨hnone, -⟩ | ⟨htwo, -⟩
    · exact hnone
    · omega
  have hids : p.dataObjectIds = objectIds context [] := by
    rw [h.objects, hnone]
  have hone : p.dataObjectIds.length = 1 := by
    have hsome := p.dataObjectIds_length
    rw [hids] at hsome ⊢
    omega
  refine ⟨hone, hnone, ?_⟩
  obtain ⟨x, hx⟩ := List.length_eq_one_iff.mp hone
  have hid : x = id := hall x (hids ▸ hx ▸ List.mem_singleton.mpr rfl)
  unfold MongoCompiler.collectionName GroundedQueryPlan.locator
  rw [hx, h.dataObjects, List.headD_cons, hid]
  exact hname

omit hover in
theorem mem_boundPaths_of_reference {references : List GroundedFieldRef} {ref : GroundedFieldRef}
    (hcollected : groupBy context = .ok references) (href : ref ∈ references) :
    ref.fieldPath ∈ boundPaths context := by
  obtain ⟨binding, hbinding, hfield⟩ := dimension_bound ((groupBy_collected hcollected).sound ref href)
  exact mem_boundPaths hbinding hfield

omit hover in
theorem mem_boundPaths_of_aggregate {computed : Aggregates} {item : PlanAggregate} {ref : GroundedFieldRef}
    (haggregated : aggregates context = .ok computed) (hitem : item ∈ computed.items)
    (hfield : item.field = some ref) : ref.fieldPath ∈ boundPaths context := by
  rcases aggregates_counted haggregated with ⟨-, hitems⟩ | ⟨-, hcounted⟩
  · rw [hitems, List.mem_singleton] at hitem
    rw [hitem] at hfield
    cases hfield
  · obtain ⟨-, ref', hfield', ⟨binding, hbinding, href⟩, -⟩ := hcounted.items item hitem
    obtain rfl := Option.some.inj (hfield.symm.trans hfield')
    exact mem_boundPaths (metricBindings_bound hbinding) href

theorem OverCollection.safe {computed : Aggregates} {references : List GroundedFieldRef}
    {sorts : List PlanSort} (h : Assembled context computed references sorts p) :
    ∀ path ∈ MongoCompiler.allowed p, MongoCompiler.Dotted path := by
  intro path hpath
  refine hover.dotted path ?_
  unfold MongoCompiler.allowed at hpath
  simp only [List.mem_append] at hpath
  rcases hpath with ((((hselected | hgroup) | hfilter) | haggregate) | hsort) | htime
  · obtain ⟨ref, href, rfl⟩ := List.mem_map.mp hselected
    exact mem_boundPaths_of_reference h.collected (h.selected ▸ href)
  · obtain ⟨ref, href, rfl⟩ := List.mem_map.mp hgroup
    exact mem_boundPaths_of_reference h.collected (h.mem_groupBy href)
  · obtain ⟨item, hitem, rfl⟩ := List.mem_map.mp hfilter
    rw [h.filters] at hitem
    obtain ⟨given, hgiven, rfl⟩ := List.mem_map.mp hitem
    exact List.mem_append_left _ (List.mem_append_right _ (List.mem_map.mpr ⟨given, hgiven, rfl⟩))
  · obtain ⟨item, hitem, hfield⟩ := List.mem_filterMap.mp haggregate
    obtain ⟨ref, href, rfl⟩ := Option.map_eq_some_iff.mp hfield
    exact mem_boundPaths_of_aggregate h.aggregated (h.mem_aggregates hitem) href
  · obtain ⟨item, hitem, hfield⟩ := List.mem_filterMap.mp hsort
    obtain ⟨ref, href, rfl⟩ := Option.map_eq_some_iff.mp hfield
    exact mem_boundPaths_of_reference h.collected (h.sort_field hitem href)
  · rw [h.timeField] at htime
    exact List.mem_append_right _ htime

/-- The groups are named apart. -/
theorem OverCollection.nodup_groups {references : List GroundedFieldRef}
    (hcollected : groupBy context = .ok references) :
    (references.map fun ref => underscored ref.fieldPath).Nodup := by
  obtain ⟨datasourceId, id, hsingle, -⟩ := hover.single
  have hof : ∀ ref ∈ references, ref.datasourceId = datasourceId ∧ ref.dataObjectId = id := by
    intro ref href
    obtain ⟨binding, hbinding, hfield⟩ := dimension_bound ((groupBy_collected hcollected).sound ref href)
    obtain ⟨-, hdatasource, hobject⟩ := fieldRef_ok hfield
    obtain ⟨hbound, hid⟩ := hsingle binding hbinding
    have hne : ref.dataObjectId ≠ "" := by
      intro he
      have hlength := ref.dataObjectId_length
      rw [he] at hlength
      exact absurd hlength (by decide)
    have htruthy : truthy binding.dataObjectId = true := by
      rw [hobject]
      simp [truthy, hne]
    exact ⟨hdatasource.trans hbound, Option.some.inj (hobject.symm.trans (hid htruthy))⟩
  have hnodup := (groupBy_collected hcollected).nodup
  refine List.Nodup.map_on (fun a ha b hb he => ?_) (List.Nodup.of_map _ hnodup)
  have hpath := hover.flattened _ (mem_boundPaths_of_reference hcollected ha) _
    (mem_boundPaths_of_reference hcollected hb) he
  refine List.inj_on_of_nodup_map hnodup ha hb ?_
  unfold GroundedFieldRef.identity
  rw [(hof a ha).1, (hof b hb).1, (hof a ha).2, (hof b hb).2, hpath]

theorem OverCollection.grouped_iff {computed : Aggregates} {references : List GroundedFieldRef}
    {sorts : List PlanSort} (h : Assembled context computed references sorts p)
    (hgrouped : ¬Projects context ∨ references = []) :
    MongoCompiler.Grouped p ↔ FlatMetrics context := by
  obtain ⟨haggregates, hgroupBy, hsorts⟩ := h.grouped hgrouped
  rw [← aliases_flat_iff h.aggregated]
  constructor
  · intro hg item hitem
    exact (hg.aliases item (haggregates ▸ hitem)).2.1
  intro hflat
  refine ⟨hgroupBy ▸ hover.nodup_groups h.collected, fun item hitem => ?_, fun key hkey => ?_⟩
  · rw [haggregates] at hitem
    refine ⟨?_, hflat item hitem, fun hname => ?_⟩
    · rcases aggregates_counted h.aggregated with ⟨-, hitems⟩ | ⟨-, hcounted⟩
      · rw [hitems, List.mem_singleton] at hitem
        rw [hitem]
        decide
      · exact (hcounted.items item hitem).1
    · obtain ⟨ref, href, hsame⟩ := List.mem_map.mp hname
      have halias : item.alias_ ∈ metricNames context :=
        aggregates_names h.aggregated ▸ List.mem_map_of_mem hitem
      refine hover.aliases _ halias (List.mem_map.mpr ⟨ref.fieldPath, ?_, hsame⟩)
      exact mem_boundPaths_of_reference h.collected (h.mem_groupBy href)
  · obtain ⟨item, hitem, rfl⟩ := List.mem_map.mp hkey
    obtain ⟨limit, hordering⟩ := h.ordered
    rw [hsorts] at hitem
    unfold MongoCompiler.FitsSort
    rcases sorts_of_ordering hordering with ⟨-, heq⟩ | ⟨-, alias_, halias, direction, heq, hmem⟩
    · rw [heq] at hitem
      obtain ⟨ref, href, rfl⟩ := List.mem_map.mp hitem
      exact Or.inr (Or.inl (List.mem_map.mpr ⟨ref, hgroupBy ▸ href, rfl⟩))
    · rw [heq, List.mem_singleton] at hitem
      obtain ⟨item', hitem', rfl⟩ := List.mem_map.mp hmem
      rw [hitem]
      refine Or.inr (Or.inr ?_)
      rw [haggregates]
      exact List.mem_map.mpr ⟨item', hitem', (Mongo.underscored_of_single (hflat item' hitem')).symm⟩

omit hover in
/-- **Over one collection, the plans that have a command.** -/
theorem planned_compiles_iff (hover : OverCollection context) (hplan : plan pt context = .ok p) :
    (∃ q, MongoCompiler.compile t p = .ok q) ↔ Compilable context := by
  obtain ⟨computed, references, sorts, h⟩ := plan_assembled hplan
  obtain ⟨hone, hjoins, hname⟩ := hover.objects h
  have hfilters : (∀ item ∈ p.filters, Refused item = false) ↔
      ∀ item ∈ context.filters, Refused (filterOf item) = false := by
    rw [h.filters]
    simp only [List.forall_mem_map]
  have hdimensions : references = [] ↔ context.dimensions = [] := groupBy_eq_nil h.collected
  rw [MongoCompiler.exists_compile_iff]
  unfold Compilable
  rw [← hfilters]
  by_cases hread : Projects context ∧ references ≠ []
  · obtain ⟨haggregates, hgroupBy, -⟩ := h.read hread.1 hread.2
    refine ⟨fun hc => ⟨hc.filters, Or.inl ⟨hread.1, hdimensions.not.mp hread.2⟩⟩, fun hand => ?_⟩
    refine ⟨hone, hjoins, hname, hover.safe h, hand.1, fun _ _ item hitem => ?_, fun hsome => ?_⟩
    · -- a ranking would not have been read as a lookup
      obtain ⟨limit, hordering⟩ := h.ordered
      have hranking : context.ranking = none := by
        have hlookup := hread.1.1
        unfold projectionLookup at hlookup
        simp only [Bool.and_eq_true, Option.isNone_iff_eq_none] at hlookup
        exact hlookup.1.1.2
      rcases sorts_of_ordering hordering with ⟨-, heq⟩ | ⟨hsome, -⟩
      · have hmem := h.mem_sorts hitem
        rw [heq] at hmem
        obtain ⟨ref, -, rfl⟩ := List.mem_map.mp hmem
        exact Option.some_ne_none _
      · exact absurd hranking hsome
    · exact hsome.elim (fun hne => absurd haggregates hne) fun hne => absurd hgroupBy hne
  · have hgrouped : ¬Projects context ∨ references = [] := by
      rwa [not_and_or, not_not] at hread
    have hiff := hover.grouped_iff h hgrouped
    have hsome : p.aggregates ≠ [] := by
      rw [(h.grouped hgrouped).1]
      exact aggregates_ne_nil h.aggregated
    constructor
    · intro hc
      exact ⟨hc.filters, Or.inr (hiff.mp (hc.grouped (Or.inl hsome)))⟩
    · rintro ⟨htaken, hreads | hflat⟩
      · exact absurd ⟨hreads.1, hdimensions.not.mpr hreads.2⟩ hread
      · exact ⟨hone, hjoins, hname, hover.safe h, htaken, fun hnone => absurd hnone hsome,
          fun _ => hiff.mpr hflat⟩

end Contexts

section Sample

open GroundedPlanValidator (sampleContext metricBinding)

/-- The collection of the orders. -/
def ordersCollection : GroundedDataObjectRef where
  datasourceId := "ds_1"
  dataObjectId := "orders"
  name := some "orders"
  objectKind := some "collection"
  datasourceId_length := Contracts.length_ds1
  dataObjectId_length := Contracts.length_orders
  name_length := by decide

/-- The sum of a field by the channel of the customer. -/
def salesByChannel (path : String) : GroundedQueryContext :=
  let metric : QueryContextBinding := { metricBinding with fieldPath := some path }
  let channel := sampleDimension "渠道" "orders" "customer.channel"
  { sampleContext [metric, channel] with
    metrics := [metric]
    dimensions := [channel]
    relationships := []
    dataObjects := [("orders", ordersCollection)]
    allowedDataObjectIds := ["orders"]
    allowedFieldPaths := [path, "customer.channel"] }

theorem overCollection_amount : OverCollection (salesByChannel "amount") := by
  refine ⟨⟨"ds_1", "orders", ?_, ?_⟩, ?_, ?_, ?_⟩
  · decide
  · decide
  · unfold MongoCompiler.Dotted
    decide
  · decide
  · decide

theorem amount_compiles : ∃ p, plan samplePlanner (salesByChannel "amount") = .ok p ∧
    ((∃ q, MongoCompiler.compile sampleTexts p = .ok q) ↔ Compilable (salesByChannel "amount")) := by
  have hplan : (plan samplePlanner (salesByChannel "amount")).toOption.any (fun _ => true) = true := by decide
  obtain ⟨p, hp, -⟩ := Infra.ok_of_any hplan
  exact ⟨p, hp, planned_compiles_iff overCollection_amount hp⟩

/-- A metric within a field has an alias that the compiler refuses. -/
theorem nested_metric_refused : ∃ context p, context.validate = .ok context ∧ OverCollection context ∧
    plan samplePlanner context = .ok p ∧ ¬∃ q, MongoCompiler.compile sampleTexts p = .ok q := by
  have hplan : (plan samplePlanner (salesByChannel "totals.amount")).toOption.any (fun p =>
      (MongoCompiler.compile sampleTexts p).toOption.isNone) = true := by decide
  obtain ⟨p, hp, hnone⟩ := Infra.ok_of_any hplan
  refine ⟨salesByChannel "totals.amount", p, by decide, ?_, hp, ?_⟩
  · refine ⟨⟨"ds_1", "orders", ?_, ?_⟩, ?_, ?_, ?_⟩
    · decide
    · decide
    · unfold MongoCompiler.Dotted
      decide
    · decide
    · decide
  · rintro ⟨q, hq⟩
    rw [hq] at hnone
    cases hnone

end Sample

end Querying
