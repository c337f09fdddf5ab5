import Qaneris.Infra.Dict
import Qaneris.Querying.Planner
import Qaneris.Querying.Results
import Qaneris.Querying.Properties.Meaning
import Qaneris.Querying.Properties.Plans

/-!
# What the planner makes

* `Accepted.connected` — an accepted plan of two objects at most is connected, so its command says what
  it stands for
* `output_columns_iff` — for which contexts the output columns of the compiled plan have distinct names
-/

namespace Querying

open Contracts
open Infra (Dict bind_ok map_ok)

/-! ## Accepted plans are connected -/

namespace GroundedPlanValidator

variable {vt : Texts} {p : GroundedQueryPlan} {context : GroundedQueryContext}

theorem mem_planFieldRefs {ref : GroundedFieldRef} (h : ref ∈ fieldRefs p) :
    ∃ label, (ref, label) ∈ planFieldRefs p := by
  have hsome : ∀ (refs : List GroundedFieldRef) (label : String), ref ∈ refs →
      (ref, label) ∈ refs.map (·, label) := fun refs label hmem => List.mem_map_of_mem hmem
  simp only [fieldRefs, List.mem_append] at h
  simp only [planFieldRefs, List.mem_append]
  rcases h with ((((hs | ha) | hf) | ht) | hg) | ho
  · exact ⟨"选择字段", .inl (.inl (.inl (.inl (.inl (hsome _ _ hs)))))⟩
  · exact ⟨"聚合字段", .inl (.inl (.inr (hsome _ _ ha)))⟩
  · obtain ⟨item, hitem, rfl⟩ := List.mem_map.mp hf
    exact ⟨"过滤字段", .inl (.inl (.inl (.inr (List.mem_map.mpr ⟨item, hitem, rfl⟩))))⟩
  · refine ⟨"时间字段", .inr (hsome _ _ ?_)⟩
    split at ht
    · exact ht
    · cases ht
  · exact ⟨"分组字段", .inl (.inl (.inl (.inl (.inr (hsome _ _ hg)))))⟩
  · exact ⟨"排序字段", .inl (.inr (hsome _ _ ho))⟩

/-- Every field of an accepted plan is of one of its objects. -/
theorem Accepted.field_object (h : Accepted vt p context) {ref : GroundedFieldRef}
    (href : ref ∈ fieldRefs p) : ref.dataObjectId ∈ p.dataObjectIds := by
  obtain ⟨bound, -, hfields⟩ := bind_ok h.fields
  obtain ⟨label, hused⟩ := mem_planFieldRefs href
  have hfield := Infra.forM_ok.mp hfields _ hused
  unfold requireField at hfield
  split at hfield
  · cases hfield
  · rw [Infra.check_bind_ok, require_ok, decide_eq_true_eq] at hfield
    exact hfield.1

/-- Two distinct members of a list without repetitions that has two items are all there is. -/
theorem mem_pair {ids : List String} (hlength : ids.length ≤ 2) {a b id : String} (ha : a ∈ ids)
    (hb : b ∈ ids) (hab : a ≠ b) (hid : id ∈ ids) : id = a ∨ id = b := by
  match ids, hlength with
  | [], _ => cases ha
  | [x], _ =>
    rw [List.mem_singleton] at ha hb
    exact absurd (ha.trans hb.symm) hab
  | [x, y], _ =>
    simp only [List.mem_cons, List.not_mem_nil, or_false] at ha hb hid
    grind

/-- The two ends of the join of an accepted plan are the base and the joined object. -/
theorem JoinAccepted.joinedBy (hlength : p.dataObjectIds.length ≤ 2) {join : PlanJoin}
    {relationship : QueryContextRelationship} (h : JoinAccepted p context join relationship) :
    (joinedBy p join).1 ≠ baseOf p ∧ ∀ id ∈ p.dataObjectIds, id = baseOf p ∨ id = (joinedBy p join).1 := by
  have hbase := mem_pair hlength h.fromMem h.toMem h.distinct baseOf_mem
  have hall : ∀ id ∈ p.dataObjectIds, id = join.fromDataObjectId ∨ id = join.toDataObjectId :=
    fun id hid => mem_pair hlength h.fromMem h.toMem h.distinct hid
  unfold Querying.joinedBy
  split
  · next hfrom =>
    refine ⟨fun hto => h.distinct (hfrom.trans hto.symm), fun id hid => ?_⟩
    rw [← hfrom]
    exact hall id hid
  · next hfrom =>
    have hto : baseOf p = join.toDataObjectId := hbase.resolve_left fun he => hfrom he.symm
    refine ⟨hfrom, fun id hid => ?_⟩
    rw [hto]
    exact (hall id hid).symm

theorem Accepted.connected (h : Accepted vt p context) (hlength : p.dataObjectIds.length ≤ 2) :
    Connected p := by
  constructor
  · intro join hj
    obtain ⟨relationship, hrelationship⟩ := h.join hj
    exact (hrelationship.joinedBy hlength).1
  · intro ref href
    have hobject := h.field_object href
    cases hjoins : p.joins with
    | nil =>
      left
      have hone : p.dataObjectIds.length ≤ 1 := by
        by_contra hmore
        exact p.join_required (by omega) hjoins
      have hbase : baseOf p ∈ p.dataObjectIds := baseOf_mem
      match hids : p.dataObjectIds, hone with
      | [], _ =>
        rw [hids] at hbase
        cases hbase
      | [x], _ =>
        rw [hids, List.mem_singleton] at hbase hobject
        rw [hobject, hbase]
    | cons join joins =>
      have hj : join ∈ p.joins := hjoins ▸ List.mem_cons_self
      obtain ⟨relationship, hrelationship⟩ := h.join hj
      rcases (hrelationship.joinedBy hlength).2 _ hobject with hbase | hjoined
      · exact Or.inl hbase
      · exact Or.inr ⟨join, List.mem_cons_self, hjoined⟩

end GroundedPlanValidator

namespace GroundedQueryPlanner

variable {t : Texts} {context : GroundedQueryContext}

/-! ## Objects -/

theorem mem_sortedSet {values : List String} {value : String} :
    value ∈ Semantic.sortedSet values ↔ value ∈ values := by
  rw [Semantic.sortedSet, List.mem_insertionSort, List.mem_dedup]

theorem length_sortedSet (values : List String) :
    (Semantic.sortedSet values).length = values.toFinset.card := by
  rw [Semantic.sortedSet, List.length_insertionSort, List.card_toFinset]

theorem joinOf_ok {relationship : QueryContextRelationship} {join : PlanJoin}
    (h : joinOf relationship = .ok join) :
    join.fromDataObjectId = relationship.fromDataObjectId ∧
      join.toDataObjectId = relationship.toDataObjectId := by
  unfold joinOf constrained at h
  split at h
  · cases h
    exact ⟨rfl, rfl⟩
  · cases h

/-- No join for one object, else one join between two objects that are bound. -/
theorem relationships_ok {datasourceId : String} {joins : List PlanJoin}
    (h : relationships context datasourceId = .ok joins) :
    (joins = [] ∧ (objectIds context []).length ≤ 1) ∨
      ((objectIds context []).length = 2 ∧ ∃ join, joins = [join] ∧
        join.fromDataObjectId ∈ objectIds context [] ∧ join.toDataObjectId ∈ objectIds context []) := by
  unfold relationships at h
  dsimp only at h
  split at h
  · next hone =>
    cases h
    exact Or.inl ⟨rfl, hone⟩
  next hone =>
  split at h
  · cases h
  split at h
  · cases h
  next hmore =>
  split at h
  · next relationship hmatching =>
    obtain ⟨join, hjoin, rfl⟩ := map_ok h
    obtain ⟨hfrom, hto⟩ := joinOf_ok hjoin
    have hmem : relationship ∈ context.relationships.filter fun item =>
        spans (objectIds context []) item.fromDataObjectId item.toDataObjectId &&
          item.datasourceId = datasourceId := by
      rw [hmatching]
      exact List.mem_singleton.mpr rfl
    have hspans := (List.mem_filter.mp hmem).2
    simp only [spans, Bool.and_eq_true, decide_eq_true_eq] at hspans
    refine Or.inr ⟨by omega, join, rfl, ?_, ?_⟩
    · rw [hfrom]
      exact hspans.1.1.2
    · rw [hto]
      exact hspans.1.2
  · cases h

/-- The join adds no object to those that are bound. -/
theorem length_objectIds {datasourceId : String} {joins : List PlanJoin}
    (h : relationships context datasourceId = .ok joins) :
    (objectIds context joins).length = (objectIds context []).length := by
  rcases relationships_ok h with ⟨rfl, -⟩ | ⟨-, join, rfl, hfrom, hto⟩
  · rfl
  · unfold objectIds at hfrom hto ⊢
    rw [mem_sortedSet, List.flatMap_nil, List.append_nil] at hfrom hto
    rw [length_sortedSet, length_sortedSet]
    congr 1
    ext id
    simp only [List.mem_toFinset, List.mem_append, List.flatMap_cons, List.flatMap_nil, List.append_nil,
      List.mem_cons, List.not_mem_nil, or_false]
    constructor
    · rintro (hid | rfl | rfl)
      · exact hid
      · exact hfrom
      · exact hto
    · exact Or.inl

/-! ## Names of aggregates -/

theorem candidate_inj {base : String} {i j : Nat} (h : candidate base i = candidate base j) : i = j := by
  have hlong : ∀ k, base ≠ candidate base (k + 1) := by
    intro k he
    have hlength := congrArg String.length he
    rw [candidate, String.length_append, String.length_append] at hlength
    have hone : "_".length = 1 := by decide
    omega
  cases i with
  | zero =>
    cases j with
    | zero => rfl
    | succ j => exact absurd h (hlong j)
  | succ i =>
    cases j with
    | zero => exact absurd h.symm (hlong i)
    | succ j =>
      have hrepr : Nat.repr (i + 2) = Nat.repr (j + 2) := String.append_right_inj _ |>.mp h
      have := Infra.repr_inj hrepr
      omega

/-- One of the texts that `_alias` tries is always free, so its loop ends. -/
theorem exists_free (base : String) (used : List String) :
    ∃ name, ((List.range (used.length + 1)).map (candidate base)).find? (· ∉ used) = some name ∧
      name ∉ used := by
  cases hfind : ((List.range (used.length + 1)).map (candidate base)).find? (· ∉ used) with
  | some name =>
    have hfree := List.find?_some hfind
    exact ⟨name, rfl, by simpa using hfree⟩
  | none =>
    -- more texts than names in use, all distinct
    have hall : ((List.range (used.length + 1)).map (candidate base)) ⊆ used := by
      intro name hname
      have hused := List.find?_eq_none.mp hfind name hname
      simpa using hused
    have hnodup : ((List.range (used.length + 1)).map (candidate base)).Nodup :=
      List.Nodup.map (fun _ _ he => candidate_inj he) List.nodup_range
    have hle := (hnodup.subperm hall).length_le
    rw [List.length_map, List.length_range] at hle
    omega

theorem freshAlias_not_mem (function : AggregateFunction) (fieldPath : String) (used : List String) :
    freshAlias function fieldPath used ∉ used := by
  obtain ⟨name, hfind, hfree⟩ := exists_free (if fieldPath = "" then
    GroundedPlanValidator.functionValue function
    else GroundedPlanValidator.functionValue function ++ "_" ++ fieldPath) used
  unfold freshAlias
  dsimp only
  rw [hfind]
  exact hfree

theorem checked_ok {α : Type} {result : Except String α} {a : α} (h : checked result = .ok a) :
    result = .ok a := by
  cases result with
  | error e => cases h
  | ok b =>
    cases h
    rfl

/-- The field of a metric with the function that a rule names for it. -/
def governedField (context : GroundedQueryContext) (binding : QueryContextBinding) :
    Option (AggregateFunction × GroundedFieldRef) :=
  match binding.fieldRef, functionOf context binding with
  | .ok (some ref), .ok function => some (function, ref)
  | _, _ => none

/-- A field that is new gets the next free name. -/
def addName (names : List (Identity × String)) (x : AggregateFunction × GroundedFieldRef) :
    List (Identity × String) :=
  if names.any (·.1 = x.2.identity) then names
  else names ++ [(x.2.identity, freshAlias x.1 x.2.fieldPath (names.map (·.2)))]

/-- What the aggregates of the metrics are called; `count` where there is no metric. -/
def metricNames (context : GroundedQueryContext) : List String :=
  match metricBindings context with
  | [] => ["count"]
  | metrics => ((metrics.filterMap (governedField context)).foldl addName []).map (·.2)

theorem addMetric_ok {state state' : Aggregates} {binding : QueryContextBinding}
    (h : addMetric context state binding = .ok state') :
    ∃ x, governedField context binding = some x ∧ state'.aliases = addName state.aliases x ∧
      (state.items.map (·.alias_) = state.aliases.map (·.2) →
        state'.items.map (·.alias_) = state'.aliases.map (·.2)) := by
  unfold addMetric at h
  obtain ⟨ref, href, h⟩ := bind_ok h
  cases ref with
  | none => cases h
  | some ref =>
    obtain ⟨function, hfunction, h⟩ := bind_ok h
    refine ⟨(function, ref), by simp only [governedField, checked_ok href, hfunction], ?_⟩
    unfold addName
    split at h
    · next hknown =>
      cases h
      rw [if_pos hknown]
      exact ⟨rfl, id⟩
    · next hnew =>
      obtain ⟨item, hitem, h⟩ := bind_ok h
      cases h
      unfold constrained at hitem
      split at hitem
      · cases hitem
        rw [if_neg hnew]
        refine ⟨rfl, fun heq => ?_⟩
        rw [List.map_append, List.map_append, heq]
        rfl
      · cases hitem

theorem foldlM_addMetric {bindings : List QueryContextBinding} {state state' : Aggregates}
    (h : bindings.foldlM (addMetric context) state = .ok state')
    (hnames : state.items.map (·.alias_) = state.aliases.map (·.2)) :
    state'.items.map (·.alias_) =
      ((bindings.filterMap (governedField context)).foldl addName state.aliases).map (·.2) := by
  induction bindings generalizing state with
  | nil =>
    cases h
    exact hnames
  | cons binding bindings ih =>
    rw [List.foldlM_cons] at h
    obtain ⟨middle, hmiddle, h⟩ := bind_ok h
    obtain ⟨x, hx, haliases, hkept⟩ := addMetric_ok hmiddle
    rw [List.filterMap_cons_some hx, List.foldl_cons, ← haliases]
    exact ih h (hkept hnames)

/-- The names of the aggregates are distinct. -/
theorem nodup_metricNames (context : GroundedQueryContext) : (metricNames context).Nodup := by
  have hfold : ∀ (fields : List (AggregateFunction × GroundedFieldRef)) (names : List (Identity × String)),
      (names.map (·.2)).Nodup → ((fields.foldl addName names).map (·.2)).Nodup := by
    intro fields
    induction fields with
    | nil => exact fun names h => h
    | cons x fields ih =>
      intro names h
      rw [List.foldl_cons]
      refine ih _ ?_
      unfold addName
      split
      · exact h
      · rw [List.map_append, List.nodup_append]
        refine ⟨h, List.nodup_singleton _, fun a ha b hb he => ?_⟩
        rw [List.map_cons, List.map_nil, List.mem_singleton] at hb
        exact freshAlias_not_mem _ _ _ (hb ▸ he ▸ ha)
  unfold metricNames
  split
  · exact List.nodup_singleton _
  · exact hfold _ [] List.nodup_nil

theorem aggregates_names {computed : Aggregates} (h : aggregates context = .ok computed) :
    computed.items.map (·.alias_) = metricNames context := by
  unfold aggregates at h
  unfold metricNames
  cases hmetrics : metricBindings context with
  | nil =>
    rw [hmetrics] at h
    cases h
    rfl
  | cons binding bindings =>
    rw [hmetrics] at h
    exact foldlM_addMetric h rfl

/-! ## Dimensions -/

/-- The field of a dimension. -/
def dimensionRef (binding : QueryContextBinding) : Option GroundedFieldRef :=
  binding.fieldRef.toOption.join

/-- The fields that the dimensions are bound to. -/
def dimensionRefs (context : GroundedQueryContext) : List GroundedFieldRef :=
  context.dimensions.filterMap dimensionRef

/-- The references of the dimensions, one for each field. -/
structure Collected (fields references : List GroundedFieldRef) : Prop where
  nodup : (references.map (·.identity)).Nodup
  sound : ∀ ref ∈ references, ref ∈ fields
  complete : ∀ ref ∈ fields, ref.identity ∈ references.map (·.identity)

theorem addDimension_ok {references references' : List GroundedFieldRef} {binding : QueryContextBinding}
    (h : addDimension references binding = .ok references') :
    ∃ ref, dimensionRef binding = some ref ∧
      references' = if ref.identity ∈ references.map (·.identity) then references else references ++ [ref] := by
  unfold addDimension at h
  obtain ⟨ref, href, h⟩ := bind_ok h
  cases ref with
  | none => cases h
  | some ref =>
    refine ⟨ref, ?_, ?_⟩
    · rw [dimensionRef, checked_ok href]
      rfl
    · dsimp only at h
      split at h
      · next hknown =>
        cases h
        rw [if_pos hknown]
      · next hnew =>
        cases h
        rw [if_neg hnew]

theorem Collected.add {fields references : List GroundedFieldRef} (h : Collected fields references)
    (ref : GroundedFieldRef) :
    Collected (fields ++ [ref])
      (if ref.identity ∈ references.map (·.identity) then references else references ++ [ref]) := by
  split
  · next hknown =>
    refine ⟨h.nodup, fun r hr => List.mem_append_left _ (h.sound r hr), fun r hr => ?_⟩
    rcases List.mem_append.mp hr with hr | hr
    · exact h.complete r hr
    · exact List.mem_singleton.mp hr ▸ hknown
  · next hnew =>
    refine ⟨?_, fun r hr => ?_, fun r hr => ?_⟩
    · rw [List.map_append, List.nodup_append]
      refine ⟨h.nodup, List.nodup_singleton _, fun a ha b hb he => ?_⟩
      rw [List.map_cons, List.map_nil, List.mem_singleton] at hb
      exact hnew (hb ▸ he ▸ ha)
    · rcases List.mem_append.mp hr with hr | hr
      · exact List.mem_append_left _ (h.sound r hr)
      · exact List.mem_append_right _ hr
    · rw [List.map_append]
      rcases List.mem_append.mp hr with hr | hr
      · exact List.mem_append_left _ (h.complete r hr)
      · exact List.mem_append_right _ (List.mem_map_of_mem hr)

theorem foldlM_addDimension {bindings : List QueryContextBinding}
    {fields references references' : List GroundedFieldRef} (h : Collected fields references)
    (hfold : bindings.foldlM addDimension references = .ok references') :
    Collected (fields ++ bindings.filterMap dimensionRef) references' := by
  induction bindings generalizing fields references with
  | nil =>
    cases hfold
    rw [List.filterMap_nil, List.append_nil]
    exact h
  | cons binding bindings ih =>
    rw [List.foldlM_cons] at hfold
    obtain ⟨middle, hmiddle, hfold⟩ := bind_ok hfold
    obtain ⟨ref, href, rfl⟩ := addDimension_ok hmiddle
    have hrest := ih (h.add ref) hfold
    rw [List.filterMap_cons_some href]
    simpa using hrest

theorem groupBy_collected {references : List GroundedFieldRef} (h : groupBy context = .ok references) :
    Collected (dimensionRefs context) references := by
  have hstart : Collected [] [] := ⟨List.nodup_nil, nofun, nofun⟩
  exact foldlM_addDimension hstart h

/-! ## The columns of the result -/

/-- The plan only reads the fields of its dimensions. -/
def Projects (context : GroundedQueryContext) : Prop :=
  projectionLookup context (objectIds context []) = true ∧ context.metrics = []

/-- Two dimensions on different fields have different paths, and no dimension has a path that is also the
name of an aggregate. -/
structure NamesApart (context : GroundedQueryContext) : Prop where
  dimensions : ∀ a ∈ dimensionRefs context, ∀ b ∈ dimensionRefs context,
    a.fieldPath = b.fieldPath → a.identity = b.identity
  metrics : ¬Projects context → ∀ ref ∈ dimensionRefs context, ref.fieldPath ∉ metricNames context

theorem projectionLookup_objectIds {datasourceId : String} {joins : List PlanJoin}
    (h : relationships context datasourceId = .ok joins) :
    projectionLookup context (objectIds context joins) = projectionLookup context (objectIds context []) := by
  rcases relationships_ok h with ⟨rfl, -⟩ | ⟨htwo, -⟩
  · rfl
  · have htwo' : (objectIds context joins).length = 2 := (length_objectIds h).trans htwo
    simp [projectionLookup, htwo, htwo']

/-- What the planner puts into a plan: its dimensions, and the aggregates unless it only reads. -/
structure Planned (context : GroundedQueryContext) (p : GroundedQueryPlan) : Prop where
  objects : p.dataObjectIds.length ≤ 2
  selected : Collected (dimensionRefs context) p.selectedFields
  aggregates : (Projects context ∧ p.aggregates = []) ∨
    ((¬Projects context ∨ p.selectedFields = []) ∧ p.aggregates.map (·.alias_) = metricNames context)

theorem plan_ok {p : GroundedQueryPlan} (h : plan t context = .ok p) : Planned context p := by
  obtain ⟨b, hbody, hplan⟩ := bind_ok h
  unfold constrained at hplan
  split at hplan
  · next hfits =>
    cases hplan
    obtain ⟨datasourceId, -, hbody⟩ := bind_ok hbody
    obtain ⟨joins, hjoins, hbody⟩ := bind_ok hbody
    obtain ⟨-, -, hbody⟩ := bind_ok hbody
    obtain ⟨computed, hcomputed, hbody⟩ := bind_ok hbody
    obtain ⟨references, hreferences, hbody⟩ := bind_ok hbody
    obtain ⟨⟨sorts, limit⟩, -, hbody⟩ := bind_ok hbody
    have hnames := aggregates_names hcomputed
    have hselected := groupBy_collected hreferences
    have hlength : (objectIds context joins).length ≤ 2 := by
      rw [length_objectIds hjoins]
      rcases relationships_ok hjoins with ⟨-, hone⟩ | ⟨htwo, -⟩ <;> omega
    dsimp only at hbody
    split at hbody
    · next hprojects =>
      cases hbody
      rw [projectionLookup_objectIds hjoins] at hprojects
      exact ⟨hlength, hselected, Or.inl ⟨⟨hprojects.1, hprojects.2.1⟩, rfl⟩⟩
    · next hprojects =>
      cases hbody
      refine ⟨hlength, hselected, Or.inr ⟨?_, hnames⟩⟩
      by_cases hempty : references = []
      · exact Or.inr hempty
      · left
        rintro ⟨hlookup, hmetrics⟩
        rw [projectionLookup_objectIds hjoins] at hprojects
        exact hprojects ⟨hlookup, hmetrics, hempty⟩
  · cases hplan

/-- Paths that tell fields apart are distinct where the fields are. -/
theorem Collected.nodup_paths {fields references : List GroundedFieldRef} (h : Collected fields references) :
    (references.map (·.fieldPath)).Nodup ↔
      ∀ a ∈ fields, ∀ b ∈ fields, a.fieldPath = b.fieldPath → a.identity = b.identity := by
  have hpath : ∀ a b : GroundedFieldRef, a.identity = b.identity → a.fieldPath = b.fieldPath :=
    fun a b he => congrArg (fun identity : Identity => identity.2.2) he
  have hinj : ∀ a ∈ references, ∀ b ∈ references, a.identity = b.identity → a = b :=
    fun a ha b hb he => List.inj_on_of_nodup_map h.nodup ha hb he
  constructor
  · intro hnodup a ha b hb he
    obtain ⟨a', ha', haid⟩ := List.mem_map.mp (h.complete a ha)
    obtain ⟨b', hb', hbid⟩ := List.mem_map.mp (h.complete b hb)
    have hsame : a'.fieldPath = b'.fieldPath := by
      rw [hpath a' a haid, he, hpath b' b hbid]
    obtain rfl := List.inj_on_of_nodup_map hnodup ha' hb' hsame
    rw [← haid, hbid]
  · intro hapart
    refine List.Nodup.map_on (fun a ha b hb he => ?_) (List.Nodup.of_map _ h.nodup)
    exact hinj a ha b hb (hapart a (h.sound a ha) b (h.sound b hb) he)

theorem Collected.mem_paths {fields references : List GroundedFieldRef} (h : Collected fields references)
    {path : String} : path ∈ references.map (·.fieldPath) ↔ path ∈ fields.map (·.fieldPath) := by
  constructor
  · intro hmem
    obtain ⟨ref, href, rfl⟩ := List.mem_map.mp hmem
    exact List.mem_map_of_mem (h.sound ref href)
  · intro hmem
    obtain ⟨ref, href, rfl⟩ := List.mem_map.mp hmem
    obtain ⟨ref', href', hid⟩ := List.mem_map.mp (h.complete ref href)
    exact List.mem_map.mpr ⟨ref', href', congrArg (fun identity : Identity => identity.2.2) hid⟩

/-- The names of a planned result are distinct exactly when those of the context are apart. -/
theorem Planned.nodup_iff {p : GroundedQueryPlan} (h : Planned context p) :
    (p.selectedFields.map (·.fieldPath) ++ p.aggregates.map (·.alias_)).Nodup ↔ NamesApart context := by
  rw [List.nodup_append, h.selected.nodup_paths]
  rcases h.aggregates with ⟨hprojects, hempty⟩ | ⟨hread, hnames⟩
  · rw [hempty]
    constructor
    · rintro ⟨hdimensions, -, -⟩
      exact ⟨hdimensions, fun hnot => absurd hprojects hnot⟩
    · intro hapart
      exact ⟨hapart.dimensions, List.nodup_nil, fun a _ b hb => absurd hb List.not_mem_nil⟩
  · constructor
    · rintro ⟨hdimensions, -, hdisjoint⟩
      refine ⟨hdimensions, fun _ ref href hname => ?_⟩
      rw [hnames] at hdisjoint
      exact hdisjoint _ (h.selected.mem_paths.mpr (List.mem_map_of_mem href)) _ hname rfl
    · intro hapart
      refine ⟨hapart.dimensions, hnames ▸ nodup_metricNames context, fun a ha b hb he => ?_⟩
      rcases hread with hnot | hnone
      · obtain ⟨ref, href, rfl⟩ := List.mem_map.mp (h.selected.mem_paths.mp ha)
        rw [hnames, ← he] at hb
        exact hapart.metrics hnot ref href hb
      · rw [hnone] at ha
        cases ha

end GroundedQueryPlanner

/-! ## Rows -/

/-- `[column[0] for column in cursor.description]` -/
def outputColumns (s : Statement Column Value) : List String := s.items.map Item.name

/-- `dict(row)` -/
def rowDict (columns : List String) (values : List Value) : Dict Value := Dict.update [] (columns.zip values)

theorem outputColumns_meaning (t : Texts) (p : GroundedQueryPlan) :
    outputColumns (meaning t p) = p.selectedFields.map (·.fieldPath) ++ p.aggregates.map (·.alias_) := by
  simp [outputColumns, meaning, statementOf, List.map_append, Function.comp_def, Item.name, itemOf, refOf,
    columnOf]

theorem keys_rowDict_iff {columns : List String} {values : List Value}
    (h : values.length = columns.length) : (rowDict columns values).keys = columns ↔ columns.Nodup := by
  have hkeys : (columns.zip values).map Prod.fst = columns := List.map_fst_zip (le_of_eq h.symm)
  have hall : (Dict.update [] (columns.zip values)).keys = (columns.zip values).map Prod.fst ↔
      ((columns.zip values).map Prod.fst).Nodup := Dict.keys_update_nil_iff
  rw [hkeys] at hall
  exact hall

/-- No column of the result is lost: the names are distinct, and a row has one entry for each column. -/
def KeepsColumns (columns : List String) : Prop :=
  columns.Nodup ∧ ∀ values : List Value, values.length = columns.length →
    (rowDict columns values).keys = columns

theorem keepsColumns_iff {columns : List String} : KeepsColumns columns ↔ columns.Nodup :=
  ⟨fun h => h.1, fun h => ⟨h, fun _ hlength => (keys_rowDict_iff hlength).mpr h⟩⟩

section Planned

open GroundedPlanValidator GroundedQueryPlanner

variable {context : GroundedQueryContext} {p : GroundedQueryPlan} {t : Texts} {d : Driver} {q : NativeQuery}
  {pt : GroundedQueryPlanner.Texts} {vt : GroundedPlanValidator.Texts}

/-- What the command of an accepted plan of the planner reads. -/
theorem decode_planned (hplan : plan pt context = .ok p) (hvalid : validate vt p context = .ok ())
    (hq : SQLCompiler.compile t d p = .ok q) :
    ∃ command s, q.command = .text command ∧ decode d command q.parameters = some s ∧
      outputColumns s = p.selectedFields.map (·.fieldPath) ++ p.aggregates.map (·.alias_) := by
  obtain ⟨command, hcommand⟩ : ∃ command, q.command = .text command := by
    obtain ⟨command, hq', -⟩ := (compile_written hq).text
    exact ⟨command, by rw [hq']⟩
  have hconnected := (validate_ok.mp hvalid).connected (plan_ok hplan).objects
  exact ⟨command, meaning t p, hcommand, (decode_compiled hq hcommand).mpr hconnected,
    outputColumns_meaning t p⟩

/-- **The command of an accepted plan of the planner reads the selected fields and the aggregates of the
plan, and no column of its result is lost if and only if the names of the context are apart.** -/
theorem output_columns_iff (hplan : plan pt context = .ok p) (hvalid : validate vt p context = .ok ())
    (hq : SQLCompiler.compile t d p = .ok q) :
    ∃ command s, q.command = .text command ∧ decode d command q.parameters = some s ∧
      outputColumns s = p.selectedFields.map (·.fieldPath) ++ p.aggregates.map (·.alias_) ∧
      (KeepsColumns (outputColumns s) ↔ NamesApart context) := by
  obtain ⟨command, s, hcommand, hs, hcolumns⟩ := decode_planned hplan hvalid hq
  refine ⟨command, s, hcommand, hs, hcolumns, ?_⟩
  rw [keepsColumns_iff, hcolumns, (plan_ok hplan).nodup_iff]

end Planned

section Sample

open GroundedPlanValidator (sampleContext metricBinding)

/-- A dimension on a field of an object. -/
def sampleDimension (term object path : String) : QueryContextBinding where
  businessTerm := term
  assetType := .dimension
  assetId := "dimension_" ++ path
  datasourceId := "ds_1"
  dataObjectId := some object
  fieldPath := some path
  score := 1

/-- The sales by two dimensions. -/
def salesBy (first second : QueryContextBinding) : GroundedQueryContext :=
  { sampleContext [metricBinding, first, second] with
    metrics := [metricBinding]
    dimensions := [first, second]
    allowedFieldPaths := ["amount", "channel", "name", "region", "sum_amount"] }

def samplePlanner : GroundedQueryPlanner.Texts where
  list items := ", ".intercalate items
  digest _ := "000000000000"

/-- The plan of the context, and the columns of its result. -/
def plannedColumns (context : GroundedQueryContext) : Option (List String) := do
  let p ← (GroundedQueryPlanner.plan samplePlanner context).toOption
  let _ ← (GroundedPlanValidator.validate GroundedPlanValidator.sampleTexts p context).toOption
  let _ ← (SQLCompiler.compile sampleTexts .sqlite p).toOption
  return outputColumns (meaning sampleTexts p)

theorem plannedColumns_some {context : GroundedQueryContext} {columns : List String}
    (h : plannedColumns context = some columns) :
    ∃ p q, GroundedQueryPlanner.plan samplePlanner context = .ok p ∧
      GroundedPlanValidator.validate GroundedPlanValidator.sampleTexts p context = .ok () ∧
      SQLCompiler.compile sampleTexts .sqlite p = .ok q ∧
      p.selectedFields.map (·.fieldPath) ++ p.aggregates.map (·.alias_) = columns := by
  obtain ⟨p, hp, h⟩ := Option.bind_eq_some_iff.mp h
  obtain ⟨⟨⟩, hv, h⟩ := Option.bind_eq_some_iff.mp h
  obtain ⟨q, hq, h⟩ := Option.bind_eq_some_iff.mp h
  have hok : ∀ {ε α : Type} {x : Except ε α} {a : α}, x.toOption = some a → x = .ok a := by
    intro ε α x a hx
    cases x with
    | error e => cases hx
    | ok b => rw [Option.some.inj hx]
  exact ⟨p, q, hok hp, hok hv, hok hq, (outputColumns_meaning _ _).symm.trans (Option.some.inj h)⟩

/-- The sales by channel and region. -/
def apartContext : GroundedQueryContext :=
  salesBy (sampleDimension "渠道" "orders" "channel") (sampleDimension "地区" "customers" "region")

/-- Two dimensions of one name, on different objects. -/
def twoNames : GroundedQueryContext :=
  salesBy (sampleDimension "商品" "orders" "name") (sampleDimension "客户" "customers" "name")

/-- A dimension with the name of an aggregate. -/
def aliasNamed : GroundedQueryContext :=
  salesBy (sampleDimension "合计" "orders" "sum_amount") (sampleDimension "地区" "customers" "region")

theorem apart_keepsColumns : GroundedQueryPlanner.NamesApart apartContext := by
  have hplanned : plannedColumns apartContext = some ["channel", "region", "sum_amount"] := by
    decide +kernel
  obtain ⟨p, q, hp, hv, hq, hcolumns⟩ := plannedColumns_some hplanned
  obtain ⟨-, s, -, -, hs, hiff⟩ := output_columns_iff hp hv hq
  refine hiff.mp (keepsColumns_iff.mpr ?_)
  rw [hs, hcolumns]
  decide

/-- Columns of one name are lost. -/
theorem loses_of_columns {context : GroundedQueryContext} {columns : List String}
    (h : plannedColumns context = some columns) (hdouble : ¬columns.Nodup) :
    ∃ p q command s, GroundedQueryPlanner.plan samplePlanner context = .ok p ∧
      GroundedPlanValidator.validate GroundedPlanValidator.sampleTexts p context = .ok () ∧
      SQLCompiler.compile sampleTexts .sqlite p = .ok q ∧ q.command = .text command ∧
      decode .sqlite command q.parameters = some s ∧ outputColumns s = columns ∧
      ¬KeepsColumns (outputColumns s) := by
  obtain ⟨p, q, hp, hv, hq, hcolumns⟩ := plannedColumns_some h
  obtain ⟨command, s, hcommand, hs, hnames⟩ := decode_planned hp hv hq
  rw [hcolumns] at hnames
  refine ⟨p, q, command, s, hp, hv, hq, hcommand, hs, hnames, fun hkeeps => ?_⟩
  exact hdouble (hnames ▸ hkeeps.1)

/-- A context that is well formed, and whose planned command reads these columns but loses one. -/
def Loses (context : GroundedQueryContext) (columns : List String) : Prop :=
  context.validate = .ok context ∧
    ∃ p q command s, GroundedQueryPlanner.plan samplePlanner context = .ok p ∧
      GroundedPlanValidator.validate GroundedPlanValidator.sampleTexts p context = .ok () ∧
      SQLCompiler.compile sampleTexts .sqlite p = .ok q ∧ q.command = .text command ∧
      decode .sqlite command q.parameters = some s ∧ outputColumns s = columns ∧
      ¬KeepsColumns (outputColumns s)

/-- Dimensions of two joined objects share a name; a dimension has the name of the aggregate. -/
theorem shared_names_lost :
    Loses twoNames ["name", "name", "sum_amount"] ∧
      Loses aliasNamed ["sum_amount", "region", "sum_amount"] :=
  ⟨⟨by decide, loses_of_columns (by decide) (by decide)⟩,
   ⟨by decide, loses_of_columns (by decide) (by decide)⟩⟩

end Sample

end Querying
