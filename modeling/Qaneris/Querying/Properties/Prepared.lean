import Mathlib.Data.List.Dedup
import Qaneris.Infra.Growth
import Qaneris.Querying.Prepared

/-!
# What a plan keeps of its intent

A plan always has a join path through its objects and an aggregate for each aggregate of the intent. A
filter whose field is found in none or in several of the objects is dropped, and a field that the
planner takes as it was asked for may be one that the validator refuses.
-/

namespace Querying

open Contracts Infra

namespace RuleBasedQueryPlanner

/-! ## Connected objects -/

/-- The objects a relationship joins. -/
def endsOf (r : RelationshipProfile) : String × String := (r.fromObjectId, r.toObjectId)

section Joining

variable {first : RetrievedDataObject} {rest : List RetrievedDataObject}
  {relations : List RelationshipProfile} {s : Joining}

/-- What holds of the loop in every state. -/
structure JoiningInv (first : RetrievedDataObject) (rest : List RetrievedDataObject)
    (relations : List RelationshipProfile) (s : Joining) : Prop where
  grown : Grown endsOf first.profile.id (s.selected.map (·.id)) s.relationships
  relations : ∀ r ∈ s.relationships, r ∈ relations
  first_mem : first.profile ∈ s.selected
  retrieved : ∀ o ∈ s.selected, o = first.profile ∨
    (Joining.start first rest).candidates.get? o.id = some o
  candidates : ∀ k o, s.candidates.get? k = some o → (Joining.start first rest).candidates.get? k = some o

/-- A candidate was retrieved, and stands under its own id. -/
theorem candidate_retrieved {k : String} {o : DataObjectProfile}
    (h : (Joining.start first rest).candidates.get? k = some o) :
    o.id = k ∧ ∃ item ∈ rest, item.profile = o := by
  have h : (Dict.update [] (rest.map fun item => (item.profile.id, item.profile))).get? k =
      some o := h
  rw [Dict.get?_update, Dict.get?_nil, Option.or_none, Dict.get?, List.lookup_eq_some_iff] at h
  obtain ⟨before, after, hsplit, -⟩ := h
  have hmem : (k, o) ∈ rest.map fun item => (item.profile.id, item.profile) := by
    rw [← List.mem_reverse, hsplit]
    exact List.mem_append_right _ List.mem_cons_self
  obtain ⟨item, hitem, heq⟩ := List.mem_map.mp hmem
  obtain ⟨rfl, rfl⟩ := Prod.mk.inj heq
  exact ⟨rfl, item, hitem, rfl⟩

theorem joiningInv_start : JoiningInv first rest relations (Joining.start first rest) where
  grown := .root
  relations r hr := absurd hr List.not_mem_nil
  first_mem := List.mem_cons_self
  retrieved o ho := .inl (List.mem_singleton.mp ho)
  candidates k o h := h

/-- The relationship leads from a selected object to the one that is missing. -/
theorem links_of_missing {selectedIds : List String} {r : RelationshipProfile} {objectId : String}
    (hmissing : [r.fromObjectId, r.toObjectId].dedup.filter (· ∉ selectedIds) = [objectId])
    (hany : [r.fromObjectId, r.toObjectId].dedup.any (· ∈ selectedIds)) :
    ∃ a ∈ selectedIds, Links endsOf r a objectId := by
  obtain ⟨a, ha, hselected⟩ := List.any_eq_true.mp hany
  have hselected := of_decide_eq_true hselected
  have hobject : objectId ∈ [r.fromObjectId, r.toObjectId].dedup.filter (· ∉ selectedIds) := by
    rw [hmissing]
    exact List.mem_cons_self
  obtain ⟨hends, hnot⟩ := List.mem_filter.mp hobject
  have hne : a ≠ objectId := by
    rintro rfl
    exact of_decide_eq_true hnot hselected
  rw [List.mem_dedup] at ha hends
  simp only [List.mem_cons, List.not_mem_nil, or_false] at ha hends
  refine ⟨a, hselected, ?_⟩
  rcases ha with rfl | rfl
  · rcases hends with rfl | rfl
    · exact absurd rfl hne
    · exact .inl rfl
  · rcases hends with rfl | rfl
    · exact .inr rfl
    · exact absurd rfl hne

/-- What one relationship does: nothing, or it takes a candidate. -/
theorem take_cases (selectedIds : List String) (s : Joining) (r : RelationshipProfile) :
    s.take selectedIds r = s ∨ ∃ objectId profile, ∃ a ∈ selectedIds, Links endsOf r a objectId ∧
      s.candidates.get? objectId = some profile ∧
      (s.take selectedIds r).selected = s.selected ++ [profile] ∧
      (s.take selectedIds r).relationships = s.relationships ++ [r] ∧
      (s.take selectedIds r).candidates = s.candidates.pop objectId ∧
      (s.take selectedIds r).progress = true := by
  unfold Joining.take
  split
  · exact .inl rfl
  · simp only
    split
    · next objectId hmissing =>
      split
      · next hany =>
        obtain ⟨a, ha, hlinks⟩ := links_of_missing hmissing hany
        split
        · next profile hprofile =>
          exact .inr ⟨objectId, profile, a, ha, hlinks, hprofile, rfl, rfl, rfl, rfl⟩
        · exact .inl rfl
      · exact .inl rfl
    · exact .inl rfl

theorem joiningInv_take (h : JoiningInv first rest relations s) {selectedIds : List String}
    (hids : selectedIds ⊆ s.selected.map (·.id)) {r : RelationshipProfile} (hr : r ∈ relations) :
    JoiningInv first rest relations (s.take selectedIds r) ∧
      selectedIds ⊆ (s.take selectedIds r).selected.map (·.id) := by
  rcases take_cases selectedIds s r with heq | ⟨objectId, profile, a, ha, hlinks, hprofile, hselected,
    hrelationships, hcandidates, -⟩
  · rw [heq]
    exact ⟨h, hids⟩
  · have hcandidate := h.candidates objectId profile hprofile
    obtain ⟨hid, -⟩ := candidate_retrieved hcandidate
    refine ⟨⟨?_, ?_, ?_, ?_, ?_⟩, ?_⟩
    · rw [hselected, hrelationships, List.map_append]
      have hprofileLinks : Links endsOf r a profile.id := by
        rw [hid]
        exact hlinks
      exact .grow h.grown (hids ha) hprofileLinks
    · intro q hq
      rw [hrelationships] at hq
      rcases List.mem_append.mp hq with hq | hq
      · exact h.relations q hq
      · rw [List.mem_singleton.mp hq]
        exact hr
    · rw [hselected]
      exact List.mem_append_left _ h.first_mem
    · intro o ho
      rw [hselected] at ho
      rcases List.mem_append.mp ho with ho | ho
      · exact h.retrieved o ho
      · rw [List.mem_singleton.mp ho, hid]
        exact .inr hcandidate
    · intro k o hget
      rw [hcandidates, Dict.get?_pop] at hget
      split at hget
      · cases hget
      · exact h.candidates k o hget
    · rw [hselected, List.map_append]
      exact fun id hmem => List.mem_append_left _ (hids hmem)

theorem joiningInv_foldl {selectedIds : List String} {pending : List RelationshipProfile}
    (h : JoiningInv first rest relations s) (hids : selectedIds ⊆ s.selected.map (·.id))
    (hpending : ∀ r ∈ pending, r ∈ relations) :
    JoiningInv first rest relations (pending.foldl (Joining.take selectedIds) s) := by
  induction pending generalizing s with
  | nil => exact h
  | cons r pending ih =>
    obtain ⟨hnext, hnextIds⟩ := joiningInv_take h hids (hpending r List.mem_cons_self)
    exact ih hnext hnextIds fun q hq => hpending q (List.mem_cons_of_mem _ hq)

theorem joiningInv_round (h : JoiningInv first rest relations s) :
    JoiningInv first rest relations (s.round relations) := by
  have hbegin : JoiningInv first rest relations { s with progress := false } :=
    ⟨h.grown, h.relations, h.first_mem, h.retrieved, h.candidates⟩
  exact joiningInv_foldl hbegin (fun id hid => hid) fun r hr => hr

theorem joiningInv_run (h : JoiningInv first rest relations s) (fuel : Nat) :
    JoiningInv first rest relations (s.run relations fuel) := by
  induction fuel generalizing s with
  | zero => exact h
  | succ fuel ih =>
    unfold Joining.run
    simp only
    split
    · exact ih (joiningInv_round h)
    · exact joiningInv_round h

/-! ### The loop ends -/

theorem foldl_take_candidates (selectedIds : List String) (pending : List RelationshipProfile)
    (s : Joining) :
    (pending.foldl (Joining.take selectedIds) s).candidates.length ≤ s.candidates.length ∧
      (s.progress = false → (pending.foldl (Joining.take selectedIds) s).progress = true →
        (pending.foldl (Joining.take selectedIds) s).candidates.length < s.candidates.length) := by
  induction pending generalizing s with
  | nil => exact ⟨Nat.le_refl _, fun hfalse htrue => absurd htrue (by simp [hfalse])⟩
  | cons r pending ih =>
    rw [List.foldl_cons]
    obtain ⟨hle, hlt⟩ := ih (s.take selectedIds r)
    rcases take_cases selectedIds s r with heq | ⟨objectId, profile, a, ha, hlinks, hprofile, -, -,
      hcandidates, -⟩
    · rw [heq] at hle hlt ⊢
      exact ⟨hle, hlt⟩
    · have hpop : (s.take selectedIds r).candidates.length < s.candidates.length := by
        rw [hcandidates]
        exact Dict.length_pop hprofile
      exact ⟨by omega, fun _ _ => by omega⟩

/-- A round that makes progress takes a candidate. -/
theorem round_candidates (relations : List RelationshipProfile) (s : Joining)
    (h : (s.round relations).progress = true) :
    (s.round relations).candidates.length < s.candidates.length :=
  (foldl_take_candidates _ relations { s with progress := false }).2 rfl h

/-- **The loop ends by itself**: the last round makes no progress. -/
theorem run_ends (relations : List RelationshipProfile) {fuel : Nat} {s : Joining}
    (h : s.candidates.length < fuel) : (s.run relations fuel).progress = false := by
  induction fuel generalizing s with
  | zero => omega
  | succ fuel ih =>
    unfold Joining.run
    simp only
    split
    · next hprogress =>
      have hshorter := round_candidates relations s hprogress
      exact ih (by omega)
    · next hprogress => simpa using hprogress

end Joining

/-! ## What is planned -/

variable {lower : String → String} {context : QueryContext} {l : Located} {p : QueryPlan}

theorem joining_inv (l : Located) (context : QueryContext) :
    JoiningInv l.first l.rest context.relationships (l.joining context) := by
  unfold Located.joining
  split
  · exact joiningInv_run joiningInv_start _
  · exact ⟨.root, fun r hr => absurd hr List.not_mem_nil, List.mem_cons_self,
      fun o ho => .inl (List.mem_singleton.mp ho), fun k o h => by cases h⟩

/-- The aggregate of the plan that stands for one of the intent. -/
def settled (lower : String → String) (question : String) (objects : List DataObjectProfile)
    (item : AggregateSpec) : AggregateSpec :=
  { item with
    field := aggregateField lower question objects item
    alias_ := aggregateAlias item }

theorem mapM_resolveAggregate {question : String} {objects : List DataObjectProfile}
    {items aggregates : List AggregateSpec}
    (h : items.mapM (resolveAggregate lower question objects) = .ok aggregates) :
    aggregates = items.map (settled lower question objects) := by
  induction items generalizing aggregates with
  | nil =>
    cases h
    rfl
  | cons item items ih =>
    rw [List.mapM_cons] at h
    obtain ⟨head, hhead, h⟩ := bind_ok h
    obtain ⟨tail, htail, h⟩ := bind_ok h
    obtain rfl := Except.ok.inj h
    rw [ih htail, List.map_cons]
    unfold resolveAggregate at hhead
    split at hhead
    · cases hhead
    · rw [← Except.ok.inj hhead]
      rfl

/-- The field of the time range in the plan. -/
def timeFieldOf (lower : String → String) (context : QueryContext) (l : Located) : Option String :=
  if context.intent.timeRange.isSome then
    bestTimeField lower context.intent.question (l.objects context)
  else none

/-- The dimensions of the plan. -/
def dimensionsOf (lower : String → String) (context : QueryContext) (l : Located) : List String :=
  matchedDimensions lower context.intent.question (l.objects context)

/-- The aggregates of the plan. -/
def aggregatesOf (lower : String → String) (context : QueryContext) (l : Located) :
    List AggregateSpec :=
  context.intent.aggregates.map (settled lower context.intent.question (l.objects context))

/-- The plan is made of what the planner found. -/
structure Made (lower : String → String) (context : QueryContext) (l : Located) (p : QueryPlan) :
    Prop where
  source : l.source = context.dataSources.head?
  datasourceId : p.datasourceId = l.source.datasourceId
  dataObjectIds : p.dataObjectIds = (l.objects context).map (·.id)
  relationshipIds : p.relationshipIds = (l.joining context).relationships.map (·.id)
  outputFields : p.outputFields = if dimensionsOf lower context l ≠ [] then dimensionsOf lower context l
    else if aggregatesOf lower context l ≠ [] then [] else defaultFields l.first.profile
  metrics : p.metrics = (aggregatesOf lower context l).filterMap fun item => given item.field
  dimensions : p.dimensions = dimensionsOf lower context l
  groupBy : p.groupBy = if aggregatesOf lower context l ≠ [] then dimensionsOf lower context l else []
  filters : p.filters = resolveFilters lower context.intent.filters (l.objects context)
  timeField : p.timeField = timeFieldOf lower context l
  aggregates : p.aggregates = aggregatesOf lower context l
  sorts : p.sorts = resolveSorts context.intent.sorts (aggregatesOf lower context l)
    (dimensionsOf lower context l)

theorem locate_source (h : locate context = .ok l) : some l.source = context.dataSources.head? := by
  unfold locate at h
  split at h
  · cases h
  · next source sources hsources =>
    split at h
    · cases h
    · split at h
      · cases h
      · obtain rfl := Except.ok.inj h
        rw [hsources]
        rfl

theorem resolveTime_field {objects : List DataObjectProfile} {time : Timed}
    (h : resolveTime lower context.intent objects = .ok time) :
    time.field = if context.intent.timeRange.isSome then
      bestTimeField lower context.intent.question objects else none := by
  unfold resolveTime at h
  split at h
  · next hrange =>
    obtain rfl := Except.ok.inj h
    rw [hrange]
    rfl
  · next range hrange =>
    split at h
    · cases h
    · next field hfield =>
      obtain rfl := Except.ok.inj h
      rw [hrange, hfield]
      rfl

theorem plan_made {maxRows : { n : Nat // 1 ≤ n }} {planId : String}
    (h : plan lower context maxRows planId = .ok p) :
    ∃ l, locate context = .ok l ∧ Made lower context l p := by
  unfold plan at h
  obtain ⟨l, hl, h⟩ := bind_ok h
  obtain ⟨aggregates, haggregates, h⟩ := bind_ok h
  obtain ⟨time, htime, h⟩ := bind_ok h
  obtain rfl := Except.ok.inj h
  obtain rfl := mapM_resolveAggregate haggregates
  exact ⟨l, hl, {
    source := locate_source hl
    datasourceId := rfl
    dataObjectIds := rfl
    relationshipIds := rfl
    outputFields := rfl
    metrics := rfl
    dimensions := rfl
    groupBy := rfl
    filters := rfl
    timeField := resolveTime_field htime
    aggregates := rfl
    sorts := rfl }⟩

/-- Nothing but a planning error is raised. -/
theorem plan_raises {maxRows : { n : Nat // 1 ≤ n }} {planId : String} {e : Failure}
    (h : plan lower context maxRows planId = .error e) : ∃ message, e = .planning message := by
  unfold plan at h
  rcases bind_error h with h | ⟨l, hl, h⟩
  · unfold locate at h
    split at h
    · exact ⟨_, (Except.error.inj h).symm⟩
    · split at h
      · exact ⟨_, (Except.error.inj h).symm⟩
      · split at h
        · exact ⟨_, (Except.error.inj h).symm⟩
        · cases h
  · rcases bind_error h with h | ⟨aggregates, haggregates, h⟩
    · obtain ⟨item, -, hitem⟩ := exists_of_mapM_error h
      unfold resolveAggregate at hitem
      split at hitem
      · exact ⟨_, (Except.error.inj hitem).symm⟩
      · cases hitem
    · rcases bind_error h with h | ⟨time, htime, h⟩
      · unfold resolveTime at h
        split at h
        · cases h
        · split at h
          · exact ⟨_, (Except.error.inj h).symm⟩
          · cases h
      · cases h

/-! ## What a plan is to keep -/

/-- The objects of the plan of a context. -/
def plannedObjects (context : QueryContext) : List DataObjectProfile :=
  match locate context with
  | .ok l => l.objects context
  | .error _ => []

/-- The filter has the operator and the value of the one of the intent, on the one field that its text
names. -/
structure FilterKept (lower : String → String) (objects : List DataObjectProfile)
    (item filter : FilterSpec) : Prop where
  operator : filter.operator = item.operator
  value : filter.value = item.value
  field : ∃ column, matching lower item.field objects = [column] ∧ filter.field = reference column

/-- Two objects of the plan are joined by one of its relationships. -/
def PlanJoins (context : QueryContext) (p : QueryPlan) (a b : String) : Prop :=
  a ∈ p.dataObjectIds ∧ b ∈ p.dataObjectIds ∧
    ∃ r ∈ context.relationships, r.id ∈ p.relationshipIds ∧ Links endsOf r a b

/-- What a sort of the plan may refer to. -/
def sortNames (aggregates : List AggregateSpec) (dimensions : List String) : List String :=
  aggregates.filterMap (fun item => given item.alias_) ++
    aggregates.filterMap (fun item => given item.field) ++ dimensions

/-- **Planning drops nothing.** -/
structure Keeps (lower : String → String) (context : QueryContext) (p : QueryPlan) : Prop where
  filters : List.Forall₂ (FilterKept lower (plannedObjects context)) context.intent.filters p.filters
  joined : ∃ root ∈ p.dataObjectIds, ∀ id ∈ p.dataObjectIds,
    Relation.ReflTransGen (PlanJoins context p) root id
  aggregates : List.Forall₂ (fun item aggregate : AggregateSpec =>
      aggregate.function = item.function ∧ ∀ a ∈ given item.alias_, aggregate.alias_ = some a)
    context.intent.aggregates p.aggregates
  sorts : ∀ item ∈ p.sorts, item.field ∈ sortNames p.aggregates p.dimensions
  accepted : QueryPlanValidator.validate p context = .ok ()

/-! ## When it does -/

/-- The fields that the validator lets a plan refer to. -/
def allowedOf (context : QueryContext) (l : Located) : List String :=
  QueryPlanValidator.allowedFields l.source ((l.objects context).map (·.id))

/-- The fields that the planner looks up itself. -/
def takenOf (lower : String → String) (context : QueryContext) (l : Located) : List String :=
  dimensionsOf lower context l ++
    (if dimensionsOf lower context l = [] ∧ context.intent.aggregates = [] then
      defaultFields l.first.profile else []) ++
    context.intent.filters.filterMap (fun item => resolveField lower item.field (l.objects context)) ++
    (context.intent.aggregates.filter (·.function ≠ .count)).filterMap (fun _ =>
      bestNumericField lower context.intent.question (l.objects context)) ++
    (timeFieldOf lower context l).toList

/-- The intent can be planned without loss. -/
structure Plannable (lower : String → String) (context : QueryContext) (l : Located) : Prop where
  /-- No other source was retrieved under the same id. -/
  source : ∀ s ∈ context.dataSources.tail, s.datasourceId ≠ l.source.datasourceId
  /-- The text of every filter names one field of the planned objects. -/
  filters : ∀ item ∈ context.intent.filters,
    ∃ column, matching lower item.field (l.objects context) = [column]
  /-- A field that is counted is asked for by the reference of a planned field. -/
  counts : ∀ item ∈ context.intent.aggregates, item.function = .count →
    ∀ field ∈ given item.field, field ∈ allowedOf context l
  /-- Where there is nothing else to sort by, sorts are asked for by a name of the plan. -/
  sorts : given (sortTarget (aggregatesOf lower context l) (dimensionsOf lower context l)) = none →
    ∀ item ∈ context.intent.sorts,
      item.field ∈ sortNames (aggregatesOf lower context l) (dimensionsOf lower context l)
  /-- No object retrieved later hides, under the id of the first one, a field that is looked up. -/
  fields : ∀ field ∈ takenOf lower context l, field ∈ allowedOf context l
  /-- What is found under the id of a join relationship joins planned objects in the source. -/
  relationships : ∀ r ∈ (l.joining context).relationships,
    ∀ item ∈ (QueryPlanValidator.allowedRelationships context).get? r.id,
      item.fromDatasourceId = l.source.datasourceId ∧ item.toDatasourceId = l.source.datasourceId ∧
      item.fromObjectId ∈ (l.objects context).map (·.id) ∧
      item.toObjectId ∈ (l.objects context).map (·.id)

/-! ## Filters -/

theorem length_resolveFilters (items : List FilterSpec) (objects : List DataObjectProfile) :
    (resolveFilters lower items objects).length ≤ items.length := List.length_filterMap_le _ _

theorem resolveField_some {text : String} {objects : List DataObjectProfile} {column : Column}
    (h : matching lower text objects = [column]) :
    resolveField lower text objects = some (reference column) := by
  rw [resolveField, h]

theorem matching_of_resolveField {text field : String} {objects : List DataObjectProfile}
    (h : resolveField lower text objects = some field) :
    ∃ column, matching lower text objects = [column] ∧ field = reference column := by
  unfold resolveField at h
  split at h
  · next column hcolumn => exact ⟨column, hcolumn, (Option.some.inj h).symm⟩
  · cases h

/-- **The filters are kept exactly when each names one field.** -/
theorem filters_kept_iff (items : List FilterSpec) (objects : List DataObjectProfile) :
    List.Forall₂ (FilterKept lower objects) items (resolveFilters lower items objects) ↔
      ∀ item ∈ items, ∃ column, matching lower item.field objects = [column] := by
  constructor
  · intro h item hitem
    obtain ⟨filter, -, hkept⟩ := exists_of_forall₂ h hitem
    obtain ⟨column, hcolumn, -⟩ := hkept.field
    exact ⟨column, hcolumn⟩
  · intro h
    induction items with
    | nil => exact .nil
    | cons item items ih =>
      obtain ⟨column, hcolumn⟩ := h item List.mem_cons_self
      have hresolved := resolveField_some hcolumn
      have hcons : resolveFilters lower (item :: items) objects =
          { item with field := reference column } :: resolveFilters lower items objects := by
        rw [resolveFilters, List.filterMap_cons, hresolved]
        rfl
      rw [hcons]
      exact .cons ⟨rfl, rfl, column, hcolumn, rfl⟩
        (ih fun other hother => h other (List.mem_cons_of_mem _ hother))

/-! ## Aggregates and joins -/

theorem given_eq_some {text : Option String} {a : String} :
    given text = some a ↔ text = some a ∧ a ≠ "" := by
  cases text with
  | none => simp [given]
  | some b =>
    by_cases hb : b = ""
    · simp only [given, if_pos hb, Option.some.injEq]
      constructor
      · intro h
        cases h
      · rintro ⟨rfl, ha⟩
        exact absurd hb ha
    · simp only [given, if_neg hb, Option.some.injEq]
      constructor
      · rintro rfl
        exact ⟨rfl, hb⟩
      · exact fun h => h.1

/-- Every aggregate of the intent is in the plan, under the alias that was asked for. -/
theorem aggregates_kept (question : String) (objects : List DataObjectProfile)
    (items : List AggregateSpec) :
    List.Forall₂ (fun item aggregate : AggregateSpec =>
        aggregate.function = item.function ∧ ∀ a ∈ given item.alias_, aggregate.alias_ = some a)
      items (items.map (settled lower question objects)) := by
  rw [List.forall₂_map_right_iff]
  refine List.forall₂_same.mpr fun item _ => ⟨rfl, fun a ha => ?_⟩
  show aggregateAlias item = some a
  unfold aggregateAlias
  split
  · exact (given_eq_some.mp ha).1
  · rw [Option.mem_def.mp ha]
    rfl

/-- **The relationships of a plan join all its objects.** -/
theorem plan_joined (h : Made lower context l p) :
    ∃ root ∈ p.dataObjectIds, ∀ id ∈ p.dataObjectIds,
      Relation.ReflTransGen (PlanJoins context p) root id := by
  have hinv := joining_inv l context
  rw [h.dataObjectIds]
  refine ⟨l.first.profile.id, hinv.grown.root_mem, fun id hid => ?_⟩
  refine Relation.ReflTransGen.mono (fun a b hadjacent => ?_) _ _ (hinv.grown.connected hid)
  obtain ⟨ha, hb, r, hr, hlinks⟩ := hadjacent
  refine ⟨?_, ?_, r, hinv.relations r hr, ?_, hlinks⟩
  · rw [h.dataObjectIds]
    exact ha
  · rw [h.dataObjectIds]
    exact hb
  · rw [h.relationshipIds]
    exact List.mem_map_of_mem hr

/-! ## Sorts -/

theorem sortTarget_mem {aggregates : List AggregateSpec} {dimensions : List String} {target : String}
    (h : given (sortTarget aggregates dimensions) = some target) :
    target ∈ sortNames aggregates dimensions := by
  obtain ⟨htarget, hne⟩ := given_eq_some.mp h
  unfold sortTarget at htarget
  unfold sortNames
  cases aggregates with
  | nil => exact List.mem_append_right _ (List.mem_of_mem_head? htarget)
  | cons item items =>
    refine List.mem_append_left _ (List.mem_append.mpr ?_)
    cases halias : given item.alias_ with
    | some a =>
      simp only [halias, Option.some_or, Option.some.injEq] at htarget
      rw [← htarget]
      exact .inl (List.mem_filterMap.mpr ⟨item, List.mem_cons_self, halias⟩)
    | none =>
      simp only [halias, Option.none_or] at htarget
      exact .inr (List.mem_filterMap.mpr ⟨item, List.mem_cons_self, given_eq_some.mpr ⟨htarget, hne⟩⟩)

/-- **Sorts refer to the plan** when there is a target, and else exactly when they were asked for so. -/
theorem sorts_kept_iff (sorts : List SortSpec) (aggregates : List AggregateSpec)
    (dimensions : List String) :
    (∀ item ∈ resolveSorts sorts aggregates dimensions, item.field ∈ sortNames aggregates dimensions) ↔
      (given (sortTarget aggregates dimensions) = none →
        ∀ item ∈ sorts, item.field ∈ sortNames aggregates dimensions) := by
  unfold resolveSorts
  cases htarget : given (sortTarget aggregates dimensions) with
  | some target =>
    constructor
    · intro _ hnone
      cases hnone
    · intro _ item hitem
      obtain ⟨sort, -, rfl⟩ := List.mem_map.mp hitem
      exact sortTarget_mem htarget
  | none =>
    constructor
    · intro h _ item hitem
      exact h _ (List.mem_map_of_mem hitem)
    · intro h item hitem
      obtain ⟨sort, hsort, rfl⟩ := List.mem_map.mp hitem
      exact h rfl sort hsort

/-! ## Fields -/

theorem reference_ne_empty (column : Column) : reference column ≠ "" := by
  intro h
  have hlength := congrArg String.length h
  simp [reference, referenceText] at hlength

theorem given_reference (column : Column) : given (some (reference column)) = some (reference column) :=
  given_eq_some.mpr ⟨rfl, reference_ne_empty column⟩

theorem given_chosen (question : String) (fields : List Column) :
    given (chosen lower question fields) = chosen lower question fields := by
  unfold chosen
  simp only
  cases (if (fields.filter fun column => isIn (lower column.2.path) (lower question)) = [] then fields
    else fields.filter fun column => isIn (lower column.2.path) (lower question)).head? with
  | none => rfl
  | some column => exact given_reference column

theorem given_timeFieldOf : given (timeFieldOf lower context l) = timeFieldOf lower context l := by
  unfold timeFieldOf
  split
  · exact given_chosen _ _
  · rfl

theorem mem_aggregateFields_iff {question field : String} {objects : List DataObjectProfile}
    {items : List AggregateSpec} :
    field ∈ (items.map (settled lower question objects)).filterMap (fun item => given item.field) ↔
      (∃ item ∈ items, item.function = .count ∧ given item.field = some field) ∨
      field ∈ (items.filter (·.function ≠ .count)).filterMap (fun _ =>
        bestNumericField lower question objects) := by
  simp only [List.mem_filterMap, List.mem_map, List.mem_filter]
  constructor
  · rintro ⟨aggregate, ⟨item, hitem, rfl⟩, hgiven⟩
    by_cases hcount : item.function = .count
    · refine .inl ⟨item, hitem, hcount, ?_⟩
      simpa [settled, aggregateField, hcount] using hgiven
    · refine .inr ⟨item, ⟨hitem, by simpa using hcount⟩, ?_⟩
      have hfield : given (bestNumericField lower question objects) = some field := by
        simpa [settled, aggregateField, hcount] using hgiven
      rwa [bestNumericField, given_chosen] at hfield
  · rintro (⟨item, hitem, hcount, hgiven⟩ | ⟨item, ⟨hitem, hcount⟩, hbest⟩)
    · refine ⟨_, ⟨item, hitem, rfl⟩, ?_⟩
      simpa [settled, aggregateField, hcount] using hgiven
    · refine ⟨_, ⟨item, hitem, rfl⟩, ?_⟩
      have hcount : item.function ≠ .count := by simpa using hcount
      have hfield : given (bestNumericField lower question objects) = some field := by
        rw [bestNumericField, given_chosen]
        exact hbest
      simpa [settled, aggregateField, hcount] using hfield

theorem map_field_resolveFilters (items : List FilterSpec) (objects : List DataObjectProfile) :
    (resolveFilters lower items objects).map (·.field) =
      items.filterMap fun item => resolveField lower item.field objects := by
  unfold resolveFilters
  rw [List.map_filterMap]
  congr 1
  funext item
  cases resolveField lower item.field objects with
  | none => rfl
  | some field => rfl

theorem mem_defaults_iff {field : String} : field ∈ (if dimensionsOf lower context l ≠ [] then
      dimensionsOf lower context l
    else if aggregatesOf lower context l ≠ [] then [] else defaultFields l.first.profile) ∨
      field ∈ dimensionsOf lower context l ↔
    field ∈ dimensionsOf lower context l ∨ field ∈ (if dimensionsOf lower context l = [] ∧
      context.intent.aggregates = [] then defaultFields l.first.profile else []) := by
  have hempty : aggregatesOf lower context l = [] ↔ context.intent.aggregates = [] :=
    List.map_eq_nil_iff
  by_cases hdimensions : dimensionsOf lower context l = []
  · by_cases haggregates : context.intent.aggregates = []
    · simp [hdimensions, hempty, haggregates]
    · simp [hdimensions, hempty, haggregates]
  · simp [hdimensions]

/-- **What the validator looks at**: what the planner looked up, and what it took as it was asked for. -/
theorem mem_usedFields_iff (h : Made lower context l p) {field : String} :
    field ∈ QueryPlanValidator.usedFields p ↔ field ∈ takenOf lower context l ∨
      (∃ item ∈ context.intent.aggregates, item.function = .count ∧ given item.field = some field) ∨
      ∃ item ∈ p.sorts, item.field = field ∧ field ∉ QueryPlanValidator.aliases p := by
  have haggregateFields := @mem_aggregateFields_iff lower context.intent.question field
    (l.objects context) context.intent.aggregates
  have hdefaults := @mem_defaults_iff lower context l field
  have hgroup : field ∈ (if aggregatesOf lower context l ≠ [] then dimensionsOf lower context l
      else []) → field ∈ dimensionsOf lower context l := by
    intro hmem
    split at hmem
    · exact hmem
    · exact absurd hmem List.not_mem_nil
  have hsorts : field ∈ (p.sorts.map (·.field)).filter (· ∉ QueryPlanValidator.aliases p) ↔
      ∃ item ∈ p.sorts, item.field = field ∧ field ∉ QueryPlanValidator.aliases p := by
    rw [List.mem_filter, List.mem_map, decide_eq_true_eq]
    constructor
    · rintro ⟨⟨item, hitem, rfl⟩, hnot⟩
      exact ⟨item, hitem, rfl, hnot⟩
    · rintro ⟨item, hitem, rfl, hnot⟩
      exact ⟨⟨item, hitem, rfl⟩, hnot⟩
  unfold QueryPlanValidator.usedFields takenOf
  simp only [List.mem_append, hsorts]
  rw [h.outputFields, h.metrics, h.dimensions, h.groupBy, h.filters, h.aggregates, h.timeField,
    map_field_resolveFilters, given_timeFieldOf]
  have haggregates : field ∈ (aggregatesOf lower context l).filterMap (fun item => given item.field) ↔
      _ := haggregateFields
  rw [haggregates]
  -- The fields of the aggregates stand twice in what is used, the dimensions up to three times.
  have hparts : ∀ O D G F T S X B C : Prop, (O ∨ D ↔ D ∨ X) → (G → D) →
      ((((((((O ∨ (C ∨ B)) ∨ D) ∨ G) ∨ F) ∨ (C ∨ B)) ∨ T) ∨ S) ↔
        ((((D ∨ X) ∨ F) ∨ B) ∨ T) ∨ C ∨ S) := by
    intro O D G F T S X B C hdefault hgrouped
    grind
  exact hparts _ _ _ _ _ _ _ _ _ hdefaults hgroup

/-! ## Validation -/

theorem mem_keys_update_nil {β : Type} {items : List (String × β)} {key : String} :
    key ∈ (Dict.update [] items).keys ↔ key ∈ Dict.keys items := by
  constructor
  · intro h
    by_contra hnot
    have hnone := Dict.get?_update_of_not_mem hnot ([] : Dict β)
    rw [Dict.get?_nil, Dict.get?_eq_none] at hnone
    exact hnone h
  · intro h
    by_contra hnot
    have hnone := Dict.get?_eq_none.mpr hnot
    rw [Dict.get?_update, Dict.get?_nil, Option.or_none, Dict.get?_eq_none] at hnone
    exact hnone (List.mem_map.mpr (by simpa [Dict.keys] using h))

/-- What the validator checks. -/
theorem validate_ok_iff : QueryPlanValidator.validate p context = .ok () ↔
    ∃ source, context.dataSources.filter (·.datasourceId = p.datasourceId) = [source] ∧
      (∀ id ∈ p.dataObjectIds, id ∈ (QueryPlanValidator.objects source).keys) ∧
      (∀ field ∈ QueryPlanValidator.usedFields p,
        field ∈ QueryPlanValidator.allowedFields source p.dataObjectIds) ∧
      (∀ id ∈ p.relationshipIds, id ∈ (QueryPlanValidator.allowedRelationships context).keys) ∧
      ∀ id ∈ p.relationshipIds, ∀ item ∈ (QueryPlanValidator.allowedRelationships context).get? id,
        QueryPlanValidator.Within p item := by
  unfold QueryPlanValidator.validate
  split
  · next source hsource =>
    constructor
    · intro h
      split at h
      · cases h
      · next hobjects =>
        rw [if_neg (fun hne => hne p.time_together)] at h
        split at h
        · cases h
        · next hfields =>
          split at h
          · cases h
          · next hrelationships =>
            split at h
            · cases h
            · next hwithin =>
              exact ⟨source, hsource, not_not.mp hobjects, not_not.mp hfields,
                not_not.mp hrelationships, not_not.mp hwithin⟩
    · rintro ⟨source', hsource', hobjects, hfields, hrelationships, hwithin⟩
      obtain rfl : source = source' := by
        rw [hsource] at hsource'
        exact List.singleton_inj.mp hsource'
      rw [if_neg (not_not.mpr hobjects), if_neg (fun hne => hne p.time_together),
        if_neg (not_not.mpr hfields), if_neg (not_not.mpr hrelationships),
        if_neg (not_not.mpr hwithin)]
  · next hnone =>
    constructor
    · intro h
      cases h
    · rintro ⟨source, hsource, -⟩
      exact absurd hsource (hnone source)

/-- One source has the id of the plan's source exactly when no later one has it. -/
theorem source_once_iff (h : Made lower context l p) {source : RetrievedDataSource} :
    context.dataSources.filter (·.datasourceId = p.datasourceId) = [source] ↔
      source = l.source ∧ ∀ s ∈ context.dataSources.tail, s.datasourceId ≠ l.source.datasourceId := by
  have hhead := h.source
  cases hsources : context.dataSources with
  | nil =>
    rw [hsources] at hhead
    cases hhead
  | cons head tail =>
    rw [hsources] at hhead
    obtain rfl : l.source = head := Option.some.inj hhead
    rw [List.filter_cons, if_pos (by simp [h.datasourceId]), List.tail_cons, List.cons.injEq,
      List.filter_eq_nil_iff]
    constructor
    · rintro ⟨rfl, hnone⟩
      refine ⟨rfl, fun s hs heq => hnone s hs ?_⟩
      simp [h.datasourceId, heq]
    · rintro ⟨rfl, hnone⟩
      refine ⟨rfl, fun s hs heq => hnone s hs ?_⟩
      simpa [h.datasourceId] using heq

/-- The objects of the plan were retrieved. -/
theorem objects_retrieved (h : Made lower context l p) :
    ∀ id ∈ p.dataObjectIds, id ∈ (QueryPlanValidator.objects l.source).keys := by
  intro id hid
  rw [h.dataObjectIds] at hid
  obtain ⟨o, ho, rfl⟩ := List.mem_map.mp hid
  have hretrieved : ∃ item ∈ l.first :: l.rest, item.profile = o := by
    rcases (joining_inv l context).retrieved o ho with rfl | hcandidate
    · exact ⟨l.first, List.mem_cons_self, rfl⟩
    · obtain ⟨-, item, hitem, heq⟩ := candidate_retrieved hcandidate
      exact ⟨item, List.mem_cons_of_mem _ hitem, heq⟩
  obtain ⟨item, hitem, rfl⟩ := hretrieved
  rw [QueryPlanValidator.objects, mem_keys_update_nil, l.source_objects]
  exact List.mem_map.mpr ⟨_, List.mem_map_of_mem hitem, rfl⟩

theorem relationships_known (h : Made lower context l p) :
    ∀ id ∈ p.relationshipIds, id ∈ (QueryPlanValidator.allowedRelationships context).keys := by
  intro id hid
  rw [h.relationshipIds] at hid
  obtain ⟨r, hr, rfl⟩ := List.mem_map.mp hid
  rw [QueryPlanValidator.allowedRelationships, mem_keys_update_nil]
  exact List.mem_map.mpr ⟨_, List.mem_map_of_mem ((joining_inv l context).relations r hr), rfl⟩

theorem within_iff (h : Made lower context l p) :
    (∀ id ∈ p.relationshipIds, ∀ item ∈ (QueryPlanValidator.allowedRelationships context).get? id,
        QueryPlanValidator.Within p item) ↔
      ∀ r ∈ (l.joining context).relationships,
        ∀ item ∈ (QueryPlanValidator.allowedRelationships context).get? r.id,
          item.fromDatasourceId = l.source.datasourceId ∧
          item.toDatasourceId = l.source.datasourceId ∧
          item.fromObjectId ∈ (l.objects context).map (·.id) ∧
          item.toObjectId ∈ (l.objects context).map (·.id) := by
  unfold QueryPlanValidator.Within
  rw [h.relationshipIds, h.datasourceId, h.dataObjectIds]
  exact List.forall_mem_map

/-- A sort of the plan that is no alias is a field or a dimension of it. -/
theorem sorted_field (h : Made lower context l p)
    (hsorts : ∀ item ∈ p.sorts, item.field ∈ sortNames p.aggregates p.dimensions)
    {item : SortSpec} (hitem : item ∈ p.sorts)
    (hnot : item.field ∉ QueryPlanValidator.aliases p) :
    item.field ∈ takenOf lower context l ∨
      ∃ aggregate ∈ context.intent.aggregates, aggregate.function = .count ∧
        given aggregate.field = some item.field := by
  have hname := hsorts item hitem
  unfold sortNames at hname
  rcases List.mem_append.mp hname with hname | hname
  · rcases List.mem_append.mp hname with hname | hname
    · exact absurd hname hnot
    · rw [h.aggregates] at hname
      rcases mem_aggregateFields_iff.mp hname with hcount | hbest
      · exact .inr hcount
      · exact .inl (List.mem_append_left _ (List.mem_append_right _ hbest))
  · rw [h.dimensions] at hname
    exact .inl (List.mem_append_left _ (List.mem_append_left _ (List.mem_append_left _
      (List.mem_append_left _ hname))))

/-- **The validator accepts a plan whose sorts refer to it** exactly when what was looked up and what is
counted is retrieved, in one source. -/
theorem accepted_iff (h : Made lower context l p)
    (hsorts : ∀ item ∈ p.sorts, item.field ∈ sortNames p.aggregates p.dimensions) :
    QueryPlanValidator.validate p context = .ok () ↔
      (∀ s ∈ context.dataSources.tail, s.datasourceId ≠ l.source.datasourceId) ∧
      (∀ item ∈ context.intent.aggregates, item.function = .count →
        ∀ field ∈ given item.field, field ∈ allowedOf context l) ∧
      (∀ field ∈ takenOf lower context l, field ∈ allowedOf context l) ∧
      ∀ r ∈ (l.joining context).relationships,
        ∀ item ∈ (QueryPlanValidator.allowedRelationships context).get? r.id,
          item.fromDatasourceId = l.source.datasourceId ∧
          item.toDatasourceId = l.source.datasourceId ∧
          item.fromObjectId ∈ (l.objects context).map (·.id) ∧
          item.toObjectId ∈ (l.objects context).map (·.id) := by
  rw [validate_ok_iff]
  simp only [source_once_iff h, mem_usedFields_iff h, within_iff h]
  constructor
  · rintro ⟨source, ⟨rfl, honce⟩, -, hfields, -, hwithin⟩
    rw [h.dataObjectIds] at hfields
    refine ⟨honce, fun item hitem hcount field hfield => ?_, fun field hfield => ?_, hwithin⟩
    · exact hfields field (.inr (.inl ⟨item, hitem, hcount, hfield⟩))
    · exact hfields field (.inl hfield)
  · rintro ⟨honce, hcounts, htaken, hwithin⟩
    refine ⟨l.source, ⟨rfl, honce⟩, objects_retrieved h, ?_, relationships_known h, hwithin⟩
    rw [h.dataObjectIds]
    rintro field (hfield | ⟨item, hitem, hcount, hgiven⟩ | ⟨item, hitem, rfl, hnot⟩)
    · exact htaken field hfield
    · exact hcounts item hitem hcount field hgiven
    · rcases sorted_field h hsorts hitem hnot with hfield | ⟨aggregate, haggregate, hcount, hgiven⟩
      · exact htaken _ hfield
      · exact hcounts aggregate haggregate hcount _ hgiven

/-! ## The plan -/

theorem keeps_iff (hl : locate context = .ok l) (h : Made lower context l p) :
    Keeps lower context p ↔ Plannable lower context l := by
  have hobjects : plannedObjects context = l.objects context := by rw [plannedObjects, hl]
  have hfilters : List.Forall₂ (FilterKept lower (plannedObjects context)) context.intent.filters
      p.filters ↔ ∀ item ∈ context.intent.filters,
        ∃ column, matching lower item.field (l.objects context) = [column] := by
    rw [hobjects, h.filters]
    exact filters_kept_iff _ _
  have hsorts : (∀ item ∈ p.sorts, item.field ∈ sortNames p.aggregates p.dimensions) ↔
      (given (sortTarget (aggregatesOf lower context l) (dimensionsOf lower context l)) = none →
        ∀ item ∈ context.intent.sorts,
          item.field ∈ sortNames (aggregatesOf lower context l) (dimensionsOf lower context l)) := by
    rw [h.sorts, h.aggregates, h.dimensions]
    exact sorts_kept_iff _ _ _
  constructor
  · intro hkeeps
    obtain ⟨honce, hcounts, htaken, hwithin⟩ := (accepted_iff h hkeeps.sorts).mp hkeeps.accepted
    exact {
      source := honce
      filters := hfilters.mp hkeeps.filters
      counts := hcounts
      sorts := hsorts.mp hkeeps.sorts
      fields := htaken
      relationships := hwithin }
  · intro hplannable
    have hsorted := hsorts.mpr hplannable.sorts
    exact {
      filters := hfilters.mpr hplannable.filters
      joined := plan_joined h
      aggregates := by
        rw [h.aggregates]
        exact aggregates_kept _ _ _
      sorts := hsorted
      accepted := (accepted_iff h hsorted).mpr
        ⟨hplannable.source, hplannable.counts, hplannable.fields, hplannable.relationships⟩ }

/-- **Planning raises a planning error, or the plan keeps the intent exactly when the intent can be
planned without loss.** -/
theorem plan_keeps_iff (lower : String → String) (context : QueryContext)
    (maxRows : { n : Nat // 1 ≤ n }) (planId : String) :
    match plan lower context maxRows planId with
    | .error e => ∃ message, e = .planning message
    | .ok p => Keeps lower context p ↔ ∀ l, locate context = .ok l → Plannable lower context l := by
  cases hplan : plan lower context maxRows planId with
  | error e => exact plan_raises hplan
  | ok p =>
    obtain ⟨l, hl, hmade⟩ := plan_made hplan
    show Keeps lower context p ↔ _
    rw [keeps_iff hl hmade]
    constructor
    · intro hplannable l' hl'
      rw [hl] at hl'
      obtain rfl := Except.ok.inj hl'
      exact hplannable
    · exact fun hall => hall l hl

/-! ## Objects that are retrieved once -/

theorem mem_columns {objects : List DataObjectProfile} {column : Column} :
    column ∈ columns objects ↔ column.1 ∈ objects ∧ column.2 ∈ column.1.fields := by
  unfold columns
  rw [List.mem_flatMap]
  constructor
  · rintro ⟨o, ho, hcolumn⟩
    obtain ⟨field, hfield, rfl⟩ := List.mem_map.mp hcolumn
    exact ⟨ho, hfield⟩
  · rintro ⟨ho, hfield⟩
    exact ⟨column.1, ho, List.mem_map.mpr ⟨column.2, hfield, rfl⟩⟩

theorem chosen_mem {question field : String} {fields : List Column}
    (h : chosen lower question fields = some field) : ∃ column ∈ fields, reference column = field := by
  unfold chosen at h
  simp only at h
  obtain ⟨column, hcolumn, rfl⟩ := Option.map_eq_some_iff.mp h
  refine ⟨column, ?_, rfl⟩
  split at hcolumn
  · exact List.mem_of_mem_head? hcolumn
  · exact List.mem_of_mem_filter (List.mem_of_mem_head? hcolumn)

theorem mem_set {β : Type} {d : Dict β} {key : String} {value : β} {item : String × β}
    (h : item ∈ d.set key value) : item = (key, value) ∨ item ∈ d := by
  induction d with
  | nil => exact .inl (List.mem_singleton.mp h)
  | cons other d ih =>
    obtain ⟨k, v⟩ := other
    rw [Dict.set] at h
    split at h
    · next hk =>
      rcases List.mem_cons.mp h with rfl | h
      · exact .inl (by rw [hk])
      · exact .inr (List.mem_cons_of_mem _ h)
    · rcases List.mem_cons.mp h with rfl | h
      · exact .inr List.mem_cons_self
      · exact (ih h).imp id (List.mem_cons_of_mem _)

theorem dimension_mem {question field : String} {objects : List DataObjectProfile}
    (h : field ∈ matchedDimensions lower question objects) :
    ∃ column ∈ columns objects, reference column = field := by
  unfold matchedDimensions at h
  simp only at h
  obtain ⟨item, hitem, rfl⟩ := List.mem_map.mp (List.mem_of_mem_take h)
  refine ⟨item.2, ?_, rfl⟩
  refine List.foldlRecOn (motive := fun chosen : Dict Column => ∀ e ∈ chosen, e.2 ∈ columns objects) _ _
    (fun e he => absurd he List.not_mem_nil) (fun chosen hchosen column hcolumn => ?_) item hitem
  have hset : ∀ e ∈ chosen.set (lower column.2.path) column, e.2 ∈ columns objects := by
    intro e he
    rcases mem_set he with rfl | he
    · exact List.mem_of_mem_filter hcolumn
    · exact hchosen e he
  split
  · exact hset
  · split
    · exact hset
    · exact hchosen

/-- Everything the planner looks up is a field of a planned object. -/
theorem taken_mem {field : String} (h : field ∈ takenOf lower context l) :
    ∃ column ∈ columns (l.objects context), reference column = field := by
  have hbest : ∀ {f : Column → Bool} {field : String},
      chosen lower context.intent.question ((columns (l.objects context)).filter f) = some field →
      ∃ column ∈ columns (l.objects context), reference column = field := by
    intro f field hchosen
    obtain ⟨column, hcolumn, heq⟩ := chosen_mem hchosen
    exact ⟨column, List.mem_of_mem_filter hcolumn, heq⟩
  unfold takenOf at h
  simp only [List.mem_append] at h
  rcases h with (((hdimension | hdefault) | hfilter) | haggregate) | htime
  · exact dimension_mem hdimension
  · split at hdefault
    · obtain ⟨f, hf, rfl⟩ := List.mem_map.mp hdefault
      exact ⟨(l.first.profile, f),
        mem_columns.mpr ⟨(joining_inv l context).first_mem, List.mem_of_mem_take hf⟩, rfl⟩
    · exact absurd hdefault List.not_mem_nil
  · obtain ⟨item, -, hresolved⟩ := List.mem_filterMap.mp hfilter
    obtain ⟨column, hcolumn, rfl⟩ := matching_of_resolveField hresolved
    have hmem : column ∈ matching lower item.field (l.objects context) := by
      rw [hcolumn]
      exact List.mem_cons_self
    exact ⟨column, List.mem_of_mem_filter hmem, rfl⟩
  · obtain ⟨item, -, hfield⟩ := List.mem_filterMap.mp haggregate
    exact hbest hfield
  · have htime := Option.mem_toList.mp htime
    unfold timeFieldOf at htime
    split at htime
    · exact hbest htime
    · cases htime

/-- **Where the first object is retrieved once, every field that is looked up is allowed.** -/
theorem taken_allowed (hfirst : ∀ item ∈ l.rest, item.profile.id ≠ l.first.profile.id) :
    ∀ field ∈ takenOf lower context l, field ∈ allowedOf context l := by
  intro field hfield
  obtain ⟨column, hcolumn, rfl⟩ := taken_mem hfield
  obtain ⟨ho, hf⟩ := mem_columns.mp hcolumn
  have hget : (QueryPlanValidator.objects l.source).get? column.1.id = some column.1 := by
    have hobjects : QueryPlanValidator.objects l.source =
        Dict.update [(l.first.profile.id, l.first.profile)]
          (l.rest.map fun item => (item.profile.id, item.profile)) := by
      rw [QueryPlanValidator.objects, l.source_objects]
      rfl
    rw [hobjects]
    rcases (joining_inv l context).retrieved column.1 ho with heq | hcandidate
    · have hnot : column.1.id ∉ Dict.keys (l.rest.map fun item => (item.profile.id, item.profile)) := by
        intro hmem
        obtain ⟨e, he, hid⟩ := List.mem_map.mp hmem
        obtain ⟨item, hitem, rfl⟩ := List.mem_map.mp he
        rw [heq] at hid
        exact hfirst item hitem hid
      rw [Dict.get?_update_of_not_mem hnot, Dict.get?_cons, if_pos (by rw [heq]), heq]
    · have hkey : column.1.id ∈ Dict.keys (l.rest.map fun item => (item.profile.id, item.profile)) := by
        obtain ⟨hid, item, hitem, heq⟩ := candidate_retrieved hcandidate
        exact List.mem_map.mpr ⟨_, List.mem_map_of_mem hitem, by rw [heq]⟩
      rw [Dict.get?_update_of_mem hkey _ []]
      exact hcandidate
  unfold allowedOf QueryPlanValidator.allowedFields
  refine List.mem_flatMap.mpr ⟨column.1.id, List.mem_map_of_mem ho, ?_⟩
  rw [hget]
  exact List.mem_map.mpr ⟨column.2, hf, rfl⟩

/-! ## A filter on a field that was not retrieved -/

def asciiLower (text : String) : String := String.ofList (text.toList.map Char.toLower)

/-- Orders with an amount; the question asks for those that are paid. -/
def paidContext : QueryContext where
  workspaceId := "w1"
  intent := {
    question := "paid orders"
    filters := [⟨"status", .equals, .str "paid"⟩]
    limit_range := by decide }
  dataSources := [{
    datasourceId := "d1"
    kind := .relational
    driver := "sqlite"
    dataObjects := [⟨{ id := "orders", name := "orders", fields := [⟨"amount", "amount", "integer"⟩] },
      []⟩]
    dataObjects_length := by decide }]
  dataSources_length := by decide
  fieldBudget := by decide

/-- The plan has no filter left. -/
theorem paid_filter_dropped :
    ∃ p, plan asciiLower paidContext ⟨200, by decide⟩ "plan_1" = .ok p ∧ p.filters = [] ∧
      ¬ Keeps asciiLower paidContext p := by
  have hnone : matching asciiLower "status" (plannedObjects paidContext) = [] := by decide
  cases hplan : plan asciiLower paidContext ⟨200, by decide⟩ "plan_1" with
  | error e =>
    have hok : (plan asciiLower paidContext ⟨200, by decide⟩ "plan_1").toOption.isSome := by decide
    rw [hplan] at hok
    cases hok
  | ok p =>
    obtain ⟨l, hl, hmade⟩ := plan_made hplan
    have hobjects : plannedObjects paidContext = l.objects paidContext := by rw [plannedObjects, hl]
    refine ⟨p, rfl, ?_, fun hkeeps => ?_⟩
    · rw [hmade.filters, ← hobjects]
      show (resolveFilters asciiLower [⟨"status", .equals, .str "paid"⟩] _) = []
      rw [resolveFilters, List.filterMap_cons, resolveField, hnone]
      rfl
    · obtain ⟨filter, -, hkept⟩ := exists_of_forall₂ hkeeps.filters List.mem_cons_self
      obtain ⟨column, hcolumn, -⟩ := hkept.field
      rw [hnone] at hcolumn
      cases hcolumn

end RuleBasedQueryPlanner

end Querying
