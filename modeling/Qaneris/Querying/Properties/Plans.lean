import Mathlib.Data.Sym.Sym2
import Qaneris.Infra.Except
import Qaneris.Querying.Plans
import Qaneris.Querying.Sql

/-!
# What the plan validator accepts

* `joins_confirmed_iff` — which accepted plans join on the confirmed keys
* `governed_iff` — for which contexts every accepted plan aggregates by a governed rule
-/

namespace Querying

open Contracts
open Infra (bind_ok check_bind_ok forM_ok)

namespace GroundedPlanValidator

variable {t : Texts} {plan : GroundedQueryPlan} {context : GroundedQueryContext}

/-! ## Checks -/

@[simp]
theorem require_ok {condition : Bool} {message : String} :
    require condition message = .ok () ↔ condition = true := by
  cases condition <;> simp [require]

/-- An accepted plan has passed each of the checks. -/
structure Accepted (t : Texts) (plan : GroundedQueryPlan) (context : GroundedQueryContext) : Prop where
  scope : requireScope plan context = .ok ()
  objects : requireObjects t plan context = .ok ()
  locators : requireLocatorSubset t plan context = .ok ()
  fields : requireFields plan context = .ok ()
  ordering : requireOrdering plan = .ok ()
  joins : requireJoins plan context = .ok ()
  unique : requireUnique plan = .ok ()
  aggregation : requireAggregationSemantics plan context = .ok ()
  revision : requireRevision plan context = .ok ()

/-- The model of a plan has no forbidden field. -/
theorem requireNoWriteIntent_ok : requireNoWriteIntent t = .ok () := by
  rw [requireNoWriteIntent, require_ok]
  decide

theorem validate_ok : validate t plan context = .ok () ↔ Accepted t plan context := by
  unfold validate
  simp only [check_bind_ok]
  constructor
  · rintro ⟨-, hscope, hobjects, hlocators, hfields, hordering, hjoins, hunique, haggregation, hrevision⟩
    exact ⟨hscope, hobjects, hlocators, hfields, hordering, hjoins, hunique, haggregation, hrevision⟩
  · intro h
    exact ⟨requireNoWriteIntent_ok, h.scope, h.objects, h.locators, h.fields, h.ordering, h.joins,
      h.unique, h.aggregation, h.revision⟩

/-! ## Joins -/

/-- The two fields that a join equates, each with its object. -/
def joinKeys (join : PlanJoin) : Sym2 (String × String) :=
  s((join.fromDataObjectId, join.fromFieldPath), (join.toDataObjectId, join.toFieldPath))

/-- The two fields that a relationship confirms. -/
def relationshipKeys (relationship : QueryContextRelationship) : Sym2 (String × String) :=
  s((relationship.fromDataObjectId, relationship.fromFieldPath),
    (relationship.toDataObjectId, relationship.toFieldPath))

/-- What the check of a join has made sure of. -/
structure JoinAccepted (plan : GroundedQueryPlan) (context : GroundedQueryContext) (join : PlanJoin)
    (relationship : QueryContextRelationship) : Prop where
  confirmed : confirmed context join.relationshipId = some relationship
  distinct : join.fromDataObjectId ≠ join.toDataObjectId
  ends : (join.fromDataObjectId = relationship.fromDataObjectId ∧
      join.toDataObjectId = relationship.toDataObjectId) ∨
    (join.fromDataObjectId = relationship.toDataObjectId ∧
      join.toDataObjectId = relationship.fromDataObjectId)
  fromField : join.fromFieldPath = relationship.fromFieldPath
  toField : join.toFieldPath = relationship.toFieldPath
  fromMem : join.fromDataObjectId ∈ plan.dataObjectIds
  toMem : join.toDataObjectId ∈ plan.dataObjectIds

theorem Accepted.join (h : Accepted t plan context) {join : PlanJoin} (hj : join ∈ plan.joins) :
    ∃ relationship, JoinAccepted plan context join relationship := by
  have hjoin := forM_ok.mp h.joins join hj
  unfold requireJoin at hjoin
  rw [check_bind_ok] at hjoin
  obtain ⟨-, hjoin⟩ := hjoin
  split at hjoin
  · cases hjoin
  · next relationship hconfirmed =>
    simp only [check_bind_ok, require_ok, Bool.and_eq_true, decide_eq_true_eq] at hjoin
    obtain ⟨-, hdistinct, hends, hfields, hmem⟩ := hjoin
    refine ⟨relationship, hconfirmed, hdistinct, ?_, hfields.1, hfields.2, hmem.1, hmem.2⟩
    simpa [samePair] using hends

/-- The endpoints are compared as a set and the fields as a pair, so a join that lists the endpoints the
other way round exchanges the fields. -/
theorem JoinAccepted.keys_iff {join : PlanJoin} {relationship : QueryContextRelationship}
    (h : JoinAccepted plan context join relationship) :
    joinKeys join = relationshipKeys relationship ↔
      join.fromDataObjectId = relationship.fromDataObjectId ∨
        relationship.fromFieldPath = relationship.toFieldPath := by
  have hdistinct := h.distinct
  rw [joinKeys, relationshipKeys, h.fromField, h.toField, Sym2.eq_iff]
  simp only [Prod.mk.injEq]
  constructor
  · rintro (⟨⟨hfrom, -⟩, -⟩ | ⟨⟨-, hfield⟩, -⟩)
    · exact Or.inl hfrom
    · exact Or.inr hfield
  · rintro (hfrom | hfield)
    · rcases h.ends with ⟨-, hto⟩ | ⟨hfrom', hto⟩
      · exact Or.inl ⟨⟨hfrom, trivial⟩, hto, trivial⟩
      · exact absurd (hfrom.trans hto.symm) hdistinct
    · rcases h.ends with ⟨hfrom, hto⟩ | ⟨hfrom, hto⟩
      · exact Or.inl ⟨⟨hfrom, trivial⟩, hto, trivial⟩
      · exact Or.inr ⟨⟨hfrom, hfield⟩, hto, hfield.symm⟩

/-- The `ON` clause equates what the join equates, whichever side is the base. -/
theorem sides_keys {base joined leftField rightField : String} {join : PlanJoin}
    (h : SQLCompiler.sides base join = .ok (joined, leftField, rightField)) :
    s((base, leftField), (joined, rightField)) = joinKeys join := by
  unfold SQLCompiler.sides at h
  split at h
  · next hbase =>
    cases h
    rw [joinKeys, hbase]
  · split at h
    · next hbase =>
      cases h
      rw [joinKeys, hbase]
      exact Sym2.eq_swap
    · cases h

/-- The join, and every `ON` clause that is compiled from it, equates the keys of the relationship that
it names. -/
def JoinConfirmed (context : GroundedQueryContext) (join : PlanJoin) : Prop :=
  ∃ relationship, confirmed context join.relationshipId = some relationship ∧
    joinKeys join = relationshipKeys relationship ∧
    ∀ base joined leftField rightField,
      SQLCompiler.sides base join = .ok (joined, leftField, rightField) →
        s((base, leftField), (joined, rightField)) = relationshipKeys relationship

/-- **The joins of an accepted plan are on the confirmed keys if and only if each of them lists the
endpoints in the order of its relationship, or the two fields have one path.** -/
theorem joins_confirmed_iff (h : validate t plan context = .ok ()) :
    (∀ join ∈ plan.joins, JoinConfirmed context join) ↔
      ∀ join ∈ plan.joins, ∀ relationship, confirmed context join.relationshipId = some relationship →
        join.fromDataObjectId = relationship.fromDataObjectId ∨
          relationship.fromFieldPath = relationship.toFieldPath := by
  have haccepted := validate_ok.mp h
  refine forall₂_congr fun join hj => ?_
  obtain ⟨relationship, hrelationship⟩ := haccepted.join hj
  constructor
  · rintro ⟨relationship', hconfirmed, hkeys, -⟩ relationship'' hconfirmed'
    obtain rfl : relationship' = relationship'' := by
      rw [hconfirmed] at hconfirmed'
      exact Option.some.inj hconfirmed'
    obtain rfl : relationship' = relationship := by
      rw [hrelationship.confirmed] at hconfirmed
      exact (Option.some.inj hconfirmed).symm
    exact hrelationship.keys_iff.mp hkeys
  · intro hcondition
    have hkeys := hrelationship.keys_iff.mpr (hcondition relationship hrelationship.confirmed)
    refine ⟨relationship, hrelationship.confirmed, hkeys, fun base joined leftField rightField hsides => ?_⟩
    rw [sides_keys hsides, hkeys]

section Sample

def sampleTexts : Texts where
  list items := "[" ++ ", ".intercalate items ++ "]"
  locator reference := reference.dataObjectId

def sampleQuery : BusinessQuery where
  question := "各客户的销售额"
  objective := .lookup
  question_length := by decide
  ranking_required := Contracts.lookup_ranking
  comparison_required := Contracts.lookup_comparison

def sampleRef (object path : String) (ho : 1 ≤ object.length) (hp : 1 ≤ path.length) : GroundedFieldRef where
  datasourceId := "ds_1"
  dataObjectId := object
  fieldPath := path
  datasourceId_length := by decide
  dataObjectId_length := ho
  fieldPath_length := hp

def amountRef : GroundedFieldRef := sampleRef "orders" "amount" Contracts.length_orders Contracts.length_amount

theorem named_length {id : String} (h : 1 ≤ id.length) : ∀ n ∈ some id, 1 ≤ n.length := by
  rintro n hn
  cases hn
  exact h

def sampleObject (id : String) (hid : 1 ≤ id.length) : GroundedDataObjectRef where
  datasourceId := "ds_1"
  dataObjectId := id
  name := some id
  datasourceId_length := by decide
  dataObjectId_length := hid
  name_length := named_length hid

def sampleObjects : List (String × GroundedDataObjectRef) :=
  [("orders", sampleObject "orders" Contracts.length_orders), ("customers", sampleObject "customers" Contracts.length_customers)]

def metricBinding : QueryContextBinding where
  businessTerm := "销售额"
  assetType := .metric
  assetId := "metric_sales"
  datasourceId := "ds_1"
  dataObjectId := some "orders"
  fieldPath := some "amount"
  score := 1
  defaultAggregation := some .sum

/-- Orders refer to the customer who placed them. -/
def sampleRelationship : QueryContextRelationship where
  relationshipId := "rel_1"
  datasourceId := "ds_1"
  fromDataObjectId := "orders"
  fromFieldPath := "customer_id"
  toDataObjectId := "customers"
  toFieldPath := "id"

def sampleContext (bindings : List QueryContextBinding) : GroundedQueryContext where
  workspaceId := "default"
  objective := .lookup
  businessQuery := sampleQuery
  bindings := bindings
  relationships := [sampleRelationship]
  dataObjects := sampleObjects
  allowedDatasourceIds := ["ds_1"]
  allowedDataObjectIds := ["customers", "orders"]
  allowedFieldPaths := ["amount"]
  allowedRelationshipIds := ["rel_1"]

/-- A join on the relationship whose endpoints are listed as given. -/
def sampleJoin (fromId toId : String) : PlanJoin where
  datasourceId := "ds_1"
  relationshipId := "rel_1"
  fromDataObjectId := fromId
  fromFieldPath := "customer_id"
  toDataObjectId := toId
  toFieldPath := "id"
  fromFieldPath_length := Contracts.length_customerId
  toFieldPath_length := Contracts.length_id

/-- The amounts of all orders with a customer. -/
def joinedPlan (join : PlanJoin) : GroundedQueryPlan where
  planId := "plan_1"
  workspaceId := "default"
  datasourceId := "ds_1"
  dataObjectIds := ["customers", "orders"]
  dataObjects := sampleObjects
  aggregates := [⟨.sum, some amountRef, "sum_amount", by decide, by decide⟩]
  joins := [join]
  expectedResultType := .scalar
  planId_length := by decide
  dataObjectIds_length := by decide
  limit_range := Contracts.defaultLimit_range
  time_together := Contracts.TimeRange.none_together
  output := Or.inl (by simp)
  dataObjectIds_unique := by decide
  join_required := fun _ => by simp
  groupBy_selected := by simp
  dataObjects_keys := by
    intro entry he
    simp only [sampleObjects, List.mem_cons, List.not_mem_nil, or_false] at he
    rcases he with rfl | rfl <;> exact ⟨rfl, rfl⟩

theorem joins_confirmed_sample :
    validate sampleTexts (joinedPlan (sampleJoin "orders" "customers"))
        (sampleContext [metricBinding]) = .ok () ∧
      ∀ join ∈ (joinedPlan (sampleJoin "orders" "customers")).joins,
        JoinConfirmed (sampleContext [metricBinding]) join := by
  have haccepted : validate sampleTexts (joinedPlan (sampleJoin "orders" "customers"))
      (sampleContext [metricBinding]) = .ok () := by decide
  refine ⟨haccepted, (joins_confirmed_iff haccepted).mpr ?_⟩
  intro join hj relationship hr
  obtain rfl := List.mem_singleton.mp hj
  obtain rfl : sampleRelationship = relationship := Option.some.inj hr
  exact Or.inl rfl

/-- The endpoints the other way round: the plan is accepted, and its `ON` clause compares the customer of
a customer with the identifier of an order. -/
theorem swapped_join_accepted :
    (sampleContext [metricBinding]).validate = .ok (sampleContext [metricBinding]) ∧
      validate sampleTexts (joinedPlan (sampleJoin "customers" "orders")) (sampleContext [metricBinding]) =
        .ok () ∧
      SQLCompiler.sides "customers" (sampleJoin "customers" "orders") = .ok ("orders", "customer_id", "id") ∧
      ¬∀ join ∈ (joinedPlan (sampleJoin "customers" "orders")).joins,
        JoinConfirmed (sampleContext [metricBinding]) join := by
  refine ⟨by decide, by decide, by decide, fun h => ?_⟩
  obtain ⟨relationship, hr, hkeys, -⟩ := h _ (List.mem_singleton.mpr rfl)
  obtain rfl : sampleRelationship = relationship := Option.some.inj hr
  exact absurd hkeys (by decide)

end Sample

/-! ## Aggregation -/

/-- The binding has the field with this identity. -/
def BoundTo (binding : QueryContextBinding) (identity : String × String × String) : Prop :=
  ∃ ref, binding.fieldRef = .ok (some ref) ∧ ref.identity = identity

/-- A metric of the context is bound to the field. -/
def MetricBound (context : GroundedQueryContext) (identity : String × String × String) : Prop :=
  ∃ binding ∈ context.bindings, binding.assetType = .metric ∧ BoundTo binding identity

/-- The function is that of a derivation of a metric on the field, or the default of such a metric. -/
def Governs (context : GroundedQueryContext) (identity : String × String × String)
    (function : AggregateFunction) : Prop :=
  ∃ binding ∈ context.bindings, binding.assetType = .metric ∧ BoundTo binding identity ∧
    ((∃ d ∈ context.derivations, d.metric = some binding.businessTerm ∧
        aggregateFunctionFor d.operation = some function) ∨
      binding.defaultAggregation = some function)

/-- Every aggregate on a field with a metric uses a function that a rule of the field names. -/
def Governed (plan : GroundedQueryPlan) (context : GroundedQueryContext) : Prop :=
  ∀ aggregate ∈ plan.aggregates, ∀ ref, aggregate.field = some ref →
    MetricBound context ref.identity → Governs context ref.identity aggregate.function

/-- The last binding of the field is a metric that no derivation overrides. -/
def Checked (context : GroundedQueryContext) (identity : String × String × String) : Prop :=
  ∃ bound binding, boundFields context = .ok bound ∧ lastBound bound identity = some binding ∧
    binding.assetType = .metric ∧ overrideOf context binding.businessTerm = none

/-- What a plan over the context needs to aggregate the field. -/
structure Aggregable (context : GroundedQueryContext) (ref : GroundedFieldRef) : Prop where
  bound : ∃ bound binding, boundFields context = .ok bound ∧
    lastBound bound ref.identity = some binding ∧ (ref.fieldId = none ∨ ref.fieldId = binding.fieldId)
  allowed : ref.dataObjectId ∈ context.allowedDataObjectIds
  located : ∃ datasourceId locator, context.allowedDatasourceIds = [datasourceId] ∧
    (truthy context.requestedDatasourceId = true → context.requestedDatasourceId = some datasourceId) ∧
    context.dataObjects.lookup ref.dataObjectId = some locator ∧
    locator.dataObjectId = ref.dataObjectId ∧ locator.datasourceId = datasourceId

theorem beyond_nil {found known : List String} : beyond found known = [] ↔ ∀ id ∈ found, id ∈ known := by
  have hnil : ∀ ids : List String, Semantic.sortedSet ids = [] ↔ ids = [] := by
    intro ids
    rw [Semantic.sortedSet, ← List.length_eq_zero_iff, List.length_insertionSort, List.length_eq_zero_iff,
      List.dedup_eq_nil]
  rw [beyond, hnil, List.filter_eq_nil_iff]
  simp

theorem lastBound_mem {bound : List (GroundedFieldRef × QueryContextBinding)}
    {identity : String × String × String} {binding : QueryContextBinding}
    (h : lastBound bound identity = some binding) : ∃ ref, (ref, binding) ∈ bound ∧ ref.identity = identity := by
  obtain ⟨⟨ref, binding'⟩, hfind, rfl⟩ := Option.map_eq_some_iff.mp h
  have hidentity := List.find?_some hfind
  exact ⟨ref, List.mem_reverse.mp (List.mem_of_find?_eq_some hfind), of_decide_eq_true hidentity⟩

theorem boundFields_mem {bound : List (GroundedFieldRef × QueryContextBinding)}
    (h : boundFields context = .ok bound) {ref : GroundedFieldRef} {binding : QueryContextBinding}
    (hmem : (ref, binding) ∈ bound) :
    binding ∈ context.bindings ∧ binding.fieldRef = .ok (some ref) := by
  unfold boundFields at h
  split at h
  · next entries hentries =>
    cases h
    obtain ⟨entry, hentry, hsome⟩ := List.mem_filterMap.mp hmem
    cases hsome
    have hall := Infra.forall₂_of_mapM hentries
    obtain ⟨binding', hb, hmap⟩ := Infra.exists_of_forall₂ hall.flip hentry
    obtain ⟨ref', href, hpair⟩ := Infra.map_ok hmap
    obtain ⟨ref'', rfl, hpair⟩ := Option.map_eq_some_iff.mp hpair
    cases hpair
    exact ⟨hb, href⟩
  · cases h

/-- The references of a plan that was accepted can be aggregated. -/
theorem Accepted.aggregable (h : Accepted t plan context) {aggregate : PlanAggregate}
    (ha : aggregate ∈ plan.aggregates) {ref : GroundedFieldRef} (href : aggregate.field = some ref) :
    Aggregable context ref := by
  obtain ⟨bound, hbound, hfields⟩ := bind_ok h.fields
  have hused : (ref, "聚合字段") ∈ planFieldRefs plan := by
    have hmem : ref ∈ plan.aggregates.filterMap (·.field) := List.mem_filterMap.mpr ⟨aggregate, ha, href⟩
    simp only [planFieldRefs, List.mem_append]
    exact .inl (.inl (.inr (List.mem_map_of_mem hmem)))
  have hfield := forM_ok.mp hfields _ hused
  unfold requireField at hfield
  split at hfield
  · cases hfield
  next binding hlast =>
  rw [check_bind_ok, require_ok, require_ok, decide_eq_true_eq] at hfield
  obtain ⟨hobject, hid⟩ := hfield
  have hobjects := h.objects
  rw [requireObjects] at hobjects
  rw [check_bind_ok, require_ok, decide_eq_true_eq, beyond_nil] at hobjects
  have hlocators := h.locators
  rw [requireLocatorSubset] at hlocators
  dsimp only at hlocators
  simp only [check_bind_ok, require_ok, decide_eq_true_eq, beyond_nil] at hlocators
  obtain ⟨-, hlocated, -, hgrounded⟩ := hlocators
  have hscope := h.scope
  rw [requireScope] at hscope
  simp only [check_bind_ok, require_ok, decide_eq_true_eq] at hscope
  obtain ⟨hone, hdatasource, hrequested, -⟩ := hscope
  refine ⟨⟨bound, binding, hbound, hlast, by simpa using hid⟩, hobjects.1 _ hobject, ?_⟩
  obtain ⟨entry, hentry, hkey⟩ := List.mem_map.mp (hlocated _ hobject)
  have hreference := forM_ok.mp hgrounded entry hentry
  unfold requireLocator at hreference
  split at hreference
  · cases hreference
  next locator hlookup =>
  rw [require_ok, decide_eq_true_eq] at hreference
  obtain ⟨hdataObject, hdatasource'⟩ := plan.dataObjects_keys entry hentry
  obtain ⟨datasourceId, hids⟩ := List.length_eq_one_iff.mp hone
  rw [hids, List.head?_cons, Option.some.injEq] at hdatasource
  refine ⟨datasourceId, locator, hids, fun htrue => ?_, hkey ▸ hlookup, ?_, ?_⟩
  · rw [htrue] at hrequested
    rw [← hdatasource]
    exact (by simpa using hrequested : some plan.datasourceId = context.requestedDatasourceId).symm
  · rw [hreference, hdataObject, hkey]
  · rw [hreference, hdatasource', hdatasource]

/-- Where the check applies, the function is the default of a metric on the field. -/
theorem Accepted.governs (h : Accepted t plan context) {aggregate : PlanAggregate}
    (ha : aggregate ∈ plan.aggregates) {ref : GroundedFieldRef} (href : aggregate.field = some ref)
    (hchecked : Checked context ref.identity) : Governs context ref.identity aggregate.function := by
  obtain ⟨bound, binding, hbound, hlast, hmetric, hoverride⟩ := hchecked
  obtain ⟨bound', hbound', hall⟩ := bind_ok h.aggregation
  obtain rfl : bound = bound' := by
    rw [hbound] at hbound'
    exact Except.ok.inj hbound'
  have hone := forM_ok.mp hall aggregate ha
  rw [requireGoverned, href, Option.bind_some, hlast] at hone
  dsimp only at hone
  rw [if_neg (not_not.mpr hmetric), hoverride, if_neg (by decide)] at hone
  split at hone
  · cases hone
  next function hdefault =>
  rw [require_ok, decide_eq_true_eq] at hone
  obtain ⟨ref', hmem, hidentity⟩ := lastBound_mem hlast
  obtain ⟨hbinding, href'⟩ := boundFields_mem hbound hmem
  exact ⟨binding, hbinding, hmetric, ⟨ref', href', hidentity⟩, Or.inr (hone ▸ hdefault)⟩

/-- A plan that computes one aggregate of one object and nothing else. -/
def onlyAggregate (context : GroundedQueryContext) (function : AggregateFunction) (ref : GroundedFieldRef)
    (datasourceId : String) (locator : GroundedDataObjectRef)
    (hobject : locator.dataObjectId = ref.dataObjectId) (hdatasource : locator.datasourceId = datasourceId) :
    GroundedQueryPlan where
  planId := "plan_1"
  workspaceId := context.workspaceId
  datasourceId := datasourceId
  dataObjectIds := [ref.dataObjectId]
  dataObjects := [(ref.dataObjectId, locator)]
  scanVersion := context.scanVersion
  aggregates := [⟨function, some ref, "value", Contracts.length_value, fun _ => rfl⟩]
  expectedResultType := .scalar
  planId_length := by decide
  dataObjectIds_length := by simp
  limit_range := Contracts.defaultLimit_range
  time_together := Contracts.TimeRange.none_together
  output := Or.inl (by simp)
  dataObjectIds_unique := by simp
  join_required := by simp
  groupBy_selected := by simp
  dataObjects_keys := by
    intro entry he
    obtain rfl := List.mem_singleton.mp he
    exact ⟨hobject, hdatasource⟩

/-- Outside the check any function is accepted. -/
theorem onlyAggregate_accepted {ref : GroundedFieldRef} {datasourceId : String}
    {locator : GroundedDataObjectRef} {binding : QueryContextBinding}
    {bound : List (GroundedFieldRef × QueryContextBinding)} (hbound : boundFields context = .ok bound)
    (hlast : lastBound bound ref.identity = some binding)
    (hid : ref.fieldId = none ∨ ref.fieldId = binding.fieldId)
    (hallowed : ref.dataObjectId ∈ context.allowedDataObjectIds)
    (hids : context.allowedDatasourceIds = [datasourceId])
    (hrequested : truthy context.requestedDatasourceId = true →
      context.requestedDatasourceId = some datasourceId)
    (hlookup : context.dataObjects.lookup ref.dataObjectId = some locator)
    (hobject : locator.dataObjectId = ref.dataObjectId) (hdatasource : locator.datasourceId = datasourceId)
    (hunchecked : ¬Checked context ref.identity) (function : AggregateFunction) :
    Accepted t (onlyAggregate context function ref datasourceId locator hobject hdatasource) context where
  scope := by
    simp only [requireScope, check_bind_ok, require_ok, decide_eq_true_eq, hids, Bool.or_eq_true,
      Bool.not_eq_true', onlyAggregate, List.length_singleton, List.head?_cons, and_true, true_and]
    by_cases htrue : truthy context.requestedDatasourceId = true
    · exact Or.inr (decide_eq_true (hrequested htrue).symm)
    · exact Or.inl (Bool.eq_false_iff.mpr htrue)
  objects := by
    simp only [requireObjects, check_bind_ok, require_ok, decide_eq_true_eq, beyond_nil, onlyAggregate,
      List.mem_singleton, forall_eq]
    exact ⟨hallowed, rfl⟩
  locators := by
    simp only [requireLocatorSubset, check_bind_ok, require_ok, decide_eq_true_eq, beyond_nil, forM_ok,
      List.map_eq_nil_iff, List.filter_eq_nil_iff]
    refine ⟨fun id hmem => hmem, fun id hmem => hmem, fun entry hentry => ?_, fun entry hentry => ?_⟩
    · obtain rfl := List.mem_singleton.mp hentry
      simp [hobject]
    · obtain rfl := List.mem_singleton.mp hentry
      simp only [requireLocator, hlookup, require_ok, decide_eq_true_eq]
  fields := by
    rw [requireFields, hbound]
    show (planFieldRefs (onlyAggregate context function ref datasourceId locator hobject hdatasource)).forM
      (requireField (onlyAggregate context function ref datasourceId locator hobject hdatasource) bound) =
        .ok ()
    rw [forM_ok]
    intro used hused
    obtain rfl : used = (ref, "聚合字段") := List.mem_singleton.mp hused
    simp only [requireField, hlast, check_bind_ok, require_ok, decide_eq_true_eq, Bool.or_eq_true]
    exact ⟨List.mem_singleton.mpr rfl, hid⟩
  ordering := rfl
  joins := rfl
  unique := by
    simp [requireUnique, check_bind_ok, onlyAggregate]
  aggregation := by
    rw [requireAggregationSemantics, hbound]
    show (onlyAggregate context function ref datasourceId locator hobject hdatasource).aggregates.forM
      (requireGoverned context bound) = .ok ()
    rw [forM_ok]
    intro aggregate ha
    obtain rfl := List.mem_singleton.mp ha
    rw [requireGoverned, Option.bind_some, hlast]
    dsimp only
    by_cases hmetric : binding.assetType = .metric
    · have hoverride : overrideOf context binding.businessTerm ≠ none := fun hnone =>
        hunchecked ⟨bound, binding, hbound, hlast, hmetric, hnone⟩
      rw [if_neg (not_not.mpr hmetric), if_pos (Option.isSome_iff_ne_none.mpr hoverride)]
    · rw [if_pos hmetric]
  revision := by
    simp [requireRevision, onlyAggregate]

/-- **Every plan that is accepted over a context aggregates by governed rules if and only if, of each field
that can be aggregated and has a metric, the last binding is a metric that no derivation overrides, or the
rules of the field name every function.** -/
theorem governed_iff (t : Texts) (context : GroundedQueryContext) :
    (∀ plan, validate t plan context = .ok () → Governed plan context) ↔
      ∀ ref, Aggregable context ref → MetricBound context ref.identity →
        Checked context ref.identity ∨ ∀ function, Governs context ref.identity function := by
  constructor
  · intro h ref haggregable hmetric
    by_cases hchecked : Checked context ref.identity
    · exact Or.inl hchecked
    · right
      intro function
      obtain ⟨⟨bound, binding, hbound, hlast, hid⟩, hallowed, datasourceId, locator, hids, hrequested,
        hlookup, hobject, hdatasource⟩ := haggregable
      have haccepted := validate_ok.mpr (onlyAggregate_accepted (t := t) hbound hlast hid hallowed hids
        hrequested hlookup hobject hdatasource hchecked function)
      exact h _ haccepted _ (List.mem_singleton.mpr rfl) ref rfl hmetric
  · intro h plan hvalid aggregate ha ref href hmetric
    have haccepted := validate_ok.mp hvalid
    rcases h ref (haccepted.aggregable ha href) hmetric with hchecked | hall
    · exact haccepted.governs ha href hchecked
    · exact hall aggregate.function

section Sample

/-- A dimension on the field of the metric. -/
def dimensionBinding : QueryContextBinding where
  businessTerm := "金额"
  assetType := .dimension
  assetId := "dimension_amount"
  datasourceId := "ds_1"
  dataObjectId := some "orders"
  fieldPath := some "amount"
  score := 1

/-- The average of the amounts, which the metric declares to be summed. -/
def averagePlan (context : GroundedQueryContext) : GroundedQueryPlan :=
  onlyAggregate context .average amountRef "ds_1" (sampleObject "orders" Contracts.length_orders) rfl rfl

/-- A dimension after the metric hides it from the check. -/
def hiddenContext : GroundedQueryContext := sampleContext [metricBinding, dimensionBinding]

/-- A derivation of the metric, by an operation that is not the average. -/
def countedContext : GroundedQueryContext :=
  { sampleContext [metricBinding] with
    derivations := [{ operation := "count", metric := some "销售额", operation_length := Contracts.length_count }] }

theorem not_governed_of_rules {context : GroundedQueryContext}
    (hmetric : metricBinding ∈ context.bindings)
    (hdefault : ∀ binding ∈ context.bindings, binding.defaultAggregation ≠ some .average)
    (hderived : ∀ d ∈ context.derivations, aggregateFunctionFor d.operation ≠ some .average) :
    ¬Governed (averagePlan context) context := by
  intro h
  have hbound : MetricBound context amountRef.identity :=
    ⟨metricBinding, hmetric, rfl, { amountRef with businessTerm := some "销售额" }, by decide, rfl⟩
  obtain ⟨binding, hb, -, -, ⟨d, hd, -, hf⟩ | hf⟩ := h _ (List.mem_singleton.mpr rfl) amountRef rfl hbound
  · exact hderived d hd hf
  · exact hdefault binding hb hf

/-- Both contexts are well formed, and the plan is accepted over both. -/
theorem ungoverned_average_accepted :
    hiddenContext.validate = .ok hiddenContext ∧
      validate sampleTexts (averagePlan hiddenContext) hiddenContext = .ok () ∧
      ¬Governed (averagePlan hiddenContext) hiddenContext ∧
      countedContext.validate = .ok countedContext ∧
      validate sampleTexts (averagePlan countedContext) countedContext = .ok () ∧
      ¬Governed (averagePlan countedContext) countedContext := by
  refine ⟨by decide, by decide, not_governed_of_rules (by decide) (by decide) (by decide),
    by decide, by decide, not_governed_of_rules (by decide) (by decide) ?_⟩
  intro d hd
  obtain rfl := List.mem_singleton.mp hd
  decide

end Sample

end GroundedPlanValidator

end Querying
