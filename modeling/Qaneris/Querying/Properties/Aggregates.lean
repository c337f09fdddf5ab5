import Mathlib.Data.Rat.Defs
import Mathlib.Tactic.FieldSimp
import Mathlib.Tactic.Linarith
import Mathlib.Tactic.Ring
import Qaneris.Querying.Properties.Meaning
import Qaneris.Querying.Properties.Pipelines
import Qaneris.Querying.Properties.TimeRanges

/-!
# Aggregates in both languages

* `sqlRows_eq` — what the statement of a grouped plan of one object returns
* `aggregates_agree_iff` — for which plans SQL and MongoDB return the same rows of all records
-/

namespace Querying

open Contracts
open Infra (bind_ok)

/-! ## Statements of one table -/

section Single

variable (t : Texts) (d : Driver) (plan : GroundedQueryPlan)

/-- The `WHERE` of a plan of one object keeps the record. -/
def keepsRecord (record : Record) : Bool :=
  satisfies d (meaning t plan).predicates { base := (record, 0) }

def recordKey (record : Record) : List (Option Datum) :=
  (plan.groupBy.map GroundedFieldRef.fieldPath).map record

/-- What SQL computes of the records of a group. -/
def aggregateOf (group : List Record) (item : PlanAggregate) : Option Datum :=
  match item.field with
  | none => some (countOf group)
  | some ref =>
    let values := (group.map fun record => record ref.fieldPath).filter Option.isSome
    match item.function with
    | .count => some (countOf values)
    | .sum => if values = [] then none else some (.number (sumOf (numbers values)))
    | .average => (averageOf (numbers values)).map .number
    | .minimum => (extremeOf .lt (numbers values)).map .number
    | .maximum => (extremeOf .gt (numbers values)).map .number

/-- The row of a group of records. -/
def recordRow (group : List Record) : Record := fun name =>
  match Mongo.governing plan name with
  | some item => aggregateOf group item
  | none =>
    if name ∈ plan.selectedFields.map GroundedFieldRef.fieldPath then
      group.head?.bind fun record => record name
    else none

variable {t d plan} {q : NativeQuery}

theorem read_base {c : Column} (h : c.side = .base) (source : Source) :
    source.read c = source.base.1 c.path := by
  unfold Source.read
  rw [h]

/-- Every column of a plan of one object is one of its table. -/
theorem side_of_single (h : SQLCompiler.compile t d plan = .ok q) (hsingle : plan.dataObjectIds.length = 1)
    {ref : GroundedFieldRef} (href : ref ∈ fieldRefs plan) :
    refOf (columnOf plan) ref = ⟨.base, ref.fieldPath⟩ := by
  have hmem := (compile_written h).fields ref href
  obtain ⟨base, hids⟩ := List.length_eq_one_iff.mp hsingle
  have hbase : ref.dataObjectId = baseOf plan := by
    rw [baseOf, hids]
    rw [hids] at hmem
    exact List.mem_singleton.mp hmem
  unfold refOf columnOf
  rw [if_pos hbase]

theorem connected_of_single (h : SQLCompiler.compile t d plan = .ok q)
    (hsingle : plan.dataObjectIds.length = 1) (halone : plan.joins = []) : Connected plan := by
  obtain ⟨base, hids⟩ := List.length_eq_one_iff.mp hsingle
  refine ⟨fun join hjoin => ?_, fun ref href => Or.inl ?_⟩
  · rw [halone] at hjoin
    cases hjoin
  · have hmem := (compile_written h).fields ref href
    rw [hids] at hmem
    rw [baseOf, hids]
    exact List.mem_singleton.mp hmem

theorem conditions_of_compile (h : SQLCompiler.compile t d plan = .ok q) :
    ∃ conditions, plan.filters.mapM (SQLCompiler.filter t d plan) = .ok conditions ∧
      ∃ times, SQLCompiler.timeConditions t d plan = .ok times := by
  unfold SQLCompiler.compile at h
  split at h
  · cases h
  obtain ⟨tables, htables, h⟩ := bind_ok h
  obtain ⟨fields, hfields, h⟩ := bind_ok h
  obtain ⟨aggregates, haggregates, h⟩ := bind_ok h
  obtain ⟨joins, hjoins, h⟩ := bind_ok h
  obtain ⟨filters, hfilters, h⟩ := bind_ok h
  obtain ⟨times, htimes, h⟩ := bind_ok h
  exact ⟨filters, hfilters, times, htimes⟩

section Compiled

variable (h : SQLCompiler.compile t d plan = .ok q) (hsingle : plan.dataObjectIds.length = 1)
  (halone : plan.joins = [])

include h hsingle halone

theorem side_of_columns : ∀ c ∈ (meaning t plan).columns, c.side = .base := by
  intro c hc
  rcases mem_columns.mp hc with ⟨ref, href, rfl⟩ | ⟨join, hjoin, -⟩
  · rw [side_of_single h hsingle href]
  · rw [halone] at hjoin
    cases hjoin

theorem satisfies_eq (source : Source) :
    satisfies d (meaning t plan).predicates source = keepsRecord t d plan source.base.1 := by
  have htruths : ((meaning t plan).predicates.map fun p =>
      p.test.truth d.collation (source.read p.column)) =
      (meaning t plan).predicates.map fun p =>
        p.test.truth d.collation (Source.read { base := (source.base.1, 0) } p.column) := by
    refine List.map_congr_left fun p hp => ?_
    have hside : p.column.side = .base := by
      refine side_of_columns h hsingle halone p.column ?_
      simp only [Statement.columns, List.mem_append, List.mem_map]
      exact Or.inr (Or.inr (Or.inl ⟨p, hp, rfl⟩))
    rw [read_base hside, read_base hside]
  unfold keepsRecord satisfies
  rw [htruths]

/-- A record is kept when its filters and its time range select it. -/
theorem keepsRecord_iff (record : Record) : keepsRecord t d plan record ↔
    sqlSelects t d plan plan.filters record ∧ sqlSelectsTime t d plan record := by
  obtain ⟨conditions, hconditions, times, htimes⟩ := conditions_of_compile h
  have htime : sqlSelectsTime t d plan record ↔ ∀ p ∈ timePredicates t plan (nameOf plan),
      p.test.truth d.collation (record p.column.path) = some true := by
    have hname : ∀ p ∈ timePredicates t plan (nameOf plan), IsWord p.column.alias_ := by
      intro p hp
      obtain ⟨ref, -, href⟩ := mem_timePredicates.mp (List.mem_map_of_mem hp)
      rw [← href]
      exact isWord_aliasOf ref.dataObjectId
    rw [← whereTruth_eq_true (timeConditions_ok htimes).2 hname, sqlSelectsTime, htimes]
    simp [Except.toOption]
  have hplain : (timePredicates t plan (nameOf plan)).map (fun p => (p.column.path, p.test)) =
      (timePredicates t plan (columnOf plan)).map fun p => (p.column.path, p.test) := by
    unfold timePredicates
    cases plan.timeField with
    | none => rfl
    | some ref =>
      cases plan.timeRange with
      | none => rfl
      | some range =>
        rw [List.map_append, List.map_append]
        cases range.start <;> cases range.stop <;> rfl
  have htimes' : (∀ p ∈ timePredicates t plan (nameOf plan),
      p.test.truth d.collation (record p.column.path) = some true) ↔
      ∀ p ∈ timePredicates t plan (columnOf plan),
        p.test.truth d.collation (record p.column.path) = some true := by
    have hmapped : ∀ {κ : Type} (path : κ → String) (ps : List (Predicate κ Value)),
        (∀ p ∈ ps, p.test.truth d.collation (record (path p.column)) = some true) ↔
          ∀ item ∈ ps.map (fun p => (path p.column, p.test)),
            item.2.truth d.collation (record item.1) = some true := by
      intro κ path ps
      rw [List.forall_mem_map]
    rw [hmapped ColumnName.path, hplain, ← hmapped Column.path]
  have hread : ∀ p ∈ (meaning t plan).predicates,
      Source.read { base := (record, 0) } p.column = record p.column.path := by
    intro p hp
    refine read_base (side_of_columns h hsingle halone p.column ?_) _
    simp only [Statement.columns, List.mem_append, List.mem_map]
    exact Or.inr (Or.inr (Or.inl ⟨p, hp, rfl⟩))
  have hall : keepsRecord t d plan record ↔ ∀ p ∈ (meaning t plan).predicates,
      p.test.truth d.collation (record p.column.path) = some true := by
    unfold keepsRecord satisfies
    rw [decide_eq_true_iff, Infra.Truth.all_eq_true, List.forall_mem_map]
    exact forall₂_congr fun p hp => by rw [hread p hp]
  have hpredicates : (meaning t plan).predicates =
      plan.filters.map (predicateOf t (columnOf plan)) ++ timePredicates t plan (columnOf plan) := rfl
  rw [hall, hpredicates, List.forall_mem_append, List.forall_mem_map, sqlSelects_iff hconditions, htime,
    htimes']
  rfl

/-- The records of the rows that are kept. -/
theorem records_of_kept (records : List Record) :
    (keptSources d (fun _ => records) (meaning t plan)).map (fun source => source.base.1) =
      records.filter (keepsRecord t d plan) := by
  have hjoin : (meaning t plan).join = none := by
    rw [meaning, statementOf, halone]
    rfl
  have hsources : sources d (fun _ => records) (meaning t plan) =
      records.zipIdx.map fun row => { base := row } := by
    unfold sources
    rw [hjoin]
  unfold keptSources
  rw [hsources, List.filter_map, List.map_map]
  have hfst : ((fun source : Source => source.base.1) ∘ fun row : Record × Nat => { base := row }) =
      Prod.fst := rfl
  have hkeeps : (satisfies d (meaning t plan).predicates ∘ fun row : Record × Nat => { base := row }) =
      keepsRecord t d plan ∘ Prod.fst :=
    funext fun row => satisfies_eq h hsingle halone { base := row }
  rw [hfst, hkeeps, ← List.filter_map, List.zipIdx_map_fst]

omit halone in
theorem sqlAggregate_eq (group : List Source) {item : PlanAggregate} (hitem : item ∈ plan.aggregates) :
    sqlAggregate group item.function (item.field.map (refOf (columnOf plan))) =
      aggregateOf (group.map fun source => source.base.1) item := by
  unfold aggregateOf
  cases hfield : item.field with
  | none =>
    have hcount : countOf (group.map fun source => source.base.1) = countOf group := by
      rw [countOf, countOf, List.length_map]
    dsimp only
    rw [hcount]
    cases item.function <;> rfl
  | some ref =>
    have href : ref ∈ fieldRefs plan := by
      simp only [fieldRefs, List.mem_append, List.mem_filterMap]
      exact Or.inl (Or.inl (Or.inl (Or.inl (Or.inr ⟨item, hitem, hfield⟩))))
    have hvalues : (contributing ⟨.base, ref.fieldPath⟩ group).map (fun source =>
        source.read ⟨.base, ref.fieldPath⟩) =
        ((group.map fun source => source.base.1).map fun record => record ref.fieldPath).filter
          Option.isSome := by
      rw [List.map_map, List.filter_map]
      rfl
    rw [Option.map_some, side_of_single h hsingle href]
    unfold sqlAggregate
    cases item.function <;> dsimp only <;> rw [hvalues]

omit halone in
/-- The row of a group depends on its records only. -/
theorem rowOf_eq (group : List Source) : rowOf (meaning t plan).items group =
    recordRow plan (group.map fun source => source.base.1) := by
  funext name
  have hitems : (meaning t plan).items.reverse =
      plan.aggregates.reverse.map (itemOf (columnOf plan)) ++
        plan.selectedFields.reverse.map fun ref => Item.column (refOf (columnOf plan) ref) := by
    rw [meaning, statementOf, List.reverse_append, List.map_reverse, List.map_reverse]
  have hgoverning : (plan.aggregates.reverse.map (itemOf (columnOf plan))).find?
      (fun item => item.name = name) =
      (Mongo.governing plan name).map (itemOf (columnOf plan)) := by
    rw [List.find?_map]
    rfl
  unfold rowOf recordRow
  rw [hitems, List.find?_append, hgoverning]
  cases hname : Mongo.governing plan name with
  | some item =>
    have hitem : item ∈ plan.aggregates := List.mem_reverse.mp (List.mem_of_find?_eq_some hname)
    exact sqlAggregate_eq h hsingle group hitem
  | none =>
    rw [Option.map_none, Option.none_or, List.find?_map]
    by_cases hmem : name ∈ plan.selectedFields.map GroundedFieldRef.fieldPath
    · obtain ⟨ref, href, hpath⟩ := List.mem_map.mp hmem
      have hsome : (plan.selectedFields.reverse.find? ((fun item : Item Column => decide (item.name = name)) ∘
          fun ref => Item.column (refOf (columnOf plan) ref))).isSome := by
        rw [List.find?_isSome]
        exact ⟨ref, List.mem_reverse.mpr href, decide_eq_true hpath⟩
      obtain ⟨found, hfound⟩ := Option.isSome_iff_exists.mp hsome
      have hholds := List.find?_some hfound
      have hfoundName : found.fieldPath = name := of_decide_eq_true (p := found.fieldPath = name) hholds
      have hfoundRef : found ∈ fieldRefs plan := by
        simp only [fieldRefs, List.mem_append]
        exact Or.inl (Or.inl (Or.inl (Or.inl (Or.inl
          (List.mem_reverse.mp (List.mem_of_find?_eq_some hfound))))))
      rw [hfound, if_pos hmem, Option.map_some, Option.bind_some, side_of_single h hsingle hfoundRef,
        Item.value, hfoundName]
      cases group <;> rfl
    · have hnone : plan.selectedFields.reverse.find? ((fun item : Item Column => decide (item.name = name)) ∘
          fun ref => Item.column (refOf (columnOf plan) ref)) = none := by
        rw [List.find?_eq_none]
        intro ref href hpath
        rw [List.mem_reverse] at href
        exact hmem (List.mem_map.mpr ⟨ref, href, of_decide_eq_true (p := ref.fieldPath = name) hpath⟩)
      rw [hnone, if_neg hmem]
      rfl

/-- The command of a plan of one object is read as what the plan stands for. -/
theorem sqlRows_meaning (content : Content) :
    sqlRows d content q = some (selectRows d content (meaning t plan)) := by
  obtain ⟨command, hcommand, hmeaning, -⟩ := compile_meaning h
  unfold sqlRows
  rw [hcommand]
  dsimp only
  rw [hmeaning.mpr (connected_of_single h hsingle halone)]
  rfl

/-- **What the statement of a grouped plan returns**: a row for each group of the records that are
kept. -/
theorem sqlRows_eq (hgroup : plan.groupBy ≠ []) (records : List Record) :
    sqlRows d (fun _ => records) q =
      some ((Infra.groupsBy (recordKey plan) (records.filter (keepsRecord t d plan))).map
        (recordRow plan)) := by
  have hgroupBy : (meaning t plan).groupBy ≠ [] := by
    rw [meaning, statementOf]
    simpa using hgroup
  have hkey : groupKey (meaning t plan).groupBy = fun source => recordKey plan source.base.1 := by
    funext source
    have hcolumns : ∀ ref ∈ plan.groupBy,
        source.read (refOf (columnOf plan) ref) = source.base.1 ref.fieldPath := by
      intro ref href
      have hmem : ref ∈ fieldRefs plan := by
        simp only [fieldRefs, List.mem_append]
        exact Or.inl (Or.inr href)
      rw [side_of_single h hsingle hmem]
      rfl
    rw [groupKey, recordKey, meaning, statementOf, List.map_map, List.map_map]
    exact List.map_congr_left hcolumns
  have hgroups : groups d (fun _ => records) (meaning t plan) =
      Infra.groupsBy (fun source => recordKey plan source.base.1)
        (keptSources d (fun _ => records) (meaning t plan)) := by
    unfold groups
    rw [if_neg hgroupBy, hkey]
  rw [sqlRows_meaning h hsingle halone, selectRows, if_pos (Or.inl hgroupBy), hgroups,
    ← records_of_kept h hsingle halone, Infra.groupsBy_map, List.map_map]
  exact congrArg some (List.map_congr_left fun group _ => rowOf_eq h hsingle group)

end Compiled

end Single

/-! ## Aggregates of a group -/

section Group

variable {item : PlanAggregate} {ref : GroundedFieldRef} {group : List Record}

theorem numbers_filter (values : List (Option Datum)) :
    numbers (values.filter Option.isSome) = numbers values := by
  unfold numbers
  rw [List.filterMap_filter]
  refine List.filterMap_congr fun v _ => ?_
  cases v <;> rfl

theorem sumOf_replicate (n : Nat) (q : Rat) : sumOf (List.replicate n q) = n * q := by
  induction n with
  | zero =>
    rw [Nat.cast_zero, zero_mul]
    rfl
  | succ n ih =>
    have hstep : sumOf (List.replicate (n + 1) q) = q + sumOf (List.replicate n q) := rfl
    rw [hstep, ih, Nat.cast_succ]
    ring

theorem averageOf_replicate {n : Nat} (hn : n ≠ 0) (q : Rat) :
    averageOf (List.replicate n q) = some q := by
  have hne : List.replicate n q ≠ [] := by simpa using hn
  have hlength : Rat.ofInt n = (n : Rat) := rfl
  have hdiv : Rat.div (n * q) n = (n * q) / n := rfl
  unfold averageOf
  rw [if_neg hne, sumOf_replicate, List.length_replicate, hlength, hdiv,
    mul_div_cancel_left₀ q (Nat.cast_ne_zero.mpr hn)]

theorem extremeOf_replicate {n : Nat} (hn : n ≠ 0) (first : Infra.Order) (q : Rat) :
    extremeOf first (List.replicate n q) = some q := by
  obtain ⟨n, rfl⟩ := Nat.exists_eq_succ_of_ne_zero hn
  clear hn
  induction n with
  | zero => rfl
  | succ n ih =>
    rw [List.replicate_succ, extremeOf, ih]
    exact congrArg some (ite_self q)

/-- What a group lacks makes no difference to MongoDB but in a count and a sum. -/
theorem over_eq_aggregateOf (hne : group ≠ [])
    (hpresent : item.function = .count ∨ item.function = .sum → ∀ ref ∈ item.field, ∀ record ∈ group,
      record ref.fieldPath ≠ none) :
    (Mongo.accumulatorOf item).over group = aggregateOf group item := by
  have hones : numbers (group.map fun _ => some (.number (Rat.ofInt 1))) =
      List.replicate group.length (Rat.ofInt 1) := by
    rw [List.map_const', numbers]
    exact List.filterMap_replicate_of_some (f := fun v : Option Datum => v.bind Datum.number?) rfl
  have hcount : ((⟨.sum, .number (Rat.ofInt 1)⟩ : Mongo.Accumulator).over group) = some (countOf group) := by
    have hone : Rat.ofInt 1 = 1 := rfl
    have hlength : Rat.ofInt group.length = (group.length : Rat) := rfl
    unfold Mongo.Accumulator.over Mongo.Operator.of Mongo.Operand.value countOf
    dsimp only
    rw [hones, sumOf_replicate, hone, mul_one, hlength]
  have hkept : ∀ ref ∈ item.field, item.function = .count ∨ item.function = .sum →
      (group.map fun record => record ref.fieldPath).filter Option.isSome =
        group.map fun record => record ref.fieldPath := by
    intro ref href hfunction
    rw [List.filter_eq_self]
    intro v hv
    obtain ⟨record, hrecord, rfl⟩ := List.mem_map.mp hv
    exact Option.isSome_iff_ne_none.mpr (hpresent hfunction ref href record hrecord)
  unfold aggregateOf
  obtain ⟨function, field, alias_, hlength, hrequired⟩ := item
  cases field with
  | none =>
    cases function with
    | count => exact hcount
    | sum | average | minimum | maximum => exact absurd (hrequired (by simp)) (by simp)
  | some ref =>
    dsimp only at hkept ⊢
    cases function with
    | count =>
      rw [hkept ref rfl (Or.inl rfl)]
      dsimp only
      rw [countOf, List.length_map]
      exact hcount
    | sum =>
      have hvalues : (group.map fun record => record ref.fieldPath) ≠ [] := by simpa using hne
      rw [hkept ref rfl (Or.inr rfl)]
      dsimp only
      rw [if_neg hvalues]
      rfl
    | average | minimum | maximum =>
      dsimp only
      rw [numbers_filter]
      rfl

/-- A single record tells the two apart when it lacks the field of a count or a sum. -/
theorem present_of_over {record : Record}
    (h : (Mongo.accumulatorOf item).over [record] = aggregateOf [record] item)
    (hfunction : item.function = .count ∨ item.function = .sum) (href : ref ∈ item.field) :
    record ref.fieldPath ≠ none := by
  intro hnone
  obtain ⟨function, field, alias_, hlength, hrequired⟩ := item
  obtain rfl : field = some ref := href
  unfold aggregateOf at h
  rcases hfunction with hcount | hsum
  · obtain rfl : function = .count := hcount
    simp only [List.map_cons, List.map_nil, hnone] at h
    -- one record, and none with a value
    have hcounts : sumOf [Rat.ofInt 1] = Rat.ofInt 0 := Datum.number.inj (Option.some.inj h)
    exact absurd hcounts (by decide +kernel)
  · obtain rfl : function = .sum := hsum
    simp only [List.map_cons, List.map_nil, hnone] at h
    cases h

end Group

/-! ## Filters of documents -/

section Documents

variable {t : Texts} {plan : GroundedQueryPlan} {record : Record}

theorem clause_shape {item : PlanFilter} {clause : List (String × Value)}
    (h : MongoCompiler.clause t item = .ok clause) :
    ∃ path conditions, clause = [(path, .dict conditions)] := by
  unfold MongoCompiler.clause at h
  dsimp only at h
  split at h
  · exact ⟨_, _, (Except.ok.inj h).symm⟩
  · exact ⟨_, _, (Except.ok.inj h).symm⟩
  · cases h
  · exact ⟨_, _, (Except.ok.inj h).symm⟩
  · cases h
  · split at h
    · exact ⟨_, _, (Except.ok.inj h).symm⟩
    · cases h

theorem timeClauses_shape {clause : List (String × Value)} (h : clause ∈ MongoCompiler.timeClauses plan) :
    ∃ path conditions, clause = [(path, .dict conditions)] := by
  unfold MongoCompiler.timeClauses at h
  split at h
  · dsimp only at h
    split at h
    · cases h
    · exact ⟨_, _, List.mem_singleton.mp h⟩
  · cases h

/-- A document is kept when its filters and its time range select it. -/
theorem keeps_iff {clauses : List (List (String × Value))}
    (h : plan.filters.mapM (MongoCompiler.clause t) = .ok clauses) :
    Mongo.keeps plan t record ↔ mongoSelects t plan.filters record ∧ mongoSelectsTime plan record := by
  have hclauses : ∀ clause ∈ clauses, ∃ path conditions, clause = [(path, .dict conditions)] := by
    intro clause hclause
    obtain ⟨item, -, hitem⟩ := Infra.exists_of_forall₂ (Infra.forall₂_of_mapM h).flip hclause
    exact clause_shape hitem
  have htimes : ∀ clause ∈ MongoCompiler.timeClauses plan,
      ∃ path conditions, clause = [(path, .dict conditions)] := fun clause => timeClauses_shape
  have hboth := List.forall_mem_append.mpr ⟨hclauses, htimes⟩
  have hkeeps : Mongo.keeps plan t record ↔ Mongo.filterHolds record
      (MongoCompiler.matchOf (clauses ++ MongoCompiler.timeClauses plan)) = some true := by
    unfold Mongo.keeps
    rw [h]
    simp [Except.toOption]
  rw [hkeeps, mongoSelects_iff h, mongoSelectsTime, decide_eq_true_iff, Mongo.filterHolds_matchOf hboth,
    Mongo.filterHolds_matchOf hclauses, Mongo.filterHolds_matchOf htimes, List.mapM_append]
  cases clauses.mapM (Mongo.documentHolds record) with
  | none => simp
  | some holds =>
    cases (MongoCompiler.timeClauses plan).mapM (Mongo.documentHolds record) with
    | none => simp
    | some times => simp

end Documents

/-! ## The same rows -/

section Agreement

/-- What is aggregated is a number, where it is there. -/
def Numeric (plan : GroundedQueryPlan) (record : Record) : Prop :=
  ∀ item ∈ plan.aggregates, item.function ≠ .count → ∀ ref ∈ item.field,
    ∀ v ∈ record ref.fieldPath, ∃ q, v = .number q

/-- The group fields and the aliases. -/
def resultNames (plan : GroundedQueryPlan) : List String :=
  plan.groupBy.map GroundedFieldRef.fieldPath ++ plan.aggregates.map PlanAggregate.alias_

/-- Both databases return the same rows, in some order. -/
def SameRows (d : Driver) (plan : GroundedQueryPlan) (q m : NativeQuery) (records : List Record) : Prop :=
  ∃ rows rows', sqlRows d (fun _ => records) q = some rows ∧ mongoRows records m = some rows' ∧
    (rows.map fun row => (resultNames plan).map row).Perm
      (rows'.map fun row => (resultNames plan).map row)

/-- A record that a relational database aggregates. -/
structure Kept (t : Texts) (d : Driver) (plan : GroundedQueryPlan) (record : Record) : Prop where
  numeric : Numeric plan record
  filters : sqlSelects t d plan plan.filters record
  time : sqlSelectsTime t d plan record

/-- An aggregate that takes the place of the identity is the same of every record, and of many of them as
of one. -/
def Idempotent (kept : Record → Prop) (item : PlanAggregate) : Prop :=
  match item.function, item.field with
  | .sum, some ref => ∀ record, kept record → record ref.fieldPath = some (.number (Rat.ofInt 0))
  | .average, some ref | .minimum, some ref | .maximum, some ref =>
    ∀ record record', kept record → kept record' → record ref.fieldPath = record' ref.fieldPath
  | _, _ => ∀ record, ¬ kept record

/-- What makes a plan of one object mean the same in both languages. -/
structure Agreeing (t : Texts) (d : Driver) (plan : GroundedQueryPlan) : Prop where
  /-- There is a row of nothing in SQL only. -/
  grouped : plan.groupBy ≠ []
  selects : ∀ record, Numeric plan record →
    ((sqlSelects t d plan plan.filters record ∧ sqlSelectsTime t d plan record) ↔
      (mongoSelects t plan.filters record ∧ mongoSelectsTime plan record))
  /-- SQL does not count what is missing, and has no sum of it. -/
  present : ∀ item, Mongo.governing plan item.alias_ = some item →
    item.function = .count ∨ item.function = .sum → ∀ ref ∈ item.field,
      ∀ record, Kept t d plan record → record ref.fieldPath ≠ none
  /-- An aggregate that is called `_id` is what MongoDB groups by. -/
  identity : ∀ item, Mongo.governing plan "_id" = some item →
    (∀ ref ∈ plan.groupBy, ∀ record, Kept t d plan record → record ref.fieldPath = none) ∧
      Idempotent (Kept t d plan) item

variable {t : Texts} {d : Driver} {plan : GroundedQueryPlan} {q m : NativeQuery}

theorem Numeric.value {item : PlanAggregate} {ref : GroundedFieldRef} {record : Record}
    (h : Numeric plan record) (hitem : item ∈ plan.aggregates) (hfunction : item.function ≠ .count)
    (href : ref ∈ item.field) : ∃ v : Option Rat, record ref.fieldPath = v.map .number := by
  cases hv : record ref.fieldPath with
  | none => exact ⟨none, rfl⟩
  | some v =>
    obtain ⟨q, rfl⟩ := h item hitem hfunction ref href v hv
    exact ⟨some q, rfl⟩

theorem mem_of_governing {item : PlanAggregate} {name : String}
    (h : Mongo.governing plan name = some item) : item ∈ plan.aggregates ∧ item.alias_ = name := by
  have hname := List.find?_some h
  exact ⟨List.mem_reverse.mp (List.mem_of_find?_eq_some h), of_decide_eq_true hname⟩

/-- An aggregate of one value. -/
theorem aggregateOf_const {item : PlanAggregate} {ref : GroundedFieldRef} {group : List Record}
    (hne : group ≠ []) (hfield : item.field = some ref)
    (hcount : item.function ≠ .count) (hsum : item.function ≠ .sum) {v : Option Rat}
    (hv : ∀ record ∈ group, record ref.fieldPath = v.map .number) :
    aggregateOf group item = v.map .number := by
  have hlength : group.length ≠ 0 := fun h => hne (List.length_eq_zero_iff.mp h)
  have hmap : (group.map fun record => record ref.fieldPath) =
      List.replicate group.length (v.map .number) := by
    rw [List.eq_replicate_iff]
    refine ⟨List.length_map _, fun w hw => ?_⟩
    obtain ⟨record, hrecord, rfl⟩ := List.mem_map.mp hw
    exact hv record hrecord
  have hnumbers : numbers (List.replicate group.length (v.map .number)) =
      v.elim [] fun q => List.replicate group.length q := by
    cases v with
    | none => exact List.filterMap_replicate_of_none (f := fun v : Option Datum => v.bind Datum.number?) rfl
    | some q => exact List.filterMap_replicate_of_some (f := fun v : Option Datum => v.bind Datum.number?) rfl
  unfold aggregateOf
  rw [hfield]
  dsimp only
  rw [numbers_filter, hmap, hnumbers]
  cases hfunction : item.function with
  | count => exact absurd hfunction hcount
  | sum => exact absurd hfunction hsum
  | average =>
    cases v with
    | none => rfl
    | some q => exact congrArg (Option.map Datum.number) (averageOf_replicate hlength q)
  | minimum =>
    cases v with
    | none => rfl
    | some q => exact congrArg (Option.map Datum.number) (extremeOf_replicate hlength .lt q)
  | maximum =>
    cases v with
    | none => rfl
    | some q => exact congrArg (Option.map Datum.number) (extremeOf_replicate hlength .gt q)

/-- A sum of one number. -/
theorem aggregateOf_sum {item : PlanAggregate} {ref : GroundedFieldRef} {group : List Record}
    (hne : group ≠ []) (hfield : item.field = some ref) (hsum : item.function = .sum) {q : Rat}
    (hq : ∀ record ∈ group, record ref.fieldPath = some (.number q)) :
    aggregateOf group item = some (.number (group.length * q)) := by
  have hmap : (group.map fun record => record ref.fieldPath) =
      List.replicate group.length (some (.number q)) := by
    rw [List.eq_replicate_iff]
    refine ⟨List.length_map _, fun w hw => ?_⟩
    obtain ⟨record, hrecord, rfl⟩ := List.mem_map.mp hw
    exact hq record hrecord
  have hsome : (List.replicate group.length (some (Datum.number q))).filter Option.isSome =
      List.replicate group.length (some (.number q)) := by
    rw [List.filter_eq_self]
    intro v hv
    rw [List.eq_of_mem_replicate hv]
    rfl
  have hnumbers : numbers (List.replicate group.length (some (.number q))) =
      List.replicate group.length q :=
    List.filterMap_replicate_of_some (f := fun v : Option Datum => v.bind Datum.number?) rfl
  have hvalues : List.replicate group.length (some (Datum.number q)) ≠ [] := by simpa using hne
  unfold aggregateOf
  rw [hfield, hsum]
  dsimp only
  rw [hmap, hsome, if_neg hvalues, hnumbers, sumOf_replicate]

theorem aggregateOf_idempotent {item : PlanAggregate} (hi : Idempotent (Kept t d plan) item)
    (hmem : item ∈ plan.aggregates) {group group' : List Record} (hne : group ≠ []) (hne' : group' ≠ [])
    (hkept : ∀ record ∈ group, Kept t d plan record) (hkept' : ∀ record ∈ group', Kept t d plan record) :
    aggregateOf group item = aggregateOf group' item := by
  obtain ⟨record, hrecord⟩ := List.exists_mem_of_ne_nil group hne
  have hfirst := hkept record hrecord
  unfold Idempotent at hi
  cases hfield : item.field with
  | none =>
    rw [hfield] at hi
    cases hfunction : item.function <;> rw [hfunction] at hi <;> exact absurd hfirst (hi record)
  | some ref =>
    rw [hfield] at hi
    have hconst : item.function ≠ .count → item.function ≠ .sum →
        (∀ r r', Kept t d plan r → Kept t d plan r' → r ref.fieldPath = r' ref.fieldPath) →
        aggregateOf group item = aggregateOf group' item := by
      intro hcount hsum hsame
      obtain ⟨v, hv⟩ := hfirst.numeric.value hmem hcount hfield
      have hall : ∀ r, Kept t d plan r → r ref.fieldPath = v.map .number :=
        fun r hr => (hsame r record hr hfirst).trans hv
      rw [aggregateOf_const hne hfield hcount hsum fun r hr => hall r (hkept r hr),
        aggregateOf_const hne' hfield hcount hsum fun r hr => hall r (hkept' r hr)]
    cases hfunction : item.function with
    | count =>
      rw [hfunction] at hi
      exact absurd hfirst (hi record)
    | sum =>
      rw [hfunction] at hi
      have hmul : ∀ n : ℕ, (n : ℚ) * Rat.ofInt 0 = 0 := fun n => mul_zero _
      rw [aggregateOf_sum hne hfield hfunction fun r hr => hi r (hkept r hr),
        aggregateOf_sum hne' hfield hfunction fun r hr => hi r (hkept' r hr), hmul, hmul]
    | average | minimum | maximum =>
      rw [hfunction] at hi
      exact hconst (by simp [hfunction]) (by simp [hfunction]) hi

/-! ### Rows of a group -/

theorem recordRow_alias {item : PlanAggregate} {name : String} (h : Mongo.governing plan name = some item)
    (group : List Record) : recordRow plan group name = aggregateOf group item := by
  unfold recordRow
  rw [h]

theorem recordRow_group {ref : GroundedFieldRef} (href : ref ∈ plan.groupBy)
    (h : Mongo.governing plan ref.fieldPath = none) (group : List Record) :
    recordRow plan group ref.fieldPath = group.head?.bind fun record => record ref.fieldPath := by
  have hselected : ref.fieldPath ∈ plan.selectedFields.map GroundedFieldRef.fieldPath := by
    obtain ⟨other, hother, hidentity⟩ := List.mem_map.mp (plan.groupBy_selected ref href)
    refine List.mem_map.mpr ⟨other, hother, ?_⟩
    simp only [GroundedFieldRef.identity, Prod.mk.injEq] at hidentity
    exact hidentity.2.2
  unfold recordRow
  rw [h]
  exact if_pos hselected

theorem governing_of_alias {name : String} (h : name ∈ plan.aggregates.map PlanAggregate.alias_) :
    ∃ item, Mongo.governing plan name = some item := by
  obtain ⟨item, hitem, rfl⟩ := List.mem_map.mp h
  rw [← Option.isSome_iff_exists, Mongo.governing, List.find?_isSome]
  exact ⟨item, List.mem_reverse.mpr hitem, decide_eq_true rfl⟩

section Compiled

variable {clauses : List (List (String × Value))} {sorted : List (String × Value)}
  (h : SQLCompiler.compile t d plan = .ok q) (hp : Mongo.Piped t plan m clauses sorted)
  (hsegments : ∀ path ∈ MongoCompiler.allowed plan, '.' ∉ path.toList)

include h hp hsegments

theorem sameRows_iff (hgroup : plan.groupBy ≠ []) (records : List Record) :
    SameRows d plan q m records ↔
      ((Infra.groupsBy (recordKey plan) (records.filter (keepsRecord t d plan))).map fun group =>
        (resultNames plan).map (recordRow plan group)).Perm
      ((Infra.groupsBy (fun record => (Mongo.groupingOf plan).of record)
        (records.filter (Mongo.keeps plan t))).map fun group =>
          (resultNames plan).map (Mongo.groupedRow plan group)) := by
  unfold SameRows
  rw [sqlRows_eq h hp.single hp.alone hgroup, hp.mongoRows_eq hsegments]
  constructor
  · rintro ⟨rows, rows', hrows, hrows', hperm⟩
    obtain rfl := Option.some.inj hrows
    obtain rfl := Option.some.inj hrows'
    rwa [List.map_map, List.map_map] at hperm
  · intro hperm
    refine ⟨_, _, rfl, rfl, ?_⟩
    rwa [List.map_map, List.map_map]

omit h in
/-- The rows of a group are the same, when the plan agrees. -/
theorem recordRow_eq (ha : Agreeing t d plan) {group : List Record} (hne : group ≠ [])
    (hkept : ∀ record ∈ group, Kept t d plan record) {name : String} (hname : name ∈ resultNames plan) :
    recordRow plan group name = Mongo.groupedRow plan group name := by
  obtain ⟨record, rest, rfl⟩ := List.exists_cons_of_ne_nil hne
  have hfirst := hkept record List.mem_cons_self
  rcases List.mem_append.mp hname with hgroup | halias
  · have hnone := hp.governing_eq_none hsegments hgroup
    obtain ⟨ref, href, rfl⟩ := List.mem_map.mp hgroup
    rw [recordRow_group href hnone]
    cases hid : Mongo.governing plan "_id" with
    | none => rw [Mongo.groupedRow_group hnone hid hgroup]
    | some item =>
      rw [Mongo.groupedRow_none hnone fun hboth => by rw [hid] at hboth; cases hboth.1]
      exact (ha.identity item hid).1 ref href record hfirst
  · obtain ⟨item, hitem⟩ := governing_of_alias halias
    obtain ⟨hmem, rfl⟩ := mem_of_governing hitem
    have hpresent : ∀ {records : List Record}, (∀ r ∈ records, Kept t d plan r) →
        item.function = .count ∨ item.function = .sum → ∀ ref ∈ item.field, ∀ r ∈ records,
          r ref.fieldPath ≠ none :=
      fun hrecords hfunction ref href r hr => ha.present item hitem hfunction ref href r (hrecords r hr)
    rw [recordRow_alias hitem, Mongo.groupedRow_alias hitem]
    by_cases hid : item.alias_ = "_id"
    · -- the first record stands for the group
      have hone : ∀ r ∈ [record], Kept t d plan r := List.forall_mem_singleton.mpr hfirst
      rw [if_pos hid, List.take_succ_cons, List.take_zero,
        over_eq_aggregateOf (List.cons_ne_nil _ _) (hpresent hone)]
      exact aggregateOf_idempotent (ha.identity item (hid ▸ hitem)).2 hmem (List.cons_ne_nil _ _)
        (List.cons_ne_nil _ _) hkept hone
    · rw [if_neg hid, over_eq_aggregateOf (List.cons_ne_nil _ _) (hpresent hkept)]

theorem sameRows_of_agreeing (ha : Agreeing t d plan) {records : List Record}
    (hnumeric : ∀ record ∈ records, Numeric plan record) : SameRows d plan q m records := by
  have hfilter : records.filter (Mongo.keeps plan t) = records.filter (keepsRecord t d plan) := by
    refine List.filter_congr fun record hrecord => ?_
    rw [Bool.eq_iff_iff, keeps_iff hp.filters, keepsRecord_iff h hp.single hp.alone]
    exact (ha.selects record (hnumeric record hrecord)).symm
  rw [sameRows_iff h hp hsegments ha.grouped, hfilter]
  generalize hkept : records.filter (keepsRecord t d plan) = kept
  have hall : ∀ record ∈ kept, Kept t d plan record := by
    intro record hrecord
    rw [← hkept, List.mem_filter, keepsRecord_iff h hp.single hp.alone] at hrecord
    exact ⟨hnumeric record hrecord.1, hrecord.2.1, hrecord.2.2⟩
  have hgroups : Infra.groupsBy (fun record => (Mongo.groupingOf plan).of record) kept =
      Infra.groupsBy (recordKey plan) kept := by
    refine Infra.groupsBy_congr fun x hx y hy => ?_
    unfold Mongo.groupingOf
    cases hid : Mongo.governing plan "_id" with
    | none =>
      dsimp only
      rw [if_neg ha.grouped, recordKey, recordKey]
      generalize plan.groupBy.map GroundedFieldRef.fieldPath = paths
      rw [Mongo.GroupId.of, Mongo.GroupId.of, Mongo.Identity.document.injEq, List.map_map, List.map_map,
        List.map_inj_left, List.map_inj_left]
      refine forall₂_congr fun path hpath => ?_
      exact ⟨fun heq => congrArg Prod.snd heq, fun heq => Prod.ext rfl heq⟩
    | some item =>
      -- one group either way
      obtain ⟨hnull, hidempotent⟩ := ha.identity item hid
      obtain ⟨hmem, hname⟩ := mem_of_governing hid
      have hkey : ∀ record ∈ kept, recordKey plan record =
          (plan.groupBy.map GroundedFieldRef.fieldPath).map fun _ => none := by
        intro record hrecord
        refine List.map_congr_left fun path hpath => ?_
        obtain ⟨ref, href, rfl⟩ := List.mem_map.mp hpath
        exact hnull ref href record (hall record hrecord)
      have hover : ∀ record ∈ kept, (Mongo.accumulatorOf item).over [record] =
          aggregateOf [record] item := by
        intro record hrecord
        refine over_eq_aggregateOf (List.cons_ne_nil _ _) fun hfunction ref href r hr => ?_
        rw [List.mem_singleton.mp hr]
        exact ha.present item (by rw [hname, hid]) hfunction ref href record (hall record hrecord)
      have hsame : aggregateOf [x] item = aggregateOf [y] item :=
        aggregateOf_idempotent hidempotent hmem (List.cons_ne_nil _ _) (List.cons_ne_nil _ _)
          (List.forall_mem_singleton.mpr (hall x hx)) (List.forall_mem_singleton.mpr (hall y hy))
      refine iff_of_true ?_ ((hkey x hx).trans (hkey y hy).symm)
      refine congrArg Mongo.Identity.scalar ?_
      rw [hover x hx, hover y hy, hsame]
  rw [hgroups]
  refine List.Perm.of_eq (List.map_congr_left fun group hgroup => List.map_congr_left fun name hname => ?_)
  have hne := Infra.ne_nil_of_mem_groupsBy hgroup
  refine recordRow_eq hp hsegments ha hne (fun record hrecord => ?_) hname
  obtain ⟨z, -, rfl⟩ := Infra.mem_groupsBy.mp hgroup
  exact hall record (List.mem_filter.mp hrecord).1

/-! ### What the same rows tell -/

omit hsegments in
theorem keeps_of_kept (hselects : ∀ record, Numeric plan record →
      ((sqlSelects t d plan plan.filters record ∧ sqlSelectsTime t d plan record) ↔
        (mongoSelects t plan.filters record ∧ mongoSelectsTime plan record)))
    {record : Record} (hrecord : Kept t d plan record) :
    keepsRecord t d plan record = true ∧ Mongo.keeps plan t record = true := by
  have hboth := And.intro hrecord.filters hrecord.time
  exact ⟨(keepsRecord_iff h hp.single hp.alone record).mpr hboth,
    (keeps_iff hp.filters).mpr ((hselects record hrecord.numeric).mp hboth)⟩

/-- One record is one group, whose rows are the same. -/
theorem row_of_single (hgroup : plan.groupBy ≠ []) {record : Record}
    (hsql : keepsRecord t d plan record = true) (hmongo : Mongo.keeps plan t record = true)
    (hsame : SameRows d plan q m [record]) {name : String} (hname : name ∈ resultNames plan) :
    recordRow plan [record] name = Mongo.groupedRow plan [record] name := by
  rw [sameRows_iff h hp hsegments hgroup, List.filter_cons_of_pos hsql, List.filter_cons_of_pos hmongo] at hsame
  have hone : ∀ {β : Type} [DecidableEq β] (key : Record → β), Infra.groupsBy key [record] = [[record]] := by
    intro β _ key
    simp [Infra.groupsBy, Infra.representatives]
  rw [List.filter_nil, List.filter_nil, hone, hone, List.map_singleton, List.map_singleton,
    List.singleton_perm_singleton] at hsame
  exact List.map_inj_left.mp hsame name hname

/-- Two records that are one group in SQL are one in MongoDB. -/
theorem row_of_pair (hgroup : plan.groupBy ≠ []) {x y : Record}
    (hx : keepsRecord t d plan x = true ∧ Mongo.keeps plan t x = true)
    (hy : keepsRecord t d plan y = true ∧ Mongo.keeps plan t y = true)
    (hkey : recordKey plan x = recordKey plan y) (hsame : SameRows d plan q m [x, y]) :
    (Mongo.groupingOf plan).of x = (Mongo.groupingOf plan).of y ∧
      ∀ name ∈ resultNames plan, recordRow plan [x, y] name = Mongo.groupedRow plan [x, y] name := by
  rw [sameRows_iff h hp hsegments hgroup, List.filter_cons_of_pos hx.1, List.filter_cons_of_pos hx.2,
    List.filter_cons_of_pos hy.1, List.filter_cons_of_pos hy.2, List.filter_nil, List.filter_nil] at hsame
  have htwo : ∀ {β : Type} [DecidableEq β] (key : Record → β),
      Infra.groupsBy key [x, y] = if key x = key y then [[x, y]] else [[x], [y]] := by
    intro β _ key
    by_cases hxy : key x = key y
    · simp [Infra.groupsBy, Infra.representatives, hxy]
    · simp [Infra.groupsBy, Infra.representatives, hxy, Ne.symm hxy]
  rw [htwo, htwo, if_pos hkey] at hsame
  by_cases hof : (Mongo.groupingOf plan).of x = (Mongo.groupingOf plan).of y
  · rw [if_pos hof, List.map_singleton, List.map_singleton, List.singleton_perm_singleton] at hsame
    exact ⟨hof, List.map_inj_left.mp hsame⟩
  · rw [if_neg hof] at hsame
    exact absurd hsame.length_eq (by simp)

theorem grouped_of_sameRows (haggregated : plan.aggregates ≠ [] ∨ plan.groupBy ≠ [])
    (hsame : SameRows d plan q m []) : plan.groupBy ≠ [] := by
  intro hnone
  obtain ⟨rows, rows', hrows, hrows', hperm⟩ := hsame
  have hitems : (meaning t plan).groupBy ≠ [] ∨ (meaning t plan).items.any Item.isAggregate := by
    refine Or.inr ?_
    have haggregates : plan.aggregates ≠ [] := by simpa [hnone] using haggregated
    obtain ⟨item, hitem⟩ := List.exists_mem_of_ne_nil _ haggregates
    refine List.any_eq_true.mpr ⟨itemOf (columnOf plan) item, ?_, rfl⟩
    rw [meaning, statementOf, List.mem_append]
    exact Or.inr (List.mem_map_of_mem hitem)
  have hgroups : groups d (fun _ => []) (meaning t plan) =
      [keptSources d (fun _ => []) (meaning t plan)] := by
    unfold groups
    rw [if_pos]
    rw [meaning, statementOf, hnone, List.map_nil]
  rw [sqlRows_meaning h hp.single hp.alone, selectRows, if_pos hitems, hgroups] at hrows
  rw [hp.mongoRows_eq hsegments] at hrows'
  obtain rfl := Option.some.inj hrows
  obtain rfl := Option.some.inj hrows'
  exact absurd hperm.length_eq (by simp [Infra.groupsBy, Infra.representatives])

theorem selects_of_sameRows (hgroup : plan.groupBy ≠ []) {record : Record}
    (hsame : SameRows d plan q m [record]) :
    (sqlSelects t d plan plan.filters record ∧ sqlSelectsTime t d plan record) ↔
      (mongoSelects t plan.filters record ∧ mongoSelectsTime plan record) := by
  rw [← keepsRecord_iff h hp.single hp.alone, ← keeps_iff hp.filters]
  rw [sameRows_iff h hp hsegments hgroup] at hsame
  have hlength := hsame.length_eq
  rw [List.length_map, List.length_map] at hlength
  by_cases hsql : keepsRecord t d plan record = true
  · by_cases hmongo : Mongo.keeps plan t record = true
    · exact iff_of_true hsql hmongo
    · rw [List.filter_cons_of_pos hsql, List.filter_cons_of_neg hmongo] at hlength
      simp [Infra.groupsBy, Infra.representatives] at hlength
  · by_cases hmongo : Mongo.keeps plan t record = true
    · rw [List.filter_cons_of_neg hsql, List.filter_cons_of_pos hmongo] at hlength
      simp [Infra.groupsBy, Infra.representatives] at hlength
    · exact iff_of_false hsql hmongo

theorem agreeing_of_sameRows (haggregated : plan.aggregates ≠ [] ∨ plan.groupBy ≠ [])
    (hsame : ∀ records : List Record, (∀ record ∈ records, Numeric plan record) →
      SameRows d plan q m records) : Agreeing t d plan := by
  have hgrouped := grouped_of_sameRows h hp hsegments haggregated (hsame [] nofun)
  have hselects : ∀ record, Numeric plan record →
      ((sqlSelects t d plan plan.filters record ∧ sqlSelectsTime t d plan record) ↔
        (mongoSelects t plan.filters record ∧ mongoSelectsTime plan record)) :=
    fun record hrecord => selects_of_sameRows h hp hsegments hgrouped
      (hsame [record] (List.forall_mem_singleton.mpr hrecord))
  have hsingle : ∀ {record : Record}, Kept t d plan record → ∀ name ∈ resultNames plan,
      recordRow plan [record] name = Mongo.groupedRow plan [record] name := by
    intro record hrecord name hname
    obtain ⟨hsql, hmongo⟩ := keeps_of_kept h hp hselects hrecord
    exact row_of_single h hp hsegments hgrouped hsql hmongo
      (hsame [record] (List.forall_mem_singleton.mpr hrecord.numeric)) hname
  have hover : ∀ {item name}, Mongo.governing plan name = some item → ∀ {record}, Kept t d plan record →
      (Mongo.accumulatorOf item).over [record] = aggregateOf [record] item := by
    intro item name hitem record hrecord
    obtain ⟨hmem, rfl⟩ := mem_of_governing hitem
    have hrow := hsingle hrecord item.alias_ (List.mem_append_right _ (List.mem_map_of_mem hmem))
    rw [recordRow_alias hitem, Mongo.groupedRow_alias hitem] at hrow
    rw [hrow]
    split <;> rfl
  have hpresent : ∀ {item name}, Mongo.governing plan name = some item →
      item.function = .count ∨ item.function = .sum → ∀ ref ∈ item.field,
        ∀ record, Kept t d plan record → record ref.fieldPath ≠ none :=
    fun hitem hfunction ref href record hrecord => present_of_over (hover hitem hrecord) hfunction href
  refine ⟨hgrouped, hselects, fun item hitem => hpresent hitem, fun item hitem => ?_⟩
  obtain ⟨hmem, hname⟩ := mem_of_governing hitem
  have hid : "_id" ∈ resultNames plan :=
    List.mem_append_right _ (List.mem_map.mpr ⟨item, hmem, hname⟩)
  have hnull : ∀ ref ∈ plan.groupBy, ∀ record, Kept t d plan record → record ref.fieldPath = none := by
    intro ref href record hrecord
    have hpath := List.mem_map_of_mem (f := GroundedFieldRef.fieldPath) href
    have hnone := hp.governing_eq_none hsegments hpath
    have hrow := hsingle hrecord ref.fieldPath (List.mem_append_left _ hpath)
    rw [recordRow_group href hnone,
      Mongo.groupedRow_none hnone fun hboth => by rw [hitem] at hboth; cases hboth.1] at hrow
    exact hrow
  refine ⟨hnull, ?_⟩
  -- two records are one group, and the row of MongoDB is that of the first
  have hpair : ∀ {x y : Record}, Kept t d plan x → Kept t d plan y →
      aggregateOf [x] item = aggregateOf [y] item ∧ aggregateOf [x, y] item = aggregateOf [x] item := by
    intro x y hx hy
    have hkey : recordKey plan x = recordKey plan y := by
      refine List.map_congr_left fun path hpath => ?_
      obtain ⟨ref, href, rfl⟩ := List.mem_map.mp hpath
      rw [hnull ref href x hx, hnull ref href y hy]
    have hnumeric : ∀ record ∈ [x, y], Numeric plan record :=
      List.forall_mem_cons.mpr ⟨hx.numeric, List.forall_mem_singleton.mpr hy.numeric⟩
    obtain ⟨hof, hrows⟩ := row_of_pair h hp hsegments hgrouped (keeps_of_kept h hp hselects hx)
      (keeps_of_kept h hp hselects hy) hkey (hsame [x, y] hnumeric)
    have hrow := hrows "_id" hid
    have hfirst : List.take 1 [x, y] = [x] := rfl
    rw [recordRow_alias hitem, Mongo.groupedRow_alias hitem, if_pos rfl, hfirst, hover hitem hx] at hrow
    have hgrouping : Mongo.groupingOf plan = .computed (Mongo.accumulatorOf item) := by
      unfold Mongo.groupingOf
      rw [hitem]
    rw [hgrouping] at hof
    refine ⟨?_, hrow⟩
    rw [← hover hitem hx, ← hover hitem hy]
    exact Mongo.Identity.scalar.inj hof
  have hcounts : item.function = .count → ∀ record, ¬ Kept t d plan record := by
    intro hfunction record hrecord
    obtain ⟨-, htwice⟩ := hpair hrecord hrecord
    unfold aggregateOf at htwice
    have hdifferent : (some (countOf [record, record]) : Option Datum) ≠ some (countOf [record]) := by
      intro heq
      have hnumbers : Rat.ofInt 2 = Rat.ofInt 1 := Datum.number.inj (Option.some.inj heq)
      exact absurd hnumbers (by decide)
    cases hfield : item.field with
    | none =>
      rw [hfield] at htwice
      exact hdifferent htwice
    | some ref =>
      have hvalue := hpresent hitem (Or.inl hfunction) ref hfield record hrecord
      obtain ⟨v, hv⟩ := Option.ne_none_iff_exists'.mp hvalue
      rw [hfield, hfunction] at htwice
      simp only [List.map_cons, List.map_nil, hv] at htwice
      exact hdifferent htwice
  unfold Idempotent
  cases hfield : item.field with
  | none =>
    have hfunction : item.function = .count := by
      by_contra hother
      have hrequired := item.field_required hother
      rw [hfield] at hrequired
      cases hrequired
    rw [hfunction]
    exact hcounts hfunction
  | some ref =>
    have hconst : item.function ≠ .count → item.function ≠ .sum → ∀ r r', Kept t d plan r →
        Kept t d plan r' → r ref.fieldPath = r' ref.fieldPath := by
      intro hcount hsum r r' hr hr'
      obtain ⟨v, hv⟩ := hr.numeric.value hmem hcount hfield
      obtain ⟨v', hv'⟩ := hr'.numeric.value hmem hcount hfield
      obtain ⟨hsame', -⟩ := hpair hr hr'
      rw [aggregateOf_const (List.cons_ne_nil _ _) hfield hcount hsum (List.forall_mem_singleton.mpr hv),
        aggregateOf_const (List.cons_ne_nil _ _) hfield hcount hsum (List.forall_mem_singleton.mpr hv')]
        at hsame'
      rw [hv, hv', hsame']
    cases hfunction : item.function with
    | count => exact hcounts hfunction
    | sum =>
      intro record hrecord
      have hvalue := hpresent hitem (Or.inr hfunction) ref hfield record hrecord
      obtain ⟨v, hv⟩ := hrecord.numeric.value hmem (by simp [hfunction]) hfield
      cases v with
      | none => exact absurd hv hvalue
      | some x =>
        have hall : ∀ r ∈ [record, record], r ref.fieldPath = some (.number x) :=
          List.forall_mem_cons.mpr ⟨hv, List.forall_mem_singleton.mpr hv⟩
        obtain ⟨-, htwice⟩ := hpair hrecord hrecord
        rw [aggregateOf_sum (List.cons_ne_nil _ _) hfield hfunction hall,
          aggregateOf_sum (List.cons_ne_nil _ _) hfield hfunction (List.forall_mem_singleton.mpr hv)]
          at htwice
        -- twice a number is that number
        have hdouble : ((2 : ℕ) : ℚ) * x = ((1 : ℕ) : ℚ) * x := Datum.number.inj (Option.some.inj htwice)
        have hzero : x = 0 := by
          push_cast at hdouble
          linarith
        rw [hv, hzero]
        rfl
    | average | minimum | maximum => exact hconst (by simp [hfunction]) (by simp [hfunction])

end Compiled

section Sample

def statusRef : GroundedFieldRef := sampleRef "orders" "status" Contracts.length_orders (by decide)

/-- One aggregate of the orders of each status. -/
def statusPlan (item : PlanAggregate) : GroundedQueryPlan :=
  { fieldPlan "status" (by decide) with
    aggregates := [item], groupBy := [statusRef], output := Or.inl (by simp)
    groupBy_selected := by decide }

theorem count_fieldless : AggregateFunction.count ≠ .count → (none : Option GroundedFieldRef).isSome = true :=
  fun h => absurd rfl h

def countItem : PlanAggregate := ⟨.count, none, "orders", Contracts.length_orders, count_fieldless⟩

def sumItem : PlanAggregate :=
  ⟨.sum, some (sampleRef "orders" "amount" Contracts.length_orders (by decide)), "total", by decide, by decide⟩

/-- An order that is paid and has no amount. -/
def paidOrder : Record := fun path => if path = "status" then some (.text "paid") else none

end Sample

end Agreement

end Querying
