import Qaneris.Querying.Evaluation
import Qaneris.Querying.Properties.Meaning

/-!
# Reading conditions back

* `readCondition_eq` — a condition with its parameters is read back as the predicate it was written for
* `whereTruth_eq` — a `WHERE` of such conditions is true of a record if and only if each predicate is
* `filterHolds_matchOf` — a filter of clauses holds of a record if and only if each clause does
-/

namespace Querying

open Contracts
open Infra (Truth)

/-! ## SQL -/

section Sql

variable {d : Driver}

theorem readCondition_eq {condition : String × List Value} {p : Predicate ColumnName Value}
    (h : Says d condition p) (hname : IsWord p.column.alias_) :
    readCondition d condition = some p := by
  have htold : Told d p.cells := told_predicate hname
  have hvalues : condition.2 = values p.cells := by rw [values_predicate, h.values]
  have hreads := reads_predicate p h.isIn []
  rw [List.append_nil] at hreads
  rw [readCondition, h.text, Infra.lex_render (isWord_quote d) htold.clean]
  simp only [Option.bind_eq_bind, Option.bind_some]
  rw [holes_unbind htold.plain, hvalues, fill_hole]
  simp only [Option.bind_some]
  rw [hreads]
  rfl

theorem whereTruth_eq {conditions : List (String × List Value)}
    {ps : List (Predicate ColumnName Value)} (h : List.Forall₂ (Says d) conditions ps)
    (hname : ∀ p ∈ ps, IsWord p.column.alias_) (record : Record) :
    whereTruth d record conditions = some (Truth.all (ps.map fun p =>
      p.test.truth d.collation (record p.column.path))) := by
  have hread : conditions.mapM (readCondition d) = some ps := by
    induction h with
    | nil => rfl
    | cons hsays _ ih =>
      rw [List.mapM_cons, readCondition_eq hsays (hname _ List.mem_cons_self),
        ih fun p hp => hname p (List.mem_cons_of_mem _ hp)]
      rfl
  rw [whereTruth, hread]
  rfl

theorem whereTruth_eq_true {conditions : List (String × List Value)}
    {ps : List (Predicate ColumnName Value)} (h : List.Forall₂ (Says d) conditions ps)
    (hname : ∀ p ∈ ps, IsWord p.column.alias_) (record : Record) :
    whereTruth d record conditions = some (some true) ↔
      ∀ p ∈ ps, p.test.truth d.collation (record p.column.path) = some true := by
  rw [whereTruth_eq h hname, Option.some_inj, Truth.all_eq_true, List.forall_mem_map]

variable {t : Texts} {plan : GroundedQueryPlan}

/-- A filter of a field of the plan is refused only for its operator and its value. -/
theorem filter_eq {item : PlanFilter} (h : item.field.dataObjectId ∈ plan.dataObjectIds) :
    ∃ column, SQLCompiler.filter t d plan item =
      SQLCompiler.predicate t d column item.operator item.value := by
  refine ⟨SQLCompiler.aliasOf plan item.field.dataObjectId ++ "." ++
    SQLCompiler.quote d item.field.fieldPath, ?_⟩
  rw [SQLCompiler.filter, SQLCompiler.field, if_pos h]
  rfl

/-- The filters of a plan as a `WHERE`. -/
theorem where_filters {filters : List PlanFilter} {conditions : List (String × List Value)}
    (h : filters.mapM (SQLCompiler.filter t d plan) = .ok conditions) (record : Record) :
    whereTruth d record conditions = some (some true) ↔
      ∀ item ∈ filters, (testOf t item.operator item.value).truth d.collation
        (record item.field.fieldPath) = some true := by
  have hsays : List.Forall₂ (Says d) conditions (filters.map (predicateOf t (nameOf plan))) := by
    rw [List.forall₂_map_right_iff]
    exact ((Infra.forall₂_of_mapM h).imp fun item condition hitem => (filter_ok hitem).2).flip
  have hname : ∀ p ∈ filters.map (predicateOf t (nameOf plan)), IsWord p.column.alias_ := by
    intro p hp
    obtain ⟨item, -, rfl⟩ := List.mem_map.mp hp
    exact isWord_aliasOf item.field.dataObjectId
  rw [whereTruth_eq_true hsays hname, List.forall_mem_map]
  rfl

end Sql

/-! ## MongoDB -/

namespace Mongo

variable {record : Record}

/-! ### What each operator says -/

section Operators

variable (v : Option Datum) (w : Value)

theorem operatorHolds_eq : operatorHolds v ("$eq", w) = some (equals v w) := by
  simp [operatorHolds]

theorem operatorHolds_ne : operatorHolds v ("$ne", w) = some (!equals v w) := by
  simp [operatorHolds]

theorem operatorHolds_gt : operatorHolds v ("$gt", w) = some (ordered v .gt w) := by
  simp [operatorHolds]

theorem operatorHolds_gte :
    operatorHolds v ("$gte", w) = some (equals v w || ordered v .ge w) := by
  simp [operatorHolds]

theorem operatorHolds_lt : operatorHolds v ("$lt", w) = some (ordered v .lt w) := by
  simp [operatorHolds]

theorem operatorHolds_lte :
    operatorHolds v ("$lte", w) = some (equals v w || ordered v .le w) := by
  simp [operatorHolds]

theorem operatorHolds_in (ws : List Value) :
    operatorHolds v ("$in", .list ws) = some (ws.any (equals v)) := by
  simp [operatorHolds, Value.items?]

theorem operatorHolds_regex (v : Datum) :
    operatorHolds (some v) ("$regex", w) = collation.search v w := by
  simp [operatorHolds]

end Operators

/-! ### Clauses -/

theorem documentHolds_field (path : String) (conditions : List (String × Value)) :
    documentHolds record [(path, .dict conditions)] =
      (conditions.mapM (operatorHolds (record path))).map (·.all id) := by
  rw [documentHolds, List.mapM_cons, List.mapM_nil, fieldHolds]
  cases conditions.mapM (operatorHolds (record path)) with
  | none => rfl
  | some holds => simp

/-- A clause that says one thing of a field. -/
theorem documentHolds_operator (path operator : String) (w : Value) :
    documentHolds record [(path, .dict [(operator, w)])] =
      operatorHolds (record path) (operator, w) := by
  rw [documentHolds_field, List.mapM_cons, List.mapM_nil]
  cases operatorHolds (record path) (operator, w) with
  | none => rfl
  | some holds => simp

/-- A clause that says two things of a field. -/
theorem documentHolds_operators (path operator operator' : String) (w w' : Value) :
    documentHolds record [(path, .dict [(operator, w), (operator', w')])] =
      (operatorHolds (record path) (operator, w)).bind fun holds =>
        (operatorHolds (record path) (operator', w')).map fun holds' => holds && holds' := by
  rw [documentHolds_field, List.mapM_cons, List.mapM_cons, List.mapM_nil]
  cases operatorHolds (record path) (operator, w) with
  | none => rfl
  | some holds =>
    cases operatorHolds (record path) (operator', w') with
    | none => rfl
    | some holds' => simp

theorem filterHolds_clause (path : String) (conditions : List (String × Value)) :
    filterHolds record (MongoCompiler.matchOf [[(path, .dict conditions)]]) =
      documentHolds record [(path, .dict conditions)] := by
  rw [MongoCompiler.matchOf, filterHolds]
  simp

theorem filterHolds_matchOf {clauses : List (List (String × Value))}
    (h : ∀ clause ∈ clauses, ∃ path conditions, clause = [(path, .dict conditions)]) :
    filterHolds record (MongoCompiler.matchOf clauses) =
      (clauses.mapM (documentHolds record)).map (·.all id) := by
  match clauses, h with
  | [], _ => rfl
  | [clause], h =>
    obtain ⟨path, conditions, rfl⟩ := h clause List.mem_cons_self
    rw [filterHolds_clause, List.mapM_cons, List.mapM_nil]
    cases documentHolds record [(path, .dict conditions)] with
    | none => rfl
    | some holds => simp
  | clause :: clause' :: clauses, _ =>
    have hmatch : MongoCompiler.matchOf (clause :: clause' :: clauses) =
        [("$and", .list ((clause :: clause' :: clauses).map .dict))] := rfl
    rw [hmatch, filterHolds, List.mapM_map]
    rfl

/-- Clauses that say one thing each say all of them together. -/
theorem documents_hold {α : Type} {P : α → Prop} {as : List α} {clauses : List (List (String × Value))}
    (h : List.Forall₂ (fun a clause => ∃ holds : Bool, documentHolds record clause = some holds ∧
      (holds ↔ P a)) as clauses) :
    ∃ holds : Bool, (clauses.mapM (documentHolds record)).map (·.all id) = some holds ∧
      (holds ↔ ∀ a ∈ as, P a) := by
  induction h with
  | nil => exact ⟨true, rfl, by simp⟩
  | @cons a clause as clauses hclause _ ih =>
    obtain ⟨holds, hholds, hP⟩ := hclause
    obtain ⟨rest, hrest, hall⟩ := ih
    obtain ⟨bs, hbs, rfl⟩ := Option.map_eq_some_iff.mp hrest
    refine ⟨(holds :: bs).all id, ?_, ?_⟩
    · rw [List.mapM_cons, hholds, hbs]
      rfl
    · rw [List.forall_mem_cons, ← hP, ← hall, List.all_cons, Bool.and_eq_true, id_eq]

end Mongo

end Querying
