import Qaneris.Querying.Properties.Conditions
import Qaneris.Querying.Properties.Placeholders

/-!
# What filters select

* `contains_literal_iff` — for which texts a search by `LIKE` is a search for the text as it stands
* `filters_agree_iff` — for which filters and records the two compilers agree
-/

namespace Querying

open Contracts
open Infra (Truth bind_ok)

/-! ## Selecting -/

section Select

variable (t : Texts) (d : Driver) (plan : GroundedQueryPlan) (filters : List PlanFilter)
  (record : Record)

/-- The SQL compiler takes the filters, and a `WHERE` of their conditions keeps the record. -/
def sqlSelects : Bool :=
  (filters.mapM (SQLCompiler.filter t d plan)).toOption.any fun conditions =>
    whereTruth d record conditions = some (some true)

/-- The MongoDB compiler takes the filters, and their filter matches the record. -/
def mongoSelects : Bool :=
  (filters.mapM (MongoCompiler.clause t)).toOption.any fun clauses =>
    Mongo.filterHolds record (MongoCompiler.matchOf clauses) = some true

variable {t d plan filters record}

theorem sqlSelects_iff {conditions : List (String × List Value)}
    (h : filters.mapM (SQLCompiler.filter t d plan) = .ok conditions) :
    sqlSelects t d plan filters record ↔
      ∀ item ∈ filters, (testOf t item.operator item.value).truth d.collation
        (record item.field.fieldPath) = some true := by
  rw [sqlSelects, h, ← where_filters h]
  simp [Except.toOption]

theorem mongoSelects_iff {clauses : List (List (String × Value))}
    (h : filters.mapM (MongoCompiler.clause t) = .ok clauses) :
    mongoSelects t filters record ↔
      Mongo.filterHolds record (MongoCompiler.matchOf clauses) = some true := by
  rw [mongoSelects, h]
  simp [Except.toOption]

end Select

/-! ## Texts that contain a text -/

section Contains

variable {t : Texts} {d : Driver} {plan : GroundedQueryPlan} {field : GroundedFieldRef}
  {record : Record}

def containsFilter (field : GroundedFieldRef) (v : String) : PlanFilter where
  field := field
  operator := .contains
  value := .str v

theorem escape_ne_percent (d : Driver) : d.escape ≠ some '%' := by
  cases d <;> decide

/-- The pattern that SQL is given for a text. -/
theorem sqlSelects_contains (hfield : field.dataObjectId ∈ plan.dataObjectIds) (v : String)
    {s : String} (hrecord : record field.fieldPath = some (.text s)) :
    sqlSelects t.standard d plan [containsFilter field v] record ↔
      Infra.matchTokens (Infra.patternTokens d.escape ('%' :: (v.toList ++ ['%']))) s.toList := by
  obtain ⟨conditions, hconditions⟩ : ∃ conditions,
      [containsFilter field v].mapM (SQLCompiler.filter t.standard d plan) = .ok conditions := by
    refine Infra.mapM_ok fun item hitem => ?_
    obtain rfl := List.mem_singleton.mp hitem
    obtain ⟨column, hcolumn⟩ : ∃ column, SQLCompiler.filter t.standard d plan (containsFilter field v) =
      SQLCompiler.predicate t.standard d column .contains (.str v) := filter_eq hfield
    exact ⟨_, hcolumn⟩
  rw [sqlSelects_iff hconditions, List.forall_mem_singleton]
  have hpattern : ("%" ++ v ++ "%").toList = '%' :: (v.toList ++ ['%']) := by
    simp [String.toList_append]
  rw [containsFilter, testOf, Test.truth, hrecord, Option.bind_some, ← hpattern]
  exact Option.some_inj

theorem mongoSelects_contains (v : String) {s : String}
    (hrecord : record field.fieldPath = some (.text s)) :
    mongoSelects t.standard [containsFilter field v] record ↔ v.toList <:+: s.toList := by
  have hclauses : [containsFilter field v].mapM (MongoCompiler.clause t.standard) =
      .ok [[(field.fieldPath, .dict [("$regex", .str (t.standard.escape v))])]] := rfl
  rw [mongoSelects_iff hclauses, Mongo.filterHolds_clause, Mongo.documentHolds_operator, hrecord,
    Mongo.operatorHolds_regex]
  simp only [Mongo.collation, Texts.standard, Infra.regexFinds, String.toList_ofList,
    Infra.literalOf_reEscape, Option.map_some, Option.some_inj, decide_eq_true_eq]

/-- **`LIKE` searches for a text as it stands, as MongoDB does, if and only if the text has no wildcard
and no escape character of the driver.** -/
theorem contains_literal_iff (hfield : field.dataObjectId ∈ plan.dataObjectIds) (v : String) :
    (∀ (s : String) (record : Record), record field.fieldPath = some (.text s) →
      (sqlSelects t.standard d plan [containsFilter field v] record ↔ v.toList <:+: s.toList) ∧
        (mongoSelects t.standard [containsFilter field v] record ↔
          sqlSelects t.standard d plan [containsFilter field v] record)) ↔
      Infra.Literal d.escape v.toList := by
  rw [← Infra.like_infix_iff (escape_ne_percent d)]
  constructor
  · intro h text
    have hrecord := h (String.ofList text) (fun _ => some (.text (String.ofList text))) rfl
    rw [sqlSelects_contains hfield v rfl, String.toList_ofList] at hrecord
    exact hrecord.1
  · intro h s record hrecord
    rw [mongoSelects_contains v hrecord, sqlSelects_contains hfield v hrecord]
    exact ⟨h s.toList, (h s.toList).symm⟩

/-- The note of an order. -/
def noteRef : GroundedFieldRef := sampleRef "orders" "note" Contracts.length_orders (by decide)

def notePlan : GroundedQueryPlan := fieldPlan "note" (by decide)

theorem contains_literal_sample :
    (∀ (s : String) (record : Record), record "note" = some (.text s) →
      (sqlSelects sampleTexts.standard .postgresql notePlan [containsFilter noteRef "50 euros"] record ↔
        "50 euros".toList <:+: s.toList) ∧
        (mongoSelects sampleTexts.standard [containsFilter noteRef "50 euros"] record ↔
          sqlSelects sampleTexts.standard .postgresql notePlan
            [containsFilter noteRef "50 euros"] record)) ↔
      Infra.Literal (some '\\') "50 euros".toList :=
  contains_literal_iff (show noteRef.dataObjectId ∈ notePlan.dataObjectIds by decide) "50 euros"

/-- A percent sign of the value is a wildcard for SQL and a percent sign for MongoDB. -/
theorem percent_is_wildcard :
    let record : Record := fun _ => some (.text "50 euros")
    sqlSelects sampleTexts.standard .sqlite notePlan [containsFilter noteRef "50%"] record ∧
      ¬ "50%".toList <:+: "50 euros".toList ∧
      ¬ mongoSelects sampleTexts.standard [containsFilter noteRef "50%"] record := by
  decide

end Contains

/-! ## Filters on both sides -/

section Sides

/-- Neither compiler takes the filter: its operator is given too few values. -/
def Refused (item : PlanFilter) : Bool :=
  match item.operator, item.value.items? with
  | .between, some [_, _] => false
  | .between, _ => true
  | .in_, some (_ :: _) => false
  | .in_, _ => true
  | _, _ => false

/-- Only the SQL compiler refuses the filter: it compares with `NULL`. -/
def RefusedNull (item : PlanFilter) : Bool :=
  match item.operator with
  | .greaterThan | .greaterOrEqual | .lessThan | .lessOrEqual => item.value = .null
  | .in_ => .null ∈ item.value.items?.getD []
  | _ => false

/-- What a filter asks of the value of its field, in a relational database. -/
def Met (t : Texts) (d : Driver) (item : PlanFilter) (v : Option Datum) : Prop :=
  (testOf t item.operator item.value).truth d.collation v = some true

instance (t : Texts) (d : Driver) (item : PlanFilter) (v : Option Datum) : Decidable (Met t d item v) :=
  inferInstanceAs (Decidable (_ = _))

def Datum.isMoment : Datum → Bool
  | .moment _ => true
  | _ => false

/-- The value is none of the type of `w`. -/
def Unlike (v : Option Datum) (w : Value) : Prop := v.bind (compareAlike · w) = none

instance (v : Option Datum) (w : Value) : Decidable (Unlike v w) := inferInstanceAs (Decidable (_ = _))

/-- MongoDB matches the value though the filter does not ask for it: it is missing, or of another type,
and therefore different from what the filter names, or it is missing and lies between two nulls. -/
def Loose (t : Texts) (d : Driver) (item : PlanFilter) (v : Option Datum) : Prop :=
  ¬ Met t d item v ∧
    ((item.operator = .notEquals ∧ item.value ≠ .null ∧ Unlike v (SQLCompiler.value t item.value)) ∨
      (item.operator = .between ∧ item.value.items? = some [.null, .null] ∧ v = none))

/-- MongoDB does not match the value though the filter asks for it: it is a date, and is compared with a
text. -/
def Missed (t : Texts) (d : Driver) (item : PlanFilter) (v : Option Datum) : Prop :=
  Met t d item v ∧ item.operator ≠ .notEquals ∧ v.any Datum.isMoment

instance (t : Texts) (d : Driver) (item : PlanFilter) (v : Option Datum) :
    Decidable (Loose t d item v) := inferInstanceAs (Decidable (_ ∧ _))

instance (t : Texts) (d : Driver) (item : PlanFilter) (v : Option Datum) :
    Decidable (Missed t d item v) := inferInstanceAs (Decidable (_ ∧ _))

variable {t : Texts} {d : Driver} {plan : GroundedQueryPlan} {item : PlanFilter}

/-! ### What is refused -/

theorem filter_ok_iff (hfield : item.field.dataObjectId ∈ plan.dataObjectIds)
    (hoperator : item.operator ≠ .contains) :
    (∃ condition, SQLCompiler.filter t d plan item = .ok condition) ↔
      Refused item = false ∧ RefusedNull item = false := by
  obtain ⟨column, hcolumn⟩ := filter_eq (t := t) (d := d) hfield
  rw [hcolumn]
  obtain ⟨field, operator, v⟩ := item
  unfold SQLCompiler.predicate Refused RefusedNull
  by_cases hv : v = .null
  · subst hv
    cases operator <;> simp [Value.items?] at hoperator ⊢
  · rw [if_neg hv]
    cases operator with
    | contains => exact absurd rfl hoperator
    | equals | notEquals => simp [SQLCompiler.simple]
    | greaterThan | greaterOrEqual | lessThan | lessOrEqual => simp [SQLCompiler.simple, hv]
    | in_ =>
      cases hitems : v.items? with
      | none => simp [SQLCompiler.simple]
      | some items =>
        cases items with
        | nil => simp [SQLCompiler.simple]
        | cons w ws =>
          by_cases hnull : .null ∈ w :: ws
          · simp [SQLCompiler.simple, hnull]
          · simp [SQLCompiler.simple, hnull]
    | between =>
      cases hitems : v.items? with
      | none => simp [SQLCompiler.simple]
      | some items =>
        rcases items with _ | ⟨low, _ | ⟨high, _ | ⟨w, ws⟩⟩⟩ <;> simp [SQLCompiler.simple]

theorem clause_ok_iff (hoperator : item.operator ≠ .contains) :
    (∃ clause, MongoCompiler.clause t item = .ok clause) ↔ Refused item = false := by
  obtain ⟨field, operator, v⟩ := item
  unfold MongoCompiler.clause Refused
  cases operator with
  | contains => exact absurd rfl hoperator
  | equals | notEquals | greaterThan | greaterOrEqual | lessThan | lessOrEqual =>
    simp [MongoCompiler.operatorName]
  | in_ =>
    cases hitems : v.items? with
    | none => simp
    | some items => cases items <;> simp
  | between =>
    cases hitems : v.items? with
    | none => simp
    | some items =>
      match items with
      | [] | [_] | _ :: _ :: _ :: _ => simp
      | [low, high] => simp

/-! ### What is compared -/

theorem value_eq (w : Value) : MongoCompiler.value t w = SQLCompiler.value t w := by
  cases w <;> rfl

theorem value_null : SQLCompiler.value t .null = .null := rfl

theorem value_eq_null {w : Value} : SQLCompiler.value t w = .null ↔ w = .null := by
  cases w <;> simp [SQLCompiler.value]

theorem compareAlike_null (v : Datum) : compareAlike v .null = none := by
  cases v <;> rfl

theorem order_null (v : Option Datum) : d.collation.order v .null = none := by
  rcases v with - | (b | q | s | m) <;> rfl

theorem order_missing (c : Collation) (w : Value) : c.order none w = none := rfl

theorem mongo_order_null (v : Option Datum) : Mongo.collation.order v .null = none := by
  rcases v with - | (b | q | s | m) <;> rfl

/-- MongoDB compares as the relational databases do, but for dates, which it compares with no text. -/
theorem mongo_order (v : Option Datum) (w : Value) :
    Mongo.collation.order v (SQLCompiler.value t w) =
      if v.any Datum.isMoment then none else d.collation.order v (SQLCompiler.value t w) := by
  rcases v with - | (b | q | s | m)
  · rfl
  · rfl
  · rfl
  · rfl
  · cases w <;> rfl

theorem order_alike {v : Option Datum} (h : v.any Datum.isMoment = false) (w : Value) :
    d.collation.order v w = v.bind (compareAlike · w) := by
  rcases v with - | (b | q | s | m)
  · rfl
  · rfl
  · rfl
  · rfl
  · cases h

theorem compareTruth_iff {c : Collation} {v : Option Datum} {op : Comparison} {w : Value} :
    compareTruth c v op w = some true ↔ ∃ o, c.order v w = some o ∧ op.holds o := by
  rw [compareTruth, Option.map_eq_some_iff]

theorem ordered_iff {v : Option Datum} {op : Comparison} {w : Value} :
    Mongo.ordered v op (SQLCompiler.value t w) ↔
      compareTruth d.collation v op (SQLCompiler.value t w) = some true ∧
        v.any Datum.isMoment = false := by
  rw [Mongo.ordered, mongo_order (d := d), compareTruth_iff, Option.any_eq_true]
  by_cases hmoment : v.any Datum.isMoment = true
  · rw [if_pos hmoment]
    simp [hmoment]
  · rw [if_neg hmoment]
    simp [Bool.not_eq_true _ ▸ hmoment]

theorem equals_null (v : Option Datum) : Mongo.equals v .null = decide (v = none) := rfl

theorem equals_iff {v : Option Datum} {w : Value} (hw : w ≠ .null) :
    Mongo.equals v (SQLCompiler.value t w) ↔
      compareTruth d.collation v .eq (SQLCompiler.value t w) = some true ∧
        v.any Datum.isMoment = false := by
  rw [← ordered_iff, Mongo.equals, if_neg fun h => hw (value_eq_null.mp h), Mongo.ordered]
  cases Mongo.collation.order v (SQLCompiler.value t w) <;> simp [Comparison.holds]

/-- An inclusive boundary that is no null. -/
theorem equals_or_ordered {v : Option Datum} {w : Value} {op : Comparison} (hw : w ≠ .null)
    (hop : op.holds .eq) : (Mongo.equals v w || Mongo.ordered v op w) = Mongo.ordered v op w := by
  rw [Bool.or_eq_right_iff_imp]
  intro heq
  rw [Mongo.equals, if_neg hw, decide_eq_true_eq] at heq
  rw [Mongo.ordered, heq]
  exact hop

theorem value_ne_null {w : Value} (hw : w ≠ .null) : SQLCompiler.value t w ≠ .null :=
  mt value_eq_null.mp hw

/-- An inclusive boundary that is a null. -/
theorem equals_or_ordered_null (v : Option Datum) (op : Comparison) :
    (Mongo.equals v .null || Mongo.ordered v op .null) = decide (v = none) := by
  rw [Mongo.ordered, mongo_order_null, equals_null, Option.any_none, Bool.or_false]

/-! ### What a clause matches -/

/-- What MongoDB makes of a filter, in terms of what the filter asks. -/
def Matched (t : Texts) (d : Driver) (item : PlanFilter) (v : Option Datum) : Prop :=
  (Met t d item v ∧ ¬ Missed t d item v) ∨ Loose t d item v

instance (t : Texts) (d : Driver) (item : PlanFilter) (v : Option Datum) :
    Decidable (Matched t d item v) := inferInstanceAs (Decidable (_ ∨ _))

/-- A filter that is neither a comparison with a null nor `!=` is matched when it is asked for, by
anything but a date. -/
theorem matched_iff {v : Option Datum} (hne : item.operator ≠ .notEquals)
    (hbetween : item.operator = .between → item.value.items? ≠ some [.null, .null]) :
    Matched t d item v ↔ Met t d item v ∧ v.any Datum.isMoment = false := by
  have hloose : ¬ Loose t d item v := by
    rintro ⟨-, ⟨hop, -⟩ | ⟨hop, hnull, -⟩⟩
    · exact hne hop
    · exact hbetween hop hnull
  rw [Matched, Missed]
  constructor
  · rintro (⟨hmet, hmissed⟩ | h)
    · refine ⟨hmet, ?_⟩
      rw [← Bool.not_eq_true]
      exact fun hmoment => hmissed ⟨hmet, hne, hmoment⟩
    · exact absurd h hloose
  · rintro ⟨hmet, hmoment⟩
    exact .inl ⟨hmet, fun hmissed => by rw [hmissed.2.2] at hmoment; cases hmoment⟩

section Operators

variable (field : GroundedFieldRef) {w : Value} {v : Option Datum}

theorem equals_matched :
    Mongo.equals v (SQLCompiler.value t w) ↔ Matched t d ⟨field, .equals, w⟩ v := by
  rw [matched_iff (by simp) (by simp), Met, testOf]
  by_cases hw : w = .null
  · subst hw
    rw [if_pos rfl, value_null, equals_null, Test.truth]
    cases v <;> simp
  · rw [if_neg hw, equals_iff hw]
    rfl

theorem notEquals_matched :
    (!Mongo.equals v (SQLCompiler.value t w)) ↔ Matched t d ⟨field, .notEquals, w⟩ v := by
  have hmissed : ¬ Missed t d ⟨field, .notEquals, w⟩ v := fun h => h.2.1 rfl
  rw [Matched, Bool.not_eq_true']
  simp only [hmissed, not_false_iff, and_true]
  by_cases hw : w = .null
  · subst hw
    have hloose : ¬ Loose t d ⟨field, .notEquals, .null⟩ v := by
      rintro ⟨-, ⟨-, hnull, -⟩ | ⟨hop, -⟩⟩
      · exact hnull rfl
      · cases hop
    rw [or_iff_left hloose, Met, testOf, if_pos rfl, value_null, equals_null, Test.truth]
    simp
  · have hloose : Loose t d ⟨field, .notEquals, w⟩ v ↔
        ¬ Met t d ⟨field, .notEquals, w⟩ v ∧ Unlike v (SQLCompiler.value t w) := by
      simp [Loose, hw]
    have hmet : Met t d ⟨field, .notEquals, w⟩ v ↔
        compareTruth d.collation v .ne (SQLCompiler.value t w) = some true := by
      rw [Met, testOf, if_neg hw]
      rfl
    rw [hloose, hmet, Mongo.equals, if_neg fun h => hw (value_eq_null.mp h), mongo_order (d := d),
      decide_eq_false_iff_not]
    by_cases hmoment : v.any Datum.isMoment = true
    · -- a date is different from every text
      have hunlike : Unlike v (SQLCompiler.value t w) := by
        rcases v with - | (b | q | s | m) <;> first | rfl | cases hmoment
      rw [if_pos hmoment]
      simp [hunlike, Classical.em]
    · rw [if_neg hmoment, compareTruth_iff, order_alike (Bool.not_eq_true _ ▸ hmoment), Unlike]
      cases v.bind (compareAlike · (SQLCompiler.value t w)) with
      | none => simp
      | some o => simp [Comparison.holds]

/-- A comparison of which one side is no null. -/
theorem ordered_matched {operator : FilterOperator} {op : Comparison}
    (hne : operator ≠ .notEquals) (hbetween : operator ≠ .between)
    (htest : testOf t operator w = .compare op (SQLCompiler.value t w)) :
    Mongo.ordered v op (SQLCompiler.value t w) ↔ Matched t d ⟨field, operator, w⟩ v := by
  rw [matched_iff hne fun h => absurd h hbetween, ordered_iff (d := d), Met, htest]
  rfl

theorem in_matched {ws : List Value} (hitems : w.items? = some ws) (hnull : .null ∉ ws) :
    (ws.map (SQLCompiler.value t)).any (Mongo.equals v) ↔ Matched t d ⟨field, .in_, w⟩ v := by
  rw [matched_iff (by simp) (by simp), Met, testOf]
  simp only [hitems, Option.getD_some, Test.truth, Truth.any_eq_true, List.any_eq_true,
    List.mem_map, exists_exists_and_eq_and]
  constructor
  · rintro ⟨w', hw', heq⟩
    rw [equals_iff (d := d) fun h => hnull (h ▸ hw')] at heq
    exact ⟨⟨w', hw', heq.1⟩, heq.2⟩
  · rintro ⟨⟨w', hw', heq⟩, hmoment⟩
    exact ⟨w', hw', (equals_iff fun h => hnull (h ▸ hw')).mpr ⟨heq, hmoment⟩⟩

theorem between_matched {low high : Value} (hitems : w.items? = some [low, high]) :
    ((Mongo.equals v (SQLCompiler.value t low) || Mongo.ordered v .ge (SQLCompiler.value t low)) &&
      (Mongo.equals v (SQLCompiler.value t high) || Mongo.ordered v .le (SQLCompiler.value t high))) ↔
      Matched t d ⟨field, .between, w⟩ v := by
  have hmet : Met t d ⟨field, .between, w⟩ v ↔
      compareTruth d.collation v .ge (SQLCompiler.value t low) = some true ∧
        compareTruth d.collation v .le (SQLCompiler.value t high) = some true := by
    rw [Met, testOf, hitems, ← Truth.and_eq_true]
    rfl
  have hnever : ∀ op, compareTruth d.collation v op .null = none := fun op => by
    rw [compareTruth, order_null]
    rfl
  rw [Bool.and_eq_true]
  by_cases hnulls : low = .null ∧ high = .null
  · obtain ⟨rfl, rfl⟩ := hnulls
    rw [value_null, equals_or_ordered_null, equals_or_ordered_null, and_self, decide_eq_true_eq]
    rw [value_null, hnever] at hmet
    have hnot : ¬ Met t d ⟨field, .between, w⟩ v := fun h => by cases (hmet.mp h).1
    simp [Matched, Loose, hnot, hitems]
  · have hitems' : w.items? ≠ some [.null, .null] := by
      rw [hitems]
      rintro h
      cases h
      exact hnulls ⟨rfl, rfl⟩
    rw [matched_iff (by simp) fun _ => hitems', hmet]
    by_cases hlow : low = .null
    · -- a missing field alone is no less than a null, and it is no more than nothing else
      have hhigh : high ≠ .null := fun h => hnulls ⟨hlow, h⟩
      subst hlow
      rw [value_null, equals_or_ordered_null, equals_or_ordered (value_ne_null hhigh) rfl, hnever]
      constructor
      · rintro ⟨hv, hle⟩
        obtain rfl := of_decide_eq_true hv
        cases hle
      · rintro ⟨⟨h, -⟩, -⟩
        cases h
    · by_cases hhigh : high = .null
      · subst hhigh
        rw [value_null, equals_or_ordered_null, equals_or_ordered (value_ne_null hlow) rfl, hnever]
        constructor
        · rintro ⟨hge, hv⟩
          obtain rfl := of_decide_eq_true hv
          cases hge
        · rintro ⟨⟨-, h⟩, -⟩
          cases h
      · rw [equals_or_ordered (value_ne_null hlow) rfl, equals_or_ordered (value_ne_null hhigh) rfl, ordered_iff (d := d),
          ordered_iff (d := d)]
        tauto

end Operators

/-- A clause of a filter that both compilers take. -/
theorem clause_matched {clause : List (String × Value)} (hoperator : item.operator ≠ .contains)
    (hnull : RefusedNull item = false) (h : MongoCompiler.clause t item = .ok clause)
    (record : Record) :
    (∃ path conditions, clause = [(path, .dict conditions)]) ∧
      ∃ holds : Bool, Mongo.documentHolds record clause = some holds ∧
        (holds ↔ Matched t d item (record item.field.fieldPath)) := by
  obtain ⟨field, operator, w⟩ := item
  cases operator with
  | contains => exact absurd rfl hoperator
  | equals =>
    cases h
    refine ⟨⟨_, _, rfl⟩, _, ?_, equals_matched (d := d) field⟩
    rw [Mongo.documentHolds_operator, Mongo.operatorHolds_eq, value_eq]
  | notEquals =>
    cases h
    refine ⟨⟨_, _, rfl⟩, _, ?_, notEquals_matched (d := d) field⟩
    rw [Mongo.documentHolds_operator, Mongo.operatorHolds_ne, value_eq]
  | greaterThan =>
    cases h
    refine ⟨⟨_, _, rfl⟩, _, ?_, ordered_matched (d := d) field (by simp) (by simp) rfl⟩
    rw [Mongo.documentHolds_operator, Mongo.operatorHolds_gt, value_eq]
  | lessThan =>
    cases h
    refine ⟨⟨_, _, rfl⟩, _, ?_, ordered_matched (d := d) field (by simp) (by simp) rfl⟩
    rw [Mongo.documentHolds_operator, Mongo.operatorHolds_lt, value_eq]
  | greaterOrEqual =>
    cases h
    have hw : w ≠ .null := by simpa [RefusedNull] using hnull
    refine ⟨⟨_, _, rfl⟩, _, ?_, ordered_matched (d := d) field (by simp) (by simp) rfl⟩
    rw [Mongo.documentHolds_operator, Mongo.operatorHolds_gte, value_eq, equals_or_ordered (value_ne_null hw) rfl]
  | lessOrEqual =>
    cases h
    have hw : w ≠ .null := by simpa [RefusedNull] using hnull
    refine ⟨⟨_, _, rfl⟩, _, ?_, ordered_matched (d := d) field (by simp) (by simp) rfl⟩
    rw [Mongo.documentHolds_operator, Mongo.operatorHolds_lte, value_eq, equals_or_ordered (value_ne_null hw) rfl]
  | in_ =>
    unfold MongoCompiler.clause at h
    cases hitems : w.items? with
    | none => simp [hitems] at h
    | some ws =>
      cases ws with
      | nil => simp [hitems] at h
      | cons w' ws =>
        simp only [hitems] at h
        cases h
        have hnulls : .null ∉ w' :: ws := by simpa [RefusedNull, hitems] using hnull
        refine ⟨⟨_, _, rfl⟩, _, ?_, in_matched (d := d) field hitems hnulls⟩
        rw [Mongo.documentHolds_operator, Mongo.operatorHolds_in, funext value_eq]
  | between =>
    unfold MongoCompiler.clause at h
    cases hitems : w.items? with
    | none => simp [hitems] at h
    | some ws =>
      match ws with
      | [] | [_] | _ :: _ :: _ :: _ => simp [hitems] at h
      | [low, high] =>
        simp only [hitems] at h
        cases h
        refine ⟨⟨_, _, rfl⟩, _, ?_, between_matched (d := d) field hitems⟩
        rw [Mongo.documentHolds_operators, Mongo.operatorHolds_gte, Mongo.operatorHolds_lte,
          value_eq, value_eq]
        rfl

/-! ### Lists of filters -/

section Lists

variable {filters : List PlanFilter} {record : Record}

theorem sqlSelects_met (hfields : ∀ item ∈ filters, item.field.dataObjectId ∈ plan.dataObjectIds)
    (hoperators : ∀ item ∈ filters, item.operator ≠ .contains)
    (htaken : ∀ item ∈ filters, Refused item = false ∧ RefusedNull item = false) :
    sqlSelects t d plan filters record ↔
      ∀ item ∈ filters, Met t d item (record item.field.fieldPath) := by
  obtain ⟨conditions, hconditions⟩ := Infra.mapM_ok fun item hitem =>
    (filter_ok_iff (t := t) (d := d) (hfields item hitem) (hoperators item hitem)).mpr
      (htaken item hitem)
  exact sqlSelects_iff hconditions

theorem mongoSelects_matched (hoperators : ∀ item ∈ filters, item.operator ≠ .contains)
    (htaken : ∀ item ∈ filters, Refused item = false ∧ RefusedNull item = false) :
    mongoSelects t filters record ↔
      ∀ item ∈ filters, Matched t d item (record item.field.fieldPath) := by
  obtain ⟨clauses, hclauses⟩ := Infra.mapM_ok fun item hitem =>
    (clause_ok_iff (t := t) (hoperators item hitem)).mpr (htaken item hitem).1
  have hall := (List.forall₂_and_left _ _).mpr ⟨fun item hitem =>
    (⟨hoperators item hitem, (htaken item hitem).2⟩ :
      item.operator ≠ .contains ∧ RefusedNull item = false), Infra.forall₂_of_mapM hclauses⟩
  have hmatched := hall.imp fun item clause h => clause_matched (d := d) h.1.1 h.1.2 h.2 record
  have hshape : ∀ clause ∈ clauses, ∃ path conditions, clause = [(path, .dict conditions)] := by
    intro clause hclause
    obtain ⟨item, -, h⟩ := Infra.exists_of_forall₂ hmatched.flip hclause
    exact h.1
  obtain ⟨holds, hholds, hiff⟩ := Mongo.documents_hold (hmatched.imp fun item clause h => h.2)
  rw [mongoSelects_iff hclauses, Mongo.filterHolds_matchOf hshape, hholds, ← hiff, Option.some_inj]

/-- All filters are asked for as MongoDB matches them, if and only if none of them is missed or matched
loosely where the others are fine. -/
theorem met_iff_matched :
    ((∀ item ∈ filters, Met t d item (record item.field.fieldPath)) ↔
        ∀ item ∈ filters, Matched t d item (record item.field.fieldPath)) ↔
      ((∀ item ∈ filters, Met t d item (record item.field.fieldPath)) →
          ∀ item ∈ filters, ¬ Missed t d item (record item.field.fieldPath)) ∧
        ((∀ item ∈ filters, Matched t d item (record item.field.fieldPath)) →
          ∀ item ∈ filters, ¬ Loose t d item (record item.field.fieldPath)) := by
  constructor
  · intro h
    refine ⟨fun hmet item hitem hmissed => ?_, fun hmatched item hitem hloose => ?_⟩
    · rcases h.mp hmet item hitem with hright | hloose
      · exact hright.2 hmissed
      · exact hloose.1 (hmet item hitem)
    · exact hloose.1 (h.mpr hmatched item hitem)
  · rintro ⟨hmissed, hloose⟩
    constructor
    · exact fun hmet item hitem => .inl ⟨hmet item hitem, hmissed hmet item hitem⟩
    · intro hmatched item hitem
      rcases hmatched item hitem with hright | h
      · exact hright.1
      · exact absurd h (hloose hmatched item hitem)

/-! ### What both compilers make of filters -/

def sqlRefuses (t : Texts) (d : Driver) (plan : GroundedQueryPlan) (filters : List PlanFilter) : Bool :=
  (filters.mapM (SQLCompiler.filter t d plan)).toOption.isNone

/-- The MongoDB compiler refuses the path of a field, or a filter. -/
def mongoRefuses (t : Texts) (filters : List PlanFilter) : Bool :=
  (filters.any fun item => MongoCompiler.unsafePath item.field.fieldPath) ||
    (filters.mapM (MongoCompiler.clause t)).toOption.isNone

theorem mapM_isNone {α β : Type} {f : α → Except Failure β} {as : List α} {P : α → Prop}
    (hf : ∀ a ∈ as, (∃ b, f a = .ok b) ↔ ¬ P a) :
    (as.mapM f).toOption.isNone ↔ ∃ a ∈ as, P a := by
  cases hall : as.mapM f with
  | ok bs =>
    simp only [Except.toOption, Option.isNone_some, Bool.false_eq_true, false_iff, not_exists, not_and]
    intro a ha
    obtain ⟨b, -, hb⟩ := Infra.exists_of_forall₂ (Infra.forall₂_of_mapM hall) ha
    exact (hf a ha).mp ⟨b, hb⟩
  | error e =>
    simp only [Except.toOption, Option.isNone_none, true_iff]
    obtain ⟨a, ha, he⟩ := Infra.exists_of_mapM_error hall
    refine ⟨a, ha, Classical.not_not.mp fun hnot => ?_⟩
    obtain ⟨b, hb⟩ := (hf a ha).mpr hnot
    rw [he] at hb
    cases hb

theorem sqlRefuses_iff (hfields : ∀ item ∈ filters, item.field.dataObjectId ∈ plan.dataObjectIds)
    (hoperators : ∀ item ∈ filters, item.operator ≠ .contains) :
    sqlRefuses t d plan filters ↔ ∃ item ∈ filters, Refused item ∨ RefusedNull item := by
  refine mapM_isNone fun item hitem => ?_
  rw [filter_ok_iff (hfields item hitem) (hoperators item hitem), not_or, Bool.not_eq_true,
    Bool.not_eq_true]

theorem mongoRefuses_iff (hoperators : ∀ item ∈ filters, item.operator ≠ .contains) :
    mongoRefuses t filters ↔
      ∃ item ∈ filters, MongoCompiler.unsafePath item.field.fieldPath ∨ Refused item := by
  have hclauses : (filters.mapM (MongoCompiler.clause t)).toOption.isNone ↔
      ∃ item ∈ filters, Refused item := by
    refine mapM_isNone fun item hitem => ?_
    rw [clause_ok_iff (hoperators item hitem), Bool.not_eq_true]
  rw [mongoRefuses, Bool.or_eq_true, hclauses, List.any_eq_true, ← exists_or]
  simp only [and_or_left]

theorem taken_of_not {P : Prop} (h : ¬ Refused item ∧ ¬ RefusedNull item ∧ P) :
    Refused item = false ∧ RefusedNull item = false :=
  ⟨Bool.not_eq_true _ ▸ h.1, Bool.not_eq_true _ ▸ h.2.1⟩

/-- **The two compilers refuse the same filters and select the same records if and only if**

* one of the filters is given too few values, or there is a comparison with a null, which only SQL
  refuses, exactly when there is a field that begins with `$`, which only MongoDB refuses, and
* when nothing is refused, MongoDB matches no missing field loosely, and misses no date. -/
theorem filters_agree_iff
    (hfields : ∀ item ∈ filters, item.field.dataObjectId ∈ plan.dataObjectIds)
    (hoperators : ∀ item ∈ filters, item.operator ≠ .contains) :
    ((sqlRefuses t d plan filters ↔ mongoRefuses t filters) ∧
        (¬ sqlRefuses t d plan filters → ¬ mongoRefuses t filters →
          (sqlSelects t d plan filters record ↔ mongoSelects t filters record))) ↔
      ((∃ item ∈ filters, Refused item) ∨
          ((∃ item ∈ filters, RefusedNull item) ↔
            ∃ item ∈ filters, MongoCompiler.unsafePath item.field.fieldPath)) ∧
        ((∀ item ∈ filters, ¬ Refused item ∧ ¬ RefusedNull item ∧
            ¬ MongoCompiler.unsafePath item.field.fieldPath) →
          ((∀ item ∈ filters, Met t d item (record item.field.fieldPath)) →
              ∀ item ∈ filters, ¬ Missed t d item (record item.field.fieldPath)) ∧
            ((∀ item ∈ filters, Matched t d item (record item.field.fieldPath)) →
              ∀ item ∈ filters, ¬ Loose t d item (record item.field.fieldPath))) := by
  rw [sqlRefuses_iff hfields hoperators, mongoRefuses_iff hoperators]
  refine and_congr ?_ ?_
  · simp only [and_or_left, exists_or]
    generalize (∃ item, item ∈ filters ∧ Refused item) = refused
    generalize (∃ item, item ∈ filters ∧ RefusedNull item) = nulls
    generalize (∃ item, item ∈ filters ∧ MongoCompiler.unsafePath item.field.fieldPath) = paths
    tauto
  · constructor
    · intro h htaken
      rw [← met_iff_matched]
      have htaken' := fun item hitem => taken_of_not (htaken item hitem)
      rw [← sqlSelects_met hfields hoperators htaken',
        ← mongoSelects_matched (d := d) hoperators htaken']
      refine h ?_ ?_
      · rintro ⟨item, hitem, hrefused | hnull⟩
        · exact (htaken item hitem).1 hrefused
        · exact (htaken item hitem).2.1 hnull
      · rintro ⟨item, hitem, hpath | hrefused⟩
        · exact (htaken item hitem).2.2 hpath
        · exact (htaken item hitem).1 hrefused
    · intro h hsqlTaken hmongoTaken
      have htaken : ∀ item ∈ filters, ¬ Refused item ∧ ¬ RefusedNull item ∧
          ¬ MongoCompiler.unsafePath item.field.fieldPath := fun item hitem =>
        ⟨fun hr => hsqlTaken ⟨item, hitem, .inl hr⟩, fun hn => hsqlTaken ⟨item, hitem, .inr hn⟩,
          fun hu => hmongoTaken ⟨item, hitem, .inl hu⟩⟩
      have htaken' := fun item hitem => taken_of_not (htaken item hitem)
      rw [sqlSelects_met hfields hoperators htaken', mongoSelects_matched (d := d) hoperators htaken',
        met_iff_matched]
      exact h htaken

/-- Orders that are not urgent, and have no note that is later in the alphabet. -/
def calmFilters : List PlanFilter :=
  [⟨noteRef, .notEquals, .str "urgent"⟩, ⟨noteRef, .lessOrEqual, .str "z"⟩]

theorem filters_agree_sample :
    sqlSelects sampleTexts .mysql notePlan calmFilters (fun _ => some (.text "calm")) ↔
      mongoSelects sampleTexts calmFilters (fun _ => some (.text "calm")) :=
  have hagree : (sqlRefuses sampleTexts .mysql notePlan calmFilters ↔
        mongoRefuses sampleTexts calmFilters) ∧
      (¬ sqlRefuses sampleTexts .mysql notePlan calmFilters → ¬ mongoRefuses sampleTexts calmFilters →
        (sqlSelects sampleTexts .mysql notePlan calmFilters (fun _ => some (.text "calm")) ↔
          mongoSelects sampleTexts calmFilters (fun _ => some (.text "calm")))) :=
    Iff.mpr (filters_agree_iff (by decide) (by decide)) (by decide)
  hagree.2 (by decide) (by decide)

/-- An order without a note is not selected by SQL and is selected by MongoDB; and a note greater than a
null is refused by the one and accepted by the other. -/
theorem missing_note_selected :
    let different : List PlanFilter := [⟨noteRef, .notEquals, .str "urgent"⟩]
    let greater : List PlanFilter := [⟨noteRef, .greaterThan, .null⟩]
    (¬ sqlRefuses sampleTexts .mysql notePlan different ∧ ¬ mongoRefuses sampleTexts different ∧
      ¬ sqlSelects sampleTexts .mysql notePlan different (fun _ => none) ∧
      mongoSelects sampleTexts different fun _ => none) ∧
      sqlRefuses sampleTexts .mysql notePlan greater ∧ ¬ mongoRefuses sampleTexts greater := by
  decide

end Lists

end Sides

end Querying
