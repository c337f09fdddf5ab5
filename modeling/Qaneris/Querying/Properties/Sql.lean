import Qaneris.Infra.Except
import Qaneris.Querying.Properties.Template

/-!
# What the SQL compiler writes

* `compile_written` — the command is the text of `writtenOf plan`, and its parameters are the values
* `compile_meaning` — it says what the plan stands for if and only if the plan is connected
-/

namespace Querying

open Contracts
open Infra (Token bind_ok forall₂_of_mapM exists_of_forall₂)

/-! ## The statement that is written -/

section Written

variable (t : Texts) (plan : GroundedQueryPlan)

/-- A field with the alias of its object. -/
def nameOf (objectId path : String) : ColumnName :=
  ⟨(SQLCompiler.aliasOf plan objectId).toList, path⟩

def writtenOf : Written Value where
  baseAlias := (SQLCompiler.aliasOf plan (baseOf plan)).toList
  joinAlias := plan.joins.head?.map fun join =>
    (SQLCompiler.aliasOf plan (joinedBy plan join).1).toList
  statement := statementOf t plan (nameOf plan)

end Written

/-! ## Texts -/

section Writes

variable {ν : Type}

/-- The string is the text of the cells. -/
def Writes (d : Driver) (s : String) (cells : List (Cell ν)) : Prop :=
  s.toList = Infra.render d.quote (unbind d cells)

variable {d : Driver}

theorem Writes.append {s s' : String} {a b : List (Cell ν)} (h : Writes d s a) (h' : Writes d s' b) :
    Writes d (s ++ s') (a ++ b) := by
  rw [Writes, String.toList_append, unbind_append, Infra.render_append, h, h']

theorem writes_nil : Writes d "" ([] : List (Cell ν)) := rfl

theorem writes_tokens {s : String} {ts : List Token} (h : s.toList = Infra.render d.quote ts) :
    Writes d s (tokens ts : List (Cell ν)) := by
  rwa [Writes, unbind_tokens]

theorem writes_quote (s : String) :
    Writes d (SQLCompiler.quote d s) (tokens [.quoted s.toList] : List (Cell ν)) := by
  refine writes_tokens ?_
  simp [SQLCompiler.quote, Token.text]

theorem writes_word (s : String) : Writes d s (tokens [.word s.toList] : List (Cell ν)) :=
  writes_tokens (by simp [Token.text])

theorem writes_value (v : ν) : Writes d d.placeholder [.value v] := by
  cases d <;> rfl

/-- The items are written one by one. -/
def WritesAll (d : Driver) (ss : List String) (items : List (List (Cell ν))) : Prop :=
  List.Forall₂ (Writes d) ss items

theorem writes_intercalate {separator : String} {ts : List Token}
    (hts : separator.toList = Infra.render d.quote ts) {ss : List String}
    {items : List (List (Cell ν))} (h : WritesAll d ss items) :
    Writes d (separator.intercalate ss) (joined ts items) := by
  induction h with
  | nil => rfl
  | @cons s x ss xs hs hrest ih =>
    cases hrest with
    | nil => simpa [joined_singleton] using hs
    | @cons s' y ss xs hs' hrest =>
      have htail := (writes_tokens (ν := ν) hts).append ih
      have hwhole := hs.append htail
      rw [joined_cons_cons]
      simpa [Writes, String.toList_intercalate, List.intercalate_cons_cons] using hwhole

theorem writes_clause (keyword separator : String) {ks ts : List Token}
    (hks : keyword.toList = Infra.render d.quote ks)
    (hts : separator.toList = Infra.render d.quote ts) {ss : List String}
    {items : List (List (Cell ν))} (h : WritesAll d ss items) :
    Writes d (SQLCompiler.clause keyword separator ss) (clauseCells ks ts items) := by
  cases h with
  | nil => exact writes_nil
  | cons hs hrest => exact (writes_tokens hks).append (writes_intercalate hts (.cons hs hrest))

end Writes

/-! ## What each part returns -/

section Parts

/-- What is handled one by one is written one by one. -/
theorem writesAll_of_mapM {d : Driver} {α ν : Type} {f : α → Except Failure String}
    {cells : α → List (Cell ν)} {as : List α} {ss : List String} (h : as.mapM f = .ok ss)
    (hf : ∀ a s, f a = .ok s → Writes d s (cells a)) : WritesAll d ss (as.map cells) := by
  rw [WritesAll, List.forall₂_map_right_iff]
  exact ((forall₂_of_mapM h).imp fun a s => hf a s).flip

variable {t : Texts} {d : Driver} {plan : GroundedQueryPlan} {ν : Type}

theorem field_ok {ref : GroundedFieldRef} {s : String} (h : SQLCompiler.field d plan ref = .ok s) :
    ref.dataObjectId ∈ plan.dataObjectIds ∧
      Writes d s ((refOf (nameOf plan) ref).cells : List (Cell ν)) := by
  rw [SQLCompiler.field] at h
  split at h
  · next hmem =>
    obtain rfl := Except.ok.inj h
    have hdot : Writes d "." (tokens [.mark '.'] : List (Cell ν)) := writes_tokens rfl
    exact ⟨hmem, ((writes_word _).append hdot).append (writes_quote _)⟩
  · cases h

theorem table_ok {objectId s : String} (h : SQLCompiler.table d plan objectId = .ok s) :
    Writes d s ((tableOf plan objectId).cells : List (Cell ν)) := by
  rw [SQLCompiler.table] at h
  cases hlocator : plan.locator objectId with
  | none => simp [hlocator] at h
  | some locator =>
    cases hname : locator.name with
    | none => simp [hlocator, hname] at h
    | some name =>
      rw [tableOf, hlocator]
      simp only [hlocator, hname, Option.bind_some, Option.map_some] at h
      simp only [TableName.cells, hname, Option.getD_some]
      cases hspace : given locator.namespace_ with
      | none =>
        rw [hspace] at h
        obtain rfl := Except.ok.inj h
        exact writes_quote name
      | some space =>
        rw [hspace] at h
        obtain rfl := Except.ok.inj h
        have hdot : Writes d "." (tokens [.mark '.'] : List (Cell ν)) := writes_tokens rfl
        exact ((writes_quote space).append hdot).append (writes_quote name)

theorem aggregate_ok {item : PlanAggregate} {s : String}
    (h : SQLCompiler.aggregate d plan item = .ok s) :
    (∀ ref ∈ item.field, ref.dataObjectId ∈ plan.dataObjectIds) ∧
      Writes d s ((itemOf (nameOf plan) item).cells : List (Cell ν)) := by
  have hopen : Writes d "(" (tokens [.mark '('] : List (Cell ν)) := writes_tokens rfl
  have has : Writes d ") AS " (tokens (.mark ')' :: spaced "AS") : List (Cell ν)) := writes_tokens rfl
  have hwhole : ∀ argument,
      Writes d argument (argumentCells (item.field.map (refOf (nameOf plan))) : List (Cell ν)) →
      Writes d (aggregateName item.function ++ "(" ++ argument ++ ") AS " ++
        SQLCompiler.quote d item.alias_) ((itemOf (nameOf plan) item).cells : List (Cell ν)) := by
    intro argument harg
    have hparts := (((((writes_word (aggregateName item.function)).append hopen).append
      harg).append has).append (writes_quote item.alias_))
    simpa [itemOf, Item.cells] using hparts
  rw [SQLCompiler.aggregate] at h
  cases hfield : item.field with
  | none =>
    rw [hfield] at h hwhole
    obtain rfl := Except.ok.inj h
    exact ⟨fun _ hr => absurd hr (Option.not_mem_none _), hwhole _ (writes_tokens rfl)⟩
  | some ref =>
    rw [hfield] at h hwhole
    obtain ⟨argument, harg, h⟩ := bind_ok h
    obtain rfl := Except.ok.inj h
    refine ⟨fun r hr => ?_, hwhole _ (field_ok harg).2⟩
    obtain rfl := Option.some.inj hr
    exact (field_ok (ν := ν) harg).1

theorem sides_ok {base : String} {join : PlanJoin} {sides : String × String × String}
    (hbase : base = baseOf plan) (h : SQLCompiler.sides base join = .ok sides) :
    sides = joinedBy plan join := by
  subst hbase
  rw [SQLCompiler.sides] at h
  rw [joinedBy]
  split at h
  · next hfrom =>
    rw [if_pos hfrom]
    exact (Except.ok.inj h).symm
  · next hfrom =>
    rw [if_neg hfrom]
    split at h
    · exact (Except.ok.inj h).symm
    · cases h

theorem joinText_ok {base : String} {join : PlanJoin} {s : String} (hbase : base = baseOf plan)
    (h : SQLCompiler.joinText d plan base join = .ok s) :
    (joinedBy plan join).1 ∈ plan.dataObjectIds ∧
      Writes d s (joinCells (some ((SQLCompiler.aliasOf plan (joinedBy plan join).1).toList,
        joinOf plan (nameOf plan) join)) : List (Cell ν)) := by
  obtain ⟨sides, hsides, h⟩ := bind_ok h
  obtain rfl := sides_ok hbase hsides
  rcases hjoined : joinedBy plan join with ⟨joined, left, right⟩
  subst hbase
  rw [hjoined] at h
  simp only at h
  split at h
  · cases h
  · next hmem =>
    obtain ⟨table, htable, h⟩ := bind_ok h
    obtain rfl := Except.ok.inj h
    refine ⟨Classical.not_not.mp hmem, ?_⟩
    have hdot : Writes d "." (tokens [.mark '.'] : List (Cell ν)) := writes_tokens rfl
    have hJoin : Writes d " JOIN " (tokens (spaced "JOIN") : List (Cell ν)) := writes_tokens rfl
    have hAs : Writes d " AS " (tokens (spaced "AS") : List (Cell ν)) := writes_tokens rfl
    have hOn : Writes d " ON " (tokens (spaced "ON") : List (Cell ν)) := writes_tokens rfl
    have hEq : Writes d " = " (tokens [.mark ' ', .mark '=', .mark ' '] : List (Cell ν)) :=
      writes_tokens rfl
    have hwhole := (((((((((((hJoin.append (table_ok htable)).append hAs).append
      (writes_word (SQLCompiler.aliasOf plan joined))).append hOn).append (writes_word (SQLCompiler.aliasOf plan (baseOf plan)))).append
      hdot).append (writes_quote left)).append hEq).append
      (writes_word (SQLCompiler.aliasOf plan joined))).append hdot).append (writes_quote right))
    simpa [joinOf, joinCells, hjoined, nameOf, ColumnName.cells] using hwhole

theorem writes_compare {field text : String} {column : ColumnName} {op : Comparison} {v : Value}
    (hfield : Writes d field (column.cells : List (Cell Value)))
    (htext : text.toList = Infra.render d.quote op.symbol) :
    Writes d (field ++ text ++ d.placeholder) (Predicate.cells ⟨column, .compare op v⟩) := by
  have hwhole := (hfield.append (writes_tokens htext)).append (writes_value (d := d) v)
  simpa [Predicate.cells, Test.cells] using hwhole

/-- The symbol of a comparison in the text of a predicate. -/
theorem writes_symbol {field symbol : String} {column : ColumnName} {op : Comparison} {v : Value}
    (hfield : Writes d field (column.cells : List (Cell Value)))
    (hsymbol : (" " ++ symbol ++ " ").toList = Infra.render d.quote op.symbol) :
    Writes d (field ++ " " ++ symbol ++ " " ++ d.placeholder)
      (Predicate.cells ⟨column, .compare op v⟩) := by
  have hwhole := writes_compare (v := v) hfield hsymbol
  rwa [← String.append_assoc, ← String.append_assoc] at hwhole

theorem writes_placeholders (vs : List Value) (ws : List Value) (h : vs.length = ws.length) :
    Writes d (", ".intercalate (vs.map fun _ => d.placeholder))
      (joined comma (ws.map fun w => [.value w])) := by
  refine writes_intercalate rfl ?_
  rw [WritesAll, List.forall₂_map_left_iff, List.forall₂_map_right_iff, List.forall₂_iff_get]
  exact ⟨h, fun i _ _ => writes_value _⟩

theorem predicate_ok {field s : String} {column : ColumnName} {operator : FilterOperator} {v : Value}
    {vs : List Value} (hfield : Writes d field (column.cells : List (Cell Value)))
    (h : SQLCompiler.predicate t d field operator v = .ok (s, vs)) :
    Writes d s (Predicate.cells ⟨column, testOf t operator v⟩) ∧
      vs = (testOf t operator v).values ∧ testOf t operator v ≠ .isIn [] := by
  have hnull : Writes d " IS NULL" (Test.isNull.cells : List (Cell Value)) := writes_tokens rfl
  have hnotNull : Writes d " IS NOT NULL" (Test.isNotNull.cells : List (Cell Value)) :=
    writes_tokens rfl
  unfold SQLCompiler.predicate at h
  split at h
  · next hv =>
    subst hv
    cases operator <;> cases h
    · exact ⟨hfield.append hnull, rfl, fun h => by cases h⟩
    · exact ⟨hfield.append hnotNull, rfl, fun h => by cases h⟩
  · next hv =>
    cases operator with
    | equals =>
      cases h
      refine ⟨?_, ?_, ?_⟩ <;> rw [testOf, if_neg hv]
      · exact writes_symbol hfield rfl
      · rfl
      · intro h
        cases h
    | notEquals =>
      cases h
      refine ⟨?_, ?_, ?_⟩ <;> rw [testOf, if_neg hv]
      · exact writes_symbol hfield rfl
      · rfl
      · intro h
        cases h
    | greaterThan | greaterOrEqual | lessThan | lessOrEqual =>
      cases h
      exact ⟨writes_symbol hfield rfl, rfl, fun h => by cases h⟩
    | in_ =>
      simp only [SQLCompiler.simple] at h
      cases hitems : v.items? with
      | none => simp [hitems] at h
      | some items =>
        cases items with
        | nil => simp [hitems] at h
        | cons item items =>
          simp only [hitems] at h
          split at h
          · cases h
          · cases h
            have hopen : Writes d " IN (" (tokens (spaced "IN" ++ [.mark '(']) : List (Cell Value)) :=
              writes_tokens rfl
            have hclose : Writes d ")" (tokens [.mark ')'] : List (Cell Value)) := writes_tokens rfl
            have hplaces := writes_placeholders (d := d) (item :: items)
              ((item :: items).map (SQLCompiler.value t)) (by simp)
            have hwhole := ((hfield.append hopen).append hplaces).append hclose
            refine ⟨?_, ?_, ?_⟩ <;> simp only [testOf, hitems, Option.getD_some]
            · simpa [Predicate.cells, Test.cells] using hwhole
            · rfl
            · simp
    | between =>
      simp only [SQLCompiler.simple] at h
      split at h
      · next low high _ hitems =>
        cases h
        have hbetween : Writes d " BETWEEN " (tokens (spaced "BETWEEN") : List (Cell Value)) :=
          writes_tokens rfl
        have hand : Writes d " AND " (tokens (spaced "AND") : List (Cell Value)) := writes_tokens rfl
        have hwhole := (((hfield.append hbetween).append
          (writes_value (d := d) (SQLCompiler.value t low))).append hand).append
            (writes_value (SQLCompiler.value t high))
        refine ⟨?_, ?_, ?_⟩ <;> simp only [testOf, hitems]
        · simpa [Predicate.cells, Test.cells] using hwhole
        · rfl
        · intro h
          cases h
      all_goals simp_all
    | contains =>
      cases h
      have hlike : Writes d " LIKE " (tokens (spaced "LIKE") : List (Cell Value)) := writes_tokens rfl
      have hwhole := (hfield.append hlike).append
        (writes_value (d := d) (.str ("%" ++ t.str v ++ "%")))
      refine ⟨?_, rfl, fun h => by cases h⟩
      simpa [testOf, Predicate.cells, Test.cells] using hwhole

/-- A condition with its parameters is the text of a predicate with its values. -/
structure Says (d : Driver) (condition : String × List Value) (p : Predicate ColumnName Value) :
    Prop where
  text : Writes d condition.1 p.cells
  values : condition.2 = p.test.values
  isIn : p.test ≠ .isIn []

theorem filter_ok {item : PlanFilter} {condition : String × List Value}
    (h : SQLCompiler.filter t d plan item = .ok condition) :
    item.field.dataObjectId ∈ plan.dataObjectIds ∧
      Says d condition (predicateOf t (nameOf plan) item) := by
  obtain ⟨column, hcolumn, h⟩ := bind_ok h
  have hfield := field_ok (ν := Value) hcolumn
  have hpredicate := predicate_ok hfield.2 h
  exact ⟨hfield.1, hpredicate.1, hpredicate.2.1, hpredicate.2.2⟩

theorem timeConditions_ok {times : List (String × List Value)}
    (h : SQLCompiler.timeConditions t d plan = .ok times) :
    (∀ ref ∈ plan.timeField, plan.timeRange.isSome → ref.dataObjectId ∈ plan.dataObjectIds) ∧
      List.Forall₂ (Says d) times (timePredicates t plan (nameOf plan)) := by
  rw [SQLCompiler.timeConditions] at h
  split at h
  · next ref range hfield hrange =>
    obtain ⟨column, hcolumn, h⟩ := bind_ok h
    cases h
    have hcolumn := field_ok (ν := Value) hcolumn
    rw [timePredicates, hfield, hrange]
    refine ⟨fun r hr _ => ?_, ?_⟩
    · obtain rfl := Option.some.inj hr
      exact hcolumn.1
    have hge : ∀ m, Says d (column ++ " >= " ++ d.placeholder, [SQLCompiler.value t (.moment m)])
        ⟨refOf (nameOf plan) ref, .compare .ge (.str (t.isoformat m))⟩ := fun m =>
      ⟨writes_compare hcolumn.2 rfl, rfl, nofun⟩
    have hle : ∀ m, Says d (column ++ " <= " ++ d.placeholder, [SQLCompiler.value t (.moment m)])
        ⟨refOf (nameOf plan) ref, .compare .le (.str (t.isoformat m))⟩ := fun m =>
      ⟨writes_compare hcolumn.2 rfl, rfl, nofun⟩
    obtain ⟨start, stop, hordered⟩ := range
    cases start <;> cases stop
    · exact .nil
    · exact .cons (hle _) .nil
    · exact .cons (hge _) .nil
    · exact .cons (hge _) (.cons (hle _) .nil)
  · next hnone =>
    cases h
    have hnil : timePredicates t plan (nameOf plan) = [] := by
      rw [timePredicates]
      split
      · next ref range href hrange => exact absurd hrange (hnone ref range href)
      · rfl
    refine ⟨fun ref href hsome => ?_, ?_⟩
    · obtain ⟨range, hrange⟩ := Option.isSome_iff_exists.mp hsome
      exact absurd hrange (hnone ref range href)
    · rw [hnil]
      exact .nil

theorem ordering_ok {item : PlanSort} {s : String} (h : SQLCompiler.ordering d plan item = .ok s) :
    (∀ ref ∈ item.field, ref.dataObjectId ∈ plan.dataObjectIds) ∧
      Writes d s ((orderingOf (nameOf plan) item).cells : List (Cell ν)) := by
  have hwhole : ∀ (target : String) (named : Target ColumnName),
      Writes d target (named.cells : List (Cell ν)) →
      Writes d (target ++ " " ++ (if item.direction = .descending then "DESC" else "ASC"))
        (Ordering.cells ⟨named, item.direction = .descending⟩ : List (Cell ν)) := by
    intro target named htarget
    have hblank : Writes d " " (tokens [.mark ' '] : List (Cell ν)) := writes_tokens rfl
    have hparts := (htarget.append hblank).append
      (writes_word (if item.direction = .descending then "DESC" else "ASC"))
    simpa [Ordering.cells] using hparts
  obtain ⟨target, direction⟩ := item
  rw [SQLCompiler.ordering] at h
  cases target with
  | field ref =>
    obtain ⟨column, hcolumn, h⟩ := bind_ok h
    obtain rfl := Except.ok.inj h
    refine ⟨fun r hr => ?_, hwhole column _ (field_ok hcolumn).2⟩
    obtain rfl := Option.some.inj hr
    exact (field_ok (ν := ν) hcolumn).1
  | aggregate alias_ _ =>
    obtain rfl := Except.ok.inj h
    exact ⟨fun _ hr => absurd hr (Option.not_mem_none _), hwhole _ (.alias_ alias_) (writes_quote alias_)⟩

theorem mem_of_mapM {α β : Type} {f : α → Except Failure β} {P : α → Prop} {as : List α}
    {bs : List β} (h : as.mapM f = .ok bs) (hf : ∀ a b, f a = .ok b → P a) : ∀ a ∈ as, P a := by
  intro a ha
  obtain ⟨b, -, hb⟩ := exists_of_forall₂ (forall₂_of_mapM h) ha
  exact hf a b hb

theorem says_filters {filters : List (String × List Value)}
    (h : plan.filters.mapM (SQLCompiler.filter t d plan) = .ok filters) :
    List.Forall₂ (Says d) filters (plan.filters.map (predicateOf t (nameOf plan))) := by
  rw [List.forall₂_map_right_iff]
  exact ((forall₂_of_mapM h).imp fun item condition hitem => (filter_ok hitem).2).flip

theorem says_text {conditions : List (String × List Value)} {ps : List (Predicate ColumnName Value)}
    (h : List.Forall₂ (Says d) conditions ps) :
    WritesAll d (conditions.map Prod.fst) (ps.map Predicate.cells) := by
  rw [WritesAll, List.forall₂_map_left_iff, List.forall₂_map_right_iff]
  exact h.imp fun _ _ hsays => hsays.text

theorem says_values {conditions : List (String × List Value)} {ps : List (Predicate ColumnName Value)}
    (h : List.Forall₂ (Says d) conditions ps) :
    conditions.flatMap Prod.snd = ps.flatMap fun p => p.test.values := by
  induction h with
  | nil => rfl
  | cons hsays _ ih => rw [List.flatMap_cons, List.flatMap_cons, hsays.values, ih]

theorem says_isIn {conditions : List (String × List Value)} {ps : List (Predicate ColumnName Value)}
    (h : List.Forall₂ (Says d) conditions ps) : ∀ p ∈ ps, p.test ≠ .isIn [] := by
  intro p hp
  obtain ⟨_, -, hsays⟩ := exists_of_forall₂ h.flip hp
  exact hsays.isIn

end Parts

/-! ## The command -/

section Command

variable {t : Texts} {d : Driver} {plan : GroundedQueryPlan} {q : NativeQuery}

/-- What a compiled command is made of. -/
structure Compiled (t : Texts) (d : Driver) (plan : GroundedQueryPlan) (q : NativeQuery) : Prop where
  text : ∃ command, q = {
      datasourceId := plan.datasourceId, planId := plan.planId, scanVersion := plan.scanVersion
      queryLanguage := .sql, command := .text command
      parameters := values (writtenOf t plan).cells, displayCommand := command } ∧
    Writes d command (writtenOf t plan).cells
  fits : (writtenOf t plan).Fits
  fields : ∀ ref ∈ fieldRefs plan, ref.dataObjectId ∈ plan.dataObjectIds
  joins : plan.joins.length ≤ 1
  joined : ∀ join ∈ plan.joins, (joinedBy plan join).1 ∈ plan.dataObjectIds

theorem writes_joins {joins : List String} {base : String} (hbase : base = baseOf plan)
    (hlength : plan.joins.length ≤ 1)
    (h : plan.joins.mapM (SQLCompiler.joinText d plan base) = .ok joins) :
    Writes d (String.join joins) (joinCells (writtenOf t plan).join : List (Cell Value)) := by
  have hall := forall₂_of_mapM h
  rw [Written.join, writtenOf]
  cases hjoins : plan.joins with
  | nil =>
    rw [hjoins] at hall
    cases hall
    simp only [statementOf, hjoins]
    exact writes_nil
  | cons join others =>
    rw [hjoins] at hall hlength
    obtain rfl : others = [] := List.length_eq_zero_iff.mp (Nat.le_zero.mp (Nat.le_of_succ_le_succ hlength))
    cases hall with
    | cons hjoin hrest =>
      cases hrest
      simp only [statementOf, hjoins]
      simpa using (joinText_ok (ν := Value) hbase hjoin).2

theorem writes_items {fields aggregates : List String}
    (hfields : plan.selectedFields.mapM (SQLCompiler.field d plan) = .ok fields)
    (haggregates : plan.aggregates.mapM (SQLCompiler.aggregate d plan) = .ok aggregates) :
    Writes d (", ".intercalate (fields ++ aggregates))
      (joined comma ((writtenOf t plan).statement.items.map Item.cells) : List (Cell Value)) := by
  refine writes_intercalate rfl ?_
  have hleft : WritesAll d fields (plan.selectedFields.map fun ref =>
      (Item.column (refOf (nameOf plan) ref)).cells (ν := Value)) :=
    writesAll_of_mapM hfields fun ref s hs => (field_ok hs).2
  have hright : WritesAll d aggregates (plan.aggregates.map fun item =>
      (itemOf (nameOf plan) item).cells (ν := Value)) :=
    writesAll_of_mapM haggregates fun item s hs => (aggregate_ok hs).2
  have hitems : (writtenOf t plan).statement.items.map (Item.cells (ν := Value)) =
      plan.selectedFields.map (fun ref => (Item.column (refOf (nameOf plan) ref)).cells) ++
        plan.aggregates.map fun item => (itemOf (nameOf plan) item).cells := by
    simp [writtenOf, statementOf, Function.comp_def]
  rw [hitems]
  exact List.rel_append hleft hright

theorem writes_base {tables : List String}
    (h : plan.dataObjectIds.mapM (SQLCompiler.table d plan) = .ok tables) :
    Writes d (tables.headD "") ((tableOf plan (baseOf plan)).cells : List (Cell Value)) := by
  have hall := forall₂_of_mapM h
  have hlength := plan.dataObjectIds_length
  rw [baseOf]
  cases hids : plan.dataObjectIds with
  | nil => simp [hids] at hlength
  | cons base ids =>
    rw [hids] at hall
    cases hall with
    | cons htable _ => exact table_ok htable

theorem written_items_ne_nil : (writtenOf t plan).statement.items ≠ [] := by
  rcases plan.output with h | h <;> simp [writtenOf, statementOf, h]

theorem writes_command {items table joins conditions groups orders : String}
    (hitems : Writes d items
      (joined comma ((writtenOf t plan).statement.items.map Item.cells) : List (Cell Value)))
    (htable : Writes d table ((writtenOf t plan).statement.table.cells : List (Cell Value)))
    (hjoins : Writes d joins (joinCells (writtenOf t plan).join : List (Cell Value)))
    (hconditions : Writes d conditions (clauseCells (spaced "WHERE") (spaced "AND")
      ((writtenOf t plan).statement.predicates.map Predicate.cells)))
    (hgroups : Writes d groups (clauseCells (spacedBy "GROUP") comma
      ((writtenOf t plan).statement.groupBy.map ColumnName.cells) : List (Cell Value)))
    (horders : Writes d orders (clauseCells (spacedBy "ORDER") comma
      ((writtenOf t plan).statement.orderBy.map Ordering.cells) : List (Cell Value))) :
    Writes d ("SELECT " ++ items ++ " FROM " ++ table ++ " AS " ++
        SQLCompiler.aliasOf plan (baseOf plan) ++ joins ++ conditions ++ groups ++ orders ++
        " LIMIT " ++ d.placeholder) (writtenOf t plan).cells := by
  have hselect : Writes d "SELECT " (tokens [.word "SELECT".toList, .mark ' '] : List (Cell Value)) :=
    writes_tokens rfl
  have hfrom : Writes d " FROM " (tokens (spaced "FROM") : List (Cell Value)) := writes_tokens rfl
  have has : Writes d " AS " (tokens (spaced "AS") : List (Cell Value)) := writes_tokens rfl
  have hbase : Writes d (SQLCompiler.aliasOf plan (baseOf plan))
      (tokens [.word (writtenOf t plan).baseAlias] : List (Cell Value)) := writes_word _
  have hlimit : Writes d " LIMIT " (tokens (spaced "LIMIT") : List (Cell Value)) := writes_tokens rfl
  have hwhole := ((((((((((hselect.append hitems).append hfrom).append htable).append has).append hbase).append hjoins).append hconditions).append 
    hgroups).append horders).append hlimit).append
      (writes_value (d := d) (writtenOf t plan).statement.limit)
  simpa only [Written.cells, Statement.whereCells, Statement.groupCells, Statement.orderCells,
    Statement.limitCells, List.append_assoc] using hwhole

theorem compile_written (h : SQLCompiler.compile t d plan = .ok q) : Compiled t d plan q := by
  rw [SQLCompiler.compile] at h
  split at h
  · cases h
  next hlength =>
  obtain ⟨tables, htables, h⟩ := bind_ok h
  obtain ⟨fields, hfields, h⟩ := bind_ok h
  obtain ⟨aggregates, haggregates, h⟩ := bind_ok h
  obtain ⟨joins, hjoins, h⟩ := bind_ok h
  obtain ⟨filters, hfilters, h⟩ := bind_ok h
  obtain ⟨times, htimes, h⟩ := bind_ok h
  obtain ⟨groupBy, hgroupBy, h⟩ := bind_ok h
  obtain ⟨orderBy, horderBy, h⟩ := bind_ok h
  obtain rfl := Except.ok.inj h
  have htimes := timeConditions_ok htimes
  have hsays : List.Forall₂ (Says d) (filters ++ times) (writtenOf t plan).statement.predicates :=
    List.rel_append (says_filters hfilters) htimes.2
  have hgroups : WritesAll d groupBy
      ((writtenOf t plan).statement.groupBy.map (ColumnName.cells (ν := Value))) := by
    rw [writtenOf, statementOf, List.map_map]
    exact writesAll_of_mapM hgroupBy fun ref s hs => (field_ok hs).2
  have horders : WritesAll d orderBy
      ((writtenOf t plan).statement.orderBy.map (Ordering.cells (ν := Value))) := by
    rw [writtenOf, statementOf, List.map_map]
    exact writesAll_of_mapM horderBy fun item s hs => (ordering_ok hs).2
  have hcommand := writes_command (writes_items hfields haggregates) (writes_base htables)
    (writes_joins rfl (Nat.le_of_not_lt hlength) hjoins)
    (writes_clause " WHERE " " AND " rfl rfl (says_text hsays))
    (writes_clause " GROUP BY " ", " rfl rfl hgroups)
    (writes_clause " ORDER BY " ", " rfl rfl horders)
  refine ⟨⟨_, ?_, hcommand⟩, ?_, ?_, ?_, ?_⟩
  · rw [values_cells, says_values hsays]
    rfl
  · exact ⟨written_items_ne_nil, by simp [writtenOf, statementOf], says_isIn hsays⟩
  · intro ref href
    simp only [fieldRefs, List.mem_append, List.mem_filterMap, List.mem_map] at href
    rcases href with ((((hs | ⟨item, hi, hr⟩) | ⟨item, hi, rfl⟩) | ht) | hg) | ⟨item, hi, hr⟩
    · exact mem_of_mapM hfields (fun ref s hs => (field_ok (ν := Value) hs).1) ref hs
    · exact mem_of_mapM haggregates (fun item s hs => (aggregate_ok (ν := Value) hs).1) item hi ref hr
    · exact mem_of_mapM hfilters (fun item s hs => (filter_ok hs).1) item hi
    · split at ht
      · next hrange =>
        refine htimes.1 ref (Option.mem_toList.mp ht) ?_
        cases hrange' : plan.timeRange with
        | none => simp [hrange'] at hrange
        | some range => rfl
      · cases ht
    · exact mem_of_mapM hgroupBy (fun ref s hs => (field_ok (ν := Value) hs).1) ref hg
    · exact mem_of_mapM horderBy (fun item s hs => (ordering_ok (ν := Value) hs).1) item hi ref hr
  · exact Nat.le_of_not_lt hlength
  · exact mem_of_mapM hjoins fun join s hs => (joinText_ok (ν := Value) rfl hs).1

end Command

end Querying
