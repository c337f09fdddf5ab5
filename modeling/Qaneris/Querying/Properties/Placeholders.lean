import Mathlib
import Qaneris.Querying.Properties.Meaning

/-!
# What a driver takes for placeholders

A driver of the `format` style looks for percent signs in the whole text of a command, quoted names
included.

* `percents_compiled` — it finds the placeholders and nothing else if and only if no name of the
  command has a percent sign
-/

namespace Querying

open Contracts
open Infra (Token)

/-! ## Percent signs -/

/-- The character behind each percent sign, `none` at the end of the text. -/
def percents : List Char → List (Option Char)
  | [] => []
  | ['%'] => [none]
  | '%' :: c :: text => some c :: percents text
  | _ :: text => percents text

/-- Every name that a command of the plan has in quotes. -/
def identifiersOf (plan : GroundedQueryPlan) : List String :=
  (tableOf plan (baseOf plan)).names ++ (fieldRefs plan).map GroundedFieldRef.fieldPath ++
    plan.aggregates.map PlanAggregate.alias_ ++ plan.sorts.filterMap PlanSort.alias? ++
    plan.joins.flatMap fun join =>
      (tableOf plan (joinedBy plan join).1).names ++ [join.fromFieldPath, join.toFieldPath]

section Percents

theorem percents_cons {c : Char} (h : c ≠ '%') (text : List Char) :
    percents (c :: text) = percents text := by
  rw [percents]
  · rintro rfl
    exact absurd rfl h
  · rintro _ _ rfl
    exact absurd rfl h

/-- A text without percent signs is passed over. -/
theorem percents_append {chunk : List Char} (h : '%' ∉ chunk) (text : List Char) :
    percents (chunk ++ text) = percents text := by
  induction chunk with
  | nil => rfl
  | cons c chunk ih =>
    rw [List.mem_cons, not_or] at h
    rw [List.cons_append, percents_cons (Ne.symm h.1), ih h.2]

/-- When only placeholders are found, there is no other percent sign. -/
theorem count_of_percents {text : List Char} {n : Nat}
    (h : percents text = List.replicate n (some 's')) : text.count '%' = n := by
  fun_induction percents text generalizing n with
  | case1 =>
    cases n with
    | zero => rfl
    | succ n => cases h
  | case2 =>
    cases n with
    | zero => cases h
    | succ n => cases h
  | case3 c text ih =>
    cases n with
    | zero => cases h
    | succ n =>
      rw [List.replicate_succ, List.cons.injEq] at h
      obtain rfl : c = 's' := Option.some.inj h.1
      rw [List.count_cons_self, List.count_cons_of_ne (by decide), ih h.2]
  | case4 c text hend hnext ih =>
    have hc : c ≠ '%' := by
      rintro rfl
      cases text with
      | nil => exact hend rfl rfl
      | cons d text => exact hnext d text rfl rfl
    rw [List.count_cons_of_ne hc, ih h]

end Percents

/-! ## Quoted names -/

section Quoted

variable {ν : Type}

def Cell.quoted? : Cell ν → Option (List Char)
  | .token (.quoted text) => some text
  | _ => none

def quoted (cells : List (Cell ν)) : List (List Char) := cells.filterMap Cell.quoted?

@[simp]
theorem quoted_append (a b : List (Cell ν)) : quoted (a ++ b) = quoted a ++ quoted b :=
  List.filterMap_append

theorem mem_quoted_joined {separator : List Token} (h : quoted (tokens separator : List (Cell ν)) = [])
    {items : List (List (Cell ν))} {x : List Char} :
    x ∈ quoted (joined separator items) ↔ ∃ item ∈ items, x ∈ quoted item := by
  induction items with
  | nil => simp [joined, quoted]
  | cons y ys ih =>
    cases ys with
    | nil => simp
    | cons z zs =>
      rw [joined_cons_cons, quoted_append, quoted_append, h, List.nil_append, List.mem_append, ih]
      simp

theorem mem_quoted_clause {keyword separator : List Token}
    (hkeyword : quoted (tokens keyword : List (Cell ν)) = [])
    (hseparator : quoted (tokens separator : List (Cell ν)) = []) {items : List (List (Cell ν))}
    {x : List Char} :
    x ∈ quoted (clauseCells keyword separator items) ↔ ∃ item ∈ items, x ∈ quoted item := by
  rw [clauseCells]
  split
  · next h => simp [h, quoted]
  · rw [quoted_append, hkeyword, List.nil_append, mem_quoted_joined hseparator]

theorem quoted_column (c : ColumnName) : quoted (c.cells : List (Cell ν)) = [c.path.toList] := rfl

theorem quoted_table (table : TableName) :
    quoted (table.cells : List (Cell ν)) = table.names.map String.toList := by
  rw [TableName.cells, TableName.names]
  cases table.space <;> rfl

def Item.alias? {κ : Type} : Item κ → Option String
  | .column _ => none
  | .aggregate _ _ alias_ => some alias_

def Target.alias? {κ : Type} : Target κ → Option String
  | .column _ => none
  | .alias_ name => some name

theorem quoted_item (item : Item ColumnName) : quoted (item.cells : List (Cell ν)) =
    item.columns.map (fun c => c.path.toList) ++ item.alias?.toList.map String.toList := by
  cases item with
  | column c => rfl
  | aggregate function argument alias_ => cases argument <;> rfl

theorem quoted_test (test : Test ν) : quoted test.cells = [] := by
  cases test with
  | isIn vs =>
    have hvs : quoted (joined comma (vs.map fun v => [Cell.value v])) = [] := by
      refine List.eq_nil_iff_forall_not_mem.mpr fun x hx => ?_
      obtain ⟨item, hitem, hx⟩ := (mem_quoted_joined rfl).mp hx
      obtain ⟨v, -, rfl⟩ := List.mem_map.mp hitem
      cases hx
    rw [Test.cells, quoted_append, quoted_append, hvs]
    rfl
  | compare op v => cases op <;> rfl
  | isNull | isNotNull | between | like => rfl

theorem quoted_predicate (p : Predicate ColumnName ν) :
    quoted p.cells = [p.column.path.toList] := by
  rw [Predicate.cells, quoted_append, quoted_test, quoted_column, List.append_nil]

theorem quoted_ordering (o : Ordering ColumnName) : quoted (o.cells : List (Cell ν)) =
    o.target.columns.map (fun c => c.path.toList) ++ o.target.alias?.toList.map String.toList := by
  obtain ⟨target, descending⟩ := o
  cases target <;> rfl

theorem quoted_join (join : Option (List Char × Join ColumnName)) :
    quoted (joinCells join : List (Cell ν)) = join.toList.flatMap fun j =>
      j.2.table.names.map String.toList ++ [j.2.left.path.toList, j.2.right.path.toList] := by
  cases join with
  | none => rfl
  | some pair =>
    simp only [joinCells, quoted_append, quoted_table, quoted_column, Option.toList_some,
      List.flatMap_singleton]
    rfl

/-- The columns of the clauses, brought together before the names. -/
theorem collect {items join predicates groups orders table joinTable itemNames orderNames : Prop} :
    ((items ∨ itemNames) ∨ table ∨ (joinTable ∨ join) ∨ predicates ∨ groups ∨ orders ∨ orderNames) ↔
      (items ∨ join ∨ predicates ∨ groups ∨ orders) ∨ table ∨ joinTable ∨ itemNames ∨ orderNames := by
  tauto

/-- What stands in quotes in a statement: its columns, its tables and its aliases. -/
theorem mem_quoted_cells {w : Written ν} (hfits : w.Fits) {x : List Char} :
    x ∈ quoted w.cells ↔
      (∃ c ∈ w.statement.columns, c.path.toList = x) ∨
      (∃ n ∈ w.statement.table.names, n.toList = x) ∨
      (∃ j ∈ w.statement.join, ∃ n ∈ j.table.names, n.toList = x) ∨
      (∃ item ∈ w.statement.items, ∃ n ∈ item.alias?, n.toList = x) ∨
      ∃ o ∈ w.statement.orderBy, ∃ n ∈ o.target.alias?, n.toList = x := by
  have hitems : x ∈ quoted (joined comma (w.statement.items.map (Item.cells (ν := ν)))) ↔
      (∃ c ∈ w.statement.items.flatMap Item.columns, c.path.toList = x) ∨
        ∃ item ∈ w.statement.items, ∃ n ∈ item.alias?, n.toList = x := by
    rw [mem_quoted_joined rfl]
    simp only [List.mem_map, exists_exists_and_eq_and, quoted_item, List.mem_append,
      Option.mem_toList, and_or_left, exists_or, List.mem_flatMap]
    refine or_congr ⟨?_, ?_⟩ Iff.rfl
    · rintro ⟨item, hitem, c, hc, rfl⟩
      exact ⟨c, ⟨item, hitem, hc⟩, rfl⟩
    · rintro ⟨c, ⟨item, hitem, hc⟩, rfl⟩
      exact ⟨item, hitem, c, hc, rfl⟩
  have hjoin : x ∈ quoted (joinCells w.join : List (Cell ν)) ↔
      (∃ j ∈ w.statement.join, ∃ n ∈ j.table.names, n.toList = x) ∨
        ∃ c ∈ w.statement.join.toList.flatMap Join.columns, c.path.toList = x := by
    rw [quoted_join, hfits.join_eq.2]
    cases w.join with
    | none => simp
    | some j => simp [Join.columns, eq_comm]
  have hpredicates : x ∈ quoted (clauseCells (spaced "WHERE") (spaced "AND")
      (w.statement.predicates.map Predicate.cells)) ↔
      ∃ c ∈ w.statement.predicates.map Predicate.column, c.path.toList = x := by
    rw [mem_quoted_clause rfl rfl]
    simp [quoted_predicate, eq_comm]
  have hgroup : x ∈ quoted (clauseCells (spacedBy "GROUP") comma
      (w.statement.groupBy.map (ColumnName.cells (ν := ν)))) ↔
      ∃ c ∈ w.statement.groupBy, c.path.toList = x := by
    rw [mem_quoted_clause rfl rfl]
    simp [quoted_column, eq_comm]
  have horder : x ∈ quoted (clauseCells (spacedBy "ORDER") comma
      (w.statement.orderBy.map (Ordering.cells (ν := ν)))) ↔
      (∃ c ∈ w.statement.orderBy.flatMap (fun o => o.target.columns), c.path.toList = x) ∨
        ∃ o ∈ w.statement.orderBy, ∃ n ∈ o.target.alias?, n.toList = x := by
    rw [mem_quoted_clause rfl rfl]
    simp only [List.mem_map, exists_exists_and_eq_and, quoted_ordering, List.mem_append,
      Option.mem_toList, and_or_left, exists_or, List.mem_flatMap]
    refine or_congr ⟨?_, ?_⟩ Iff.rfl
    · rintro ⟨o, ho, c, hc, rfl⟩
      exact ⟨c, ⟨o, ho, hc⟩, rfl⟩
    · rintro ⟨c, ⟨o, ho, hc⟩, rfl⟩
      exact ⟨o, ho, c, hc, rfl⟩
  have htable : x ∈ quoted (w.statement.table.cells : List (Cell ν)) ↔
      ∃ n ∈ w.statement.table.names, n.toList = x := by
    rw [quoted_table, List.mem_map]
  have hlimit : quoted (tokens (spaced "LIMIT") ++ [Cell.value w.statement.limit]) = [] := rfl
  have hselect : quoted (tokens [.word "SELECT".toList, .mark ' '] : List (Cell ν)) = [] := rfl
  have hfrom : quoted (tokens (spaced "FROM") : List (Cell ν)) = [] := rfl
  have has : quoted (tokens (spaced "AS") : List (Cell ν)) = [] := rfl
  have hbase : quoted (tokens [.word w.baseAlias] : List (Cell ν)) = [] := rfl
  simp only [Written.cells, Statement.whereCells, Statement.groupCells, Statement.orderCells,
    Statement.limitCells, quoted_append _ (tokens (spaced "LIMIT") ++ _), hlimit, quoted_append,
    hselect, hfrom, has, hbase, List.nil_append, List.append_nil, List.mem_append, hitems, htable,
    hjoin, hpredicates, hgroup, horder]
  simp only [Statement.columns, List.mem_append, or_and_right, exists_or]
  exact collect

end Quoted

/-! ## Percent signs of a command -/

section Render

variable {ν : Type} {d : Driver}

theorem mem_unbind {t : Token} {cells : List (Cell ν)} (h : .token t ∈ cells) : t ∈ unbind d cells :=
  List.mem_flatMap.mpr ⟨.token t, h, List.mem_singleton_self t⟩

theorem count_double {q : Char} (hq : q ≠ '%') (text : List Char) :
    (Infra.double q text).count '%' = text.count '%' := by
  induction text with
  | nil => rfl
  | cons c text ih =>
    rw [Infra.double_cons, List.count_append, ih]
    split
    · next hc =>
      subst hc
      rw [List.count_cons_of_ne hq, List.count_cons_of_ne hq, List.count_cons_of_ne hq]
      simp
    · rw [← List.count_append]
      rfl

theorem quote_ne_percent (d : Driver) : d.quote ≠ '%' := by
  cases d <;> decide

theorem count_quoted (text : List Char) :
    ((Token.quoted text).text d.quote).count '%' = text.count '%' := by
  simp only [Token.text, Infra.quote, List.count_cons_of_ne (quote_ne_percent d),
    List.count_append, count_double (quote_ne_percent d), List.count_nil, Nat.add_zero]

/-- Only a quoted name has percent signs of its own. -/
theorem not_mem_token {t : Token} (hfits : t.Fits Infra.isWord d.quote) (hmark : t ≠ .mark '%')
    (hquoted : ∀ text, t = .quoted text → '%' ∉ text) : '%' ∉ t.text d.quote := by
  cases t with
  | word chars => exact fun hmem => absurd (hfits.2 '%' hmem) (by decide)
  | quoted text =>
    rw [← List.count_eq_zero, count_quoted, List.count_eq_zero]
    exact hquoted text rfl
  | mark c =>
    intro hmem
    obtain rfl := List.mem_singleton.mp hmem
    exact hmark rfl

/-- The percent signs of a command are those of its placeholders and those of its names. -/
theorem count_render {cells : List (Cell ν)} (hd : d ≠ .sqlite)
    (hfits : ∀ t, .token t ∈ cells → t.Fits Infra.isWord d.quote)
    (hplain : ∀ t, .token t ∈ cells → t ≠ .mark '%') :
    (Infra.render d.quote (unbind d cells)).count '%' =
      (values cells).length + ((quoted cells).map (List.count '%')).sum := by
  induction cells with
  | nil => rfl
  | cons cell cells ih =>
    have hrest := ih (fun t ht => hfits t (List.mem_cons_of_mem _ ht))
      fun t ht => hplain t (List.mem_cons_of_mem _ ht)
    cases cell with
    | token t =>
      rw [unbind_token_cons, Infra.render_cons, List.count_append, hrest]
      have htoken := not_mem_token (hfits t List.mem_cons_self) (hplain t List.mem_cons_self)
      cases t with
      | quoted text =>
        rw [count_quoted]
        have hcells : quoted (.token (.quoted text) :: cells) = text :: quoted cells := rfl
        have hvalues : values (.token (.quoted text) :: cells) = values cells := rfl
        rw [hcells, hvalues, List.map_cons, List.sum_cons]
        omega
      | word chars =>
        rw [List.count_eq_zero.mpr (htoken nofun)]
        exact Nat.zero_add _
      | mark c =>
        rw [List.count_eq_zero.mpr (htoken nofun)]
        exact Nat.zero_add _
    | value v =>
      have hplaceholder : (Infra.render d.quote d.placeholderTokens).count '%' = 1 := by
        cases d with
        | sqlite => exact absurd rfl hd
        | postgresql | mysql => rfl
      have hquoted : quoted (.value v :: cells) = quoted cells := rfl
      rw [unbind_value_cons, Infra.render_append, List.count_append, hrest, hplaceholder,
        values_value_cons, List.length_cons, hquoted]
      omega

/-- Where no name has a percent sign, the driver finds the placeholders. -/
theorem percents_render {cells : List (Cell ν)} (hd : d ≠ .sqlite)
    (hfits : ∀ t, .token t ∈ cells → t.Fits Infra.isWord d.quote)
    (hplain : ∀ t, .token t ∈ cells → t ≠ .mark '%') (hnames : ∀ x ∈ quoted cells, '%' ∉ x) :
    percents (Infra.render d.quote (unbind d cells)) =
      List.replicate (values cells).length (some 's') := by
  induction cells with
  | nil => rfl
  | cons cell cells ih =>
    have hsub : ∀ x ∈ quoted cells, x ∈ quoted (cell :: cells) := fun x hx =>
      (List.sublist_cons_self cell cells).filterMap _ |>.subset hx
    have hrest := ih (fun t ht => hfits t (List.mem_cons_of_mem _ ht))
      (fun t ht => hplain t (List.mem_cons_of_mem _ ht)) fun x hx => hnames x (hsub x hx)
    cases cell with
    | token t =>
      have htext : '%' ∉ t.text d.quote := by
        refine not_mem_token (hfits t List.mem_cons_self) (hplain t List.mem_cons_self) ?_
        rintro text rfl
        exact hnames text List.mem_cons_self
      rw [unbind_token_cons, Infra.render_cons, percents_append htext, hrest]
      rfl
    | value v =>
      rw [unbind_value_cons, Infra.render_append, values_value_cons, List.length_cons,
        List.replicate_succ, ← hrest]
      cases d with
      | sqlite => exact absurd rfl hd
      | postgresql | mysql => rfl

end Render

/-! ## A plan with one field -/

section Sample

def fieldPlan (fieldPath : String) (h : 1 ≤ fieldPath.length) : GroundedQueryPlan where
  planId := "plan"
  workspaceId := "workspace"
  datasourceId := "shop"
  dataObjectIds := ["orders"]
  dataObjects := [("orders", sampleObject "orders" length_orders)]
  selectedFields := [sampleRef "orders" fieldPath length_orders h]
  expectedResultType := .tabular
  planId_length := Contracts.length_plan
  dataObjectIds_length := by decide
  limit_range := Contracts.defaultLimit_range
  time_together := Contracts.TimeRange.none_together
  output := .inr (by simp)
  dataObjectIds_unique := by decide
  join_required := by simp
  groupBy_selected := by simp
  dataObjects_keys := by decide

def fieldCommand (fieldPath : String) : String :=
  "SELECT t0.\"" ++ fieldPath ++ "\" FROM \"orders\" AS t0 LIMIT %s"

def fieldQuery (fieldPath : String) : NativeQuery where
  datasourceId := "shop"
  planId := "plan"
  queryLanguage := .sql
  command := .text (fieldCommand fieldPath)
  parameters := [.int 200]
  displayCommand := fieldCommand fieldPath

theorem compile_amount :
    SQLCompiler.compile sampleTexts .postgresql (fieldPlan "amount" (by decide)) =
      .ok (fieldQuery "amount") := by
  decide

theorem compile_discount :
    SQLCompiler.compile sampleTexts .postgresql (fieldPlan "discount%" (by decide)) =
      .ok (fieldQuery "discount%") := by
  decide

end Sample

/-! ## The names of a command -/

section Names

variable {t : Texts} {d : Driver} {plan : GroundedQueryPlan} {q : NativeQuery}

theorem mem_head?_iff {α : Type} {as : List α} (h : as.length ≤ 1) (a : α) :
    a ∈ as.head? ↔ a ∈ as := by
  match as, h with
  | [], _ => simp
  | [b], _ => simp [eq_comm]

theorem exists_column {x : List Char} :
    (∃ c ∈ (writtenOf t plan).statement.columns, c.path.toList = x) ↔
      (∃ ref ∈ fieldRefs plan, ref.fieldPath.toList = x) ∨
        ∃ join ∈ plan.joins.head?, join.fromFieldPath.toList = x ∨ join.toFieldPath.toList = x := by
  have hsides : ∀ join, (∃ c ∈ (joinOf plan (nameOf plan) join).columns, c.path.toList = x) ↔
      join.fromFieldPath.toList = x ∨ join.toFieldPath.toList = x := by
    intro join
    by_cases hfrom : join.fromDataObjectId = baseOf plan
    · simp [joinOf, joinedBy, hfrom, Join.columns, nameOf]
    · simp [joinOf, joinedBy, hfrom, Join.columns, nameOf, or_comm]
  constructor
  · rintro ⟨c, hc, hx⟩
    rcases mem_columns.mp hc with ⟨ref, href, rfl⟩ | ⟨join, hjoin, hc⟩
    · exact .inl ⟨ref, href, hx⟩
    · exact .inr ⟨join, hjoin, (hsides join).mp ⟨c, hc, hx⟩⟩
  · rintro (⟨ref, href, hx⟩ | ⟨join, hjoin, hx⟩)
    · exact ⟨_, mem_columns.mpr (.inl ⟨ref, href, rfl⟩), hx⟩
    · obtain ⟨c, hc, hx⟩ := (hsides join).mpr hx
      exact ⟨c, mem_columns.mpr (.inr ⟨join, hjoin, hc⟩), hx⟩

theorem gather {columns ends table joinTable aliases orders : Prop} :
    ((columns ∨ ends) ∨ table ∨ joinTable ∨ aliases ∨ orders) ↔
      ((((table ∨ columns) ∨ aliases) ∨ orders) ∨ joinTable ∨ ends) := by
  tauto

/-- What stands in quotes in a command are the names of the plan. -/
theorem mem_quoted_written (h : Compiled t d plan q) {x : List Char} :
    x ∈ quoted (writtenOf t plan).cells ↔ ∃ name ∈ identifiersOf plan, name.toList = x := by
  have hjoins : (∃ j ∈ (writtenOf t plan).statement.join, ∃ n ∈ j.table.names, n.toList = x) ↔
      ∃ join ∈ plan.joins.head?, ∃ n ∈ (tableOf plan (joinedBy plan join).1).names, n.toList = x := by
    cases hhead : plan.joins.head? <;> simp [writtenOf, statementOf, hhead, joinOf]
  have hitems : (∃ item ∈ (writtenOf t plan).statement.items, ∃ n ∈ item.alias?, n.toList = x) ↔
      ∃ item ∈ plan.aggregates, item.alias_.toList = x := by
    simp [writtenOf, statementOf, itemOf, Item.alias?, or_and_right, exists_or]
  have horders : (∃ o ∈ (writtenOf t plan).statement.orderBy, ∃ n ∈ o.target.alias?, n.toList = x) ↔
      ∃ item ∈ plan.sorts, ∃ n ∈ item.alias?, n.toList = x := by
    simp only [writtenOf, statementOf, List.mem_map, exists_exists_and_eq_and]
    refine exists_congr fun item => and_congr_right fun _ => ?_
    obtain ⟨target, direction⟩ := item
    cases target <;> simp [orderingOf, Target.alias?, PlanSort.alias?]
  have hsorts : (∃ n, (∃ item ∈ plan.sorts, item.alias? = some n) ∧ n.toList = x) ↔
      ∃ item ∈ plan.sorts, ∃ n ∈ item.alias?, n.toList = x := by
    constructor
    · rintro ⟨n, ⟨item, hitem, hn⟩, hx⟩
      exact ⟨item, hitem, n, hn, hx⟩
    · rintro ⟨item, hitem, n, hn, hx⟩
      exact ⟨n, ⟨item, hitem, hn⟩, hx⟩
  have hends : (∃ n, (∃ join ∈ plan.joins, n ∈ (tableOf plan (joinedBy plan join).1).names ∨
      n = join.fromFieldPath ∨ n = join.toFieldPath) ∧ n.toList = x) ↔
      (∃ join ∈ plan.joins, ∃ n ∈ (tableOf plan (joinedBy plan join).1).names, n.toList = x) ∨
        ∃ join ∈ plan.joins, join.fromFieldPath.toList = x ∨ join.toFieldPath.toList = x := by
    constructor
    · rintro ⟨n, ⟨join, hjoin, hn | rfl | rfl⟩, hx⟩
      · exact .inl ⟨join, hjoin, n, hn, hx⟩
      · exact .inr ⟨join, hjoin, .inl hx⟩
      · exact .inr ⟨join, hjoin, .inr hx⟩
    · rintro (⟨join, hjoin, n, hn, hx⟩ | ⟨join, hjoin, hx | hx⟩)
      · exact ⟨n, ⟨join, hjoin, .inl hn⟩, hx⟩
      · exact ⟨_, ⟨join, hjoin, .inr (.inl rfl)⟩, hx⟩
      · exact ⟨_, ⟨join, hjoin, .inr (.inr rfl)⟩, hx⟩
  rw [mem_quoted_cells h.fits, exists_column, hjoins, hitems, horders]
  simp only [mem_head?_iff h.joins, identifiersOf, List.mem_append, List.mem_map, List.mem_filterMap,
    List.mem_flatMap, List.mem_cons, List.not_mem_nil, or_false, or_and_right, exists_or,
    exists_exists_and_eq_and, hsorts, hends]
  exact gather

/-- **A driver of the `format` style finds the placeholders and nothing else if and only if no name of
the command has a percent sign.** -/
theorem percents_compiled (h : SQLCompiler.compile t d plan = .ok q) (hd : d ≠ .sqlite) :
    ∃ command, q.command = .text command ∧
      (percents command.toList = List.replicate q.parameters.length (some 's') ↔
        ∀ name ∈ identifiersOf plan, '%' ∉ name.toList) := by
  have hcompiled := compile_written h
  obtain ⟨command, hq, hwrites⟩ := hcompiled.text
  refine ⟨command, by rw [hq], ?_⟩
  have htold : Told d (writtenOf t plan).cells := told_cells written_named
  have hfits : ∀ t', .token t' ∈ (writtenOf t plan).cells → t'.Fits Infra.isWord d.quote :=
    fun t' ht => htold.clean.fits t' (mem_unbind ht)
  have hplain := fun t' ht => (htold.plain t' ht).ne_placeholder.2
  have hparameters : q.parameters = values (writtenOf t plan).cells := by rw [hq]
  rw [hwrites, hparameters]
  constructor
  · intro hpercents name hname hmem
    have hcount := count_of_percents hpercents
    rw [count_render hd hfits hplain] at hcount
    have hsum : ((quoted (writtenOf t plan).cells).map (List.count '%')).sum = 0 := by omega
    have hquoted := (mem_quoted_written hcompiled).mpr ⟨name, hname, rfl⟩
    have hzero := List.sum_eq_zero_iff_forall_eq_nat.mp hsum _ (List.mem_map_of_mem hquoted)
    exact List.count_eq_zero.mp hzero hmem
  · intro hnames
    refine percents_render hd hfits hplain fun x hx => ?_
    obtain ⟨name, hname, rfl⟩ := (mem_quoted_written hcompiled).mp hx
    exact hnames name hname

theorem amount_percents : ∃ command, (fieldQuery "amount").command = .text command ∧
    percents command.toList = [some 's'] := by
  obtain ⟨command, hcommand, hpercents⟩ := percents_compiled compile_amount nofun
  exact ⟨command, hcommand, hpercents.mpr (by decide)⟩

/-- The percent sign of a column is one conversion too many. -/
theorem discount_percents :
    SQLCompiler.compile sampleTexts .postgresql (fieldPlan "discount%" (by decide)) =
      .ok (fieldQuery "discount%") ∧
    percents (fieldCommand "discount%").toList = [some '"', some 's'] :=
  ⟨compile_discount, by decide⟩

end Names

end Querying
