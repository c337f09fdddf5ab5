import Qaneris.Infra.JsonText
import Qaneris.Querying.Properties.Sql

/-!
# What a compiled command means

* `compile_meaning` — a command says what its plan stands for if and only if the plan is connected,
  and two connected plans with one command ask the same
-/

namespace Querying

open Contracts
open Infra (bind_ok forall₂_of_mapM exists_of_forall₂)

/-! ## Resolving the columns of a statement -/

section Resolve

variable {κ κ' ν : Type} {f : κ → Option κ'}

theorem mapM_eq_some {α β γ : Type} {g : α → Option β} {as : List γ} {a : γ → α} {b : γ → β}
    (h : ∀ c ∈ as, g (a c) = some (b c)) : (as.map a).mapM g = some (as.map b) := by
  induction as with
  | nil => rfl
  | cons c as ih =>
    rw [List.map_cons, List.mapM_cons, h c List.mem_cons_self,
      ih fun d hd => h d (List.mem_cons_of_mem _ hd)]
    rfl

theorem isSome_of_mapM {α β : Type} {g : α → Option β} {as : List α} {bs : List β}
    (h : as.mapM g = some bs) : ∀ a ∈ as, (g a).isSome := by
  induction as generalizing bs with
  | nil => exact fun a ha => absurd ha List.not_mem_nil
  | cons a as ih =>
    rw [List.mapM_cons] at h
    obtain ⟨b, hb, h⟩ := Option.bind_eq_some_iff.mp h
    obtain ⟨rest, hrest, h⟩ := Option.bind_eq_some_iff.mp h
    intro c hc
    rcases List.mem_cons.mp hc with rfl | hc
    · rw [hb]
      rfl
    · exact ih hrest c hc

theorem Item.isSome_of_resolve {item : Item κ} (h : (item.resolve f).isSome) :
    ∀ c ∈ item.columns, (f c).isSome := by
  intro c hc
  cases item with
  | column d =>
    obtain rfl := List.mem_singleton.mp hc
    simpa [Item.resolve] using h
  | aggregate function argument alias_ =>
    cases argument with
    | none => cases hc
    | some d =>
      obtain rfl := List.mem_singleton.mp hc
      simpa [Item.resolve] using h

theorem Target.isSome_of_resolve {target : Target κ} (h : (target.resolve f).isSome) :
    ∀ c ∈ target.columns, (f c).isSome := by
  intro c hc
  cases target with
  | column d =>
    obtain rfl := List.mem_singleton.mp hc
    simpa [Target.resolve] using h
  | alias_ name => cases hc

theorem Join.isSome_of_resolve {join : Join κ} (h : (join.resolve f).isSome) :
    ∀ c ∈ join.columns, (f c).isSome := by
  obtain ⟨join', hjoin⟩ := Option.isSome_iff_exists.mp h
  obtain ⟨left, hleft, hjoin⟩ := Option.bind_eq_some_iff.mp hjoin
  obtain ⟨right, hright, -⟩ := Option.bind_eq_some_iff.mp hjoin
  intro c hc
  rcases List.mem_cons.mp hc with rfl | hc
  · rw [hleft]
    rfl
  · obtain rfl := List.mem_singleton.mp hc
    rw [hright]
    rfl

/-- A statement is resolved only when each of its columns is. -/
theorem Statement.isSome_of_resolve {s : Statement κ ν} {s' : Statement κ' ν}
    (h : s.resolve f = some s') : ∀ c ∈ s.columns, (f c).isSome := by
  obtain ⟨items, hitems, h⟩ := Option.bind_eq_some_iff.mp h
  obtain ⟨join, hjoin, h⟩ := Option.bind_eq_some_iff.mp h
  obtain ⟨predicates, hpredicates, h⟩ := Option.bind_eq_some_iff.mp h
  obtain ⟨groupBy, hgroupBy, h⟩ := Option.bind_eq_some_iff.mp h
  obtain ⟨orderBy, horderBy, -⟩ := Option.bind_eq_some_iff.mp h
  intro c hc
  simp only [Statement.columns, List.mem_append, List.mem_flatMap, List.mem_map] at hc
  rcases hc with ⟨item, hi, hc⟩ | ⟨join', hj, hc⟩ | ⟨p, hp, rfl⟩ | hc | ⟨o, ho, hc⟩
  · exact Item.isSome_of_resolve (isSome_of_mapM hitems item hi) c hc
  · rw [Option.mem_toList.mp hj] at hjoin
    rw [resolveJoin] at hjoin
    refine Join.isSome_of_resolve ?_ c hc
    obtain ⟨resolved, hresolved, -⟩ := Option.map_eq_some_iff.mp hjoin
    rw [hresolved]
    rfl
  · simpa [Predicate.resolve] using isSome_of_mapM hpredicates p hp
  · exact isSome_of_mapM hgroupBy c hc
  · exact Target.isSome_of_resolve (by simpa [Ordering.resolve] using isSome_of_mapM horderBy o ho) c hc

end Resolve

/-! ## The columns of a plan -/

section Columns

variable {κ κ' : Type} {t : Texts} {plan : GroundedQueryPlan} {column : String → String → κ}

theorem mem_timePredicates {c : κ} : c ∈ (timePredicates t plan column).map Predicate.column ↔
    ∃ ref ∈ (if plan.timeRange.any fun range => range.start.isSome ∨ range.stop.isSome then
      plan.timeField.toList else []), refOf column ref = c := by
  rw [timePredicates]
  cases plan.timeField with
  | none => simp
  | some ref =>
    cases plan.timeRange with
    | none => simp
    | some range =>
      obtain ⟨start, stop, hordered⟩ := range
      cases start <;> cases stop <;> simp <;> exact eq_comm

variable {c : κ}

theorem mem_items : c ∈ (statementOf t plan column).items.flatMap Item.columns ↔
    (∃ ref ∈ plan.selectedFields, refOf column ref = c) ∨
      ∃ ref ∈ plan.aggregates.filterMap PlanAggregate.field, refOf column ref = c := by
  simp only [statementOf, List.flatMap_append, List.mem_append, List.mem_flatMap, List.mem_map,
    List.mem_filterMap]
  refine or_congr ⟨?_, ?_⟩ ⟨?_, ?_⟩
  · rintro ⟨_, ⟨ref, href, rfl⟩, hc⟩
    exact ⟨ref, href, (List.mem_singleton.mp hc).symm⟩
  · rintro ⟨ref, href, rfl⟩
    exact ⟨_, ⟨ref, href, rfl⟩, List.mem_singleton_self _⟩
  · rintro ⟨_, ⟨item, hitem, rfl⟩, hc⟩
    obtain ⟨ref, href, rfl⟩ := Option.map_eq_some_iff.mp (Option.mem_toList.mp hc)
    exact ⟨ref, ⟨item, hitem, href⟩, rfl⟩
  · rintro ⟨ref, ⟨item, hitem, href⟩, rfl⟩
    exact ⟨_, ⟨item, hitem, rfl⟩, Option.mem_toList.mpr (Option.map_eq_some_iff.mpr ⟨ref, href, rfl⟩)⟩

theorem mem_joins : c ∈ (statementOf t plan column).join.toList.flatMap Join.columns ↔
    ∃ join ∈ plan.joins.head?, c ∈ (joinOf plan column join).columns := by
  cases h : plan.joins.head? <;> simp [statementOf, h]

theorem mem_predicates : c ∈ (statementOf t plan column).predicates.map Predicate.column ↔
    (∃ ref ∈ plan.filters.map PlanFilter.field, refOf column ref = c) ∨
      ∃ ref ∈ (if plan.timeRange.any fun range => range.start.isSome ∨ range.stop.isSome then
        plan.timeField.toList else []), refOf column ref = c := by
  rw [← mem_timePredicates (t := t), statementOf, List.map_append, List.mem_append]
  simp [predicateOf]

theorem mem_orderings : c ∈ (statementOf t plan column).orderBy.flatMap (fun o => o.target.columns) ↔
    ∃ ref ∈ plan.sorts.filterMap PlanSort.field, refOf column ref = c := by
  have hsort : ∀ item : PlanSort, c ∈ (orderingOf column item).target.columns ↔
      ∃ ref, item.field = some ref ∧ refOf column ref = c := by
    rintro ⟨target, direction⟩
    cases target <;> simp [orderingOf, Target.columns, PlanSort.field, eq_comm]
  simp only [statementOf, List.mem_flatMap, List.mem_map, List.mem_filterMap]
  constructor
  · rintro ⟨_, ⟨item, hitem, rfl⟩, hc⟩
    obtain ⟨ref, href, rfl⟩ := (hsort item).mp hc
    exact ⟨ref, ⟨item, hitem, href⟩, rfl⟩
  · rintro ⟨ref, ⟨item, hitem, href⟩, rfl⟩
    exact ⟨_, ⟨item, hitem, rfl⟩, (hsort item).mpr ⟨ref, href, rfl⟩⟩

/-- The columns of a statement are those of the fields of the plan, and the two of its join. -/
theorem mem_columns : c ∈ (statementOf t plan column).columns ↔
    (∃ ref ∈ fieldRefs plan, refOf column ref = c) ∨
      ∃ join ∈ plan.joins.head?, c ∈ (joinOf plan column join).columns := by
  have hgroup : c ∈ (statementOf t plan column).groupBy ↔
      ∃ ref ∈ plan.groupBy, refOf column ref = c := List.mem_map
  rw [Statement.columns, List.mem_append, List.mem_append, List.mem_append, List.mem_append, mem_items,
    mem_joins, mem_predicates, hgroup, mem_orderings, or_left_comm, or_comm]
  simp only [fieldRefs, List.mem_append, or_and_right, exists_or, or_assoc]

end Columns

section Statement

variable {κ κ' : Type} {t : Texts} {plan : GroundedQueryPlan} {column : String → String → κ}
  {column' : String → String → κ'} {f : κ → Option κ'}

/-- When each field of the plan is resolved, and so is its join, the statement is. -/
theorem resolve_statementOf
    (hrefs : ∀ ref ∈ fieldRefs plan, f (refOf column ref) = some (refOf column' ref))
    (hjoin : ∀ join ∈ plan.joins.head?,
      (joinOf plan column join).resolve f = some (joinOf plan column' join)) :
    (statementOf t plan column).resolve f = some (statementOf t plan column') := by
  simp only [fieldRefs, List.mem_append, List.mem_filterMap, List.mem_map, or_imp, forall_and] at hrefs
  obtain ⟨⟨⟨⟨⟨hselected, haggregates⟩, hfilters⟩, htime⟩, hgroup⟩, hsorts⟩ := hrefs
  have hcolumns : (plan.selectedFields.map fun ref => Item.column (refOf column ref)).mapM
      (Item.resolve f) = some (plan.selectedFields.map fun ref => .column (refOf column' ref)) :=
    mapM_eq_some fun ref href => by rw [Item.resolve, hselected ref href, Option.map_some]
  have hitems : (plan.aggregates.map (itemOf column)).mapM (Item.resolve f) =
      some (plan.aggregates.map (itemOf column')) := by
    refine mapM_eq_some fun item hitem => ?_
    cases hfield : item.field with
    | none => simp [itemOf, hfield, Item.resolve]
    | some ref => simp [itemOf, hfield, Item.resolve, haggregates ref ⟨item, hitem, hfield⟩]
  have hfiltered : (plan.filters.map (predicateOf t column)).mapM (Predicate.resolve f) =
      some (plan.filters.map (predicateOf t column')) := by
    refine mapM_eq_some fun item hitem => ?_
    rw [Predicate.resolve, predicateOf, hfilters item.field ⟨item, hitem, rfl⟩]
    rfl
  have htimes : (timePredicates t plan column).mapM (Predicate.resolve f) =
      some (timePredicates t plan column') := by
    rw [timePredicates, timePredicates]
    cases hfield : plan.timeField with
    | none => rfl
    | some ref =>
      cases hrange : plan.timeRange with
      | none => rfl
      | some range =>
        obtain ⟨start, stop, hordered⟩ := range
        rw [hfield, hrange] at htime
        cases start <;> cases stop
        · rfl
        all_goals
          have href := htime ref (by simp)
          simp [Predicate.resolve, href]
  have hgroups : (plan.groupBy.map (refOf column)).mapM f = some (plan.groupBy.map (refOf column')) :=
    mapM_eq_some hgroup
  have horders : (plan.sorts.map (orderingOf column)).mapM (Ordering.resolve f) =
      some (plan.sorts.map (orderingOf column')) := by
    refine mapM_eq_some fun item hitem => ?_
    obtain ⟨target, direction⟩ := item
    cases target with
    | field ref =>
      simp [Ordering.resolve, orderingOf, Target.resolve, hsorts ref ⟨_, hitem, rfl⟩]
    | aggregate alias_ h => rfl
  have hjoins : resolveJoin f (plan.joins.head?.map (joinOf plan column)) =
      some (plan.joins.head?.map (joinOf plan column')) := by
    cases hhead : plan.joins.head? with
    | none => rfl
    | some join =>
      rw [Option.map_some, resolveJoin, hjoin join hhead]
      rfl
  rw [Statement.resolve, statementOf]
  simp only [List.mapM_append, hcolumns, hitems, hjoins, hfiltered, htimes, hgroups, horders,
    Option.bind_eq_bind, Option.bind_some, Option.pure_def]
  rfl

end Statement

/-! ## Aliases -/

section Aliases

variable {t : Texts} {plan : GroundedQueryPlan}

theorem aliasOf_inj {a b : String} (ha : a ∈ plan.dataObjectIds)
    (h : SQLCompiler.aliasOf plan a = SQLCompiler.aliasOf plan b) : a = b := by
  have hrepr : Nat.repr (plan.dataObjectIds.idxOf a) = Nat.repr (plan.dataObjectIds.idxOf b) :=
    String.append_right_inj "t" |>.mp h
  exact (List.idxOf_inj ha).mp (Infra.repr_inj hrepr)

theorem isWord_of_isDigit {c : Char} (h : c.isDigit = true) : Infra.isWord c = true := by
  have hdigit : Infra.isAsciiDigit c = true := by
    simpa [Char.isDigit, Infra.isAsciiDigit, Char.le_def] using h
  have hlt : c.toNat < 0x80 := by
    simp only [Char.isDigit, Bool.and_eq_true, decide_eq_true_eq] at h
    have h9 : c.val.toNat ≤ 57 := h.2
    exact Nat.lt_of_le_of_lt h9 (by decide)
  simp [Infra.isWord, Infra.isAlnum, hlt, hdigit]

/-- No operation that the gate forbids begins with `t`. -/
theorem allowed_alias (digits : List Char) :
    ∀ operation ∈ forbiddenOperations, Infra.dropWord operation.toList ('t' :: digits) ≠ some [] := by
  intro operation hmem
  simp only [forbiddenOperations, List.mem_cons, List.not_mem_nil, or_false] at hmem
  rcases hmem with rfl | rfl | rfl | rfl | rfl | rfl | rfl | rfl | rfl | rfl | rfl | rfl | rfl <;>
    exact nofun

theorem isWord_aliasOf (objectId : String) : IsWord (SQLCompiler.aliasOf plan objectId).toList := by
  rw [SQLCompiler.aliasOf, String.toList_append, Nat.toList_repr]
  refine ⟨by simp, fun c hc => ?_, allowed_alias _⟩
  rcases List.mem_append.mp hc with hc | hc
  · obtain rfl : c = 't' := by simpa using hc
    decide
  · exact isWord_of_isDigit (Nat.isDigit_of_mem_toDigits (by decide) (by decide) hc)

theorem baseOf_mem : baseOf plan ∈ plan.dataObjectIds := by
  have hlength := plan.dataObjectIds_length
  rw [baseOf]
  cases hids : plan.dataObjectIds with
  | nil => simp [hids] at hlength
  | cons base ids => exact List.mem_cons_self

theorem written_named : (writtenOf t plan).Named where
  base := isWord_aliasOf _
  join := by
    intro a ha
    obtain ⟨join, -, rfl⟩ := Option.map_eq_some_iff.mp ha
    exact isWord_aliasOf _
  columns := by
    intro c hc
    rcases mem_columns.mp hc with ⟨ref, -, rfl⟩ | ⟨join, -, hc⟩
    · exact isWord_aliasOf _
    · rcases List.mem_cons.mp hc with rfl | hc
      · exact isWord_aliasOf _
      · obtain rfl := List.mem_singleton.mp hc
        exact isWord_aliasOf _

theorem mem_head_iff (hlength : plan.joins.length ≤ 1) (join : PlanJoin) :
    join ∈ plan.joins ↔ join ∈ plan.joins.head? := by
  match plan.joins, hlength with
  | [], _ => simp
  | [other], _ => simp [eq_comm]

/-- The table that the alias of an object of the plan stands for. -/
theorem written_column {objectId path : String} (h : objectId ∈ plan.dataObjectIds) :
    (writtenOf t plan).column (nameOf plan objectId path) =
      if objectId = baseOf plan then some ⟨.base, path⟩
      else if ∃ join ∈ plan.joins.head?, (joinedBy plan join).1 = objectId then some ⟨.joined, path⟩
      else none := by
  have halias : ∀ b, (SQLCompiler.aliasOf plan objectId).toList = (SQLCompiler.aliasOf plan b).toList ↔
      objectId = b := by
    intro b
    rw [String.toList_inj]
    exact ⟨aliasOf_inj h, fun hb => by rw [hb]⟩
  have hjoin : (writtenOf t plan).joinAlias = some (SQLCompiler.aliasOf plan objectId).toList ↔
      ∃ join ∈ plan.joins.head?, (joinedBy plan join).1 = objectId := by
    simp only [writtenOf, Option.map_eq_some_iff, Option.mem_def]
    exact exists_congr fun join => and_congr_right fun _ => by rw [eq_comm, halias, eq_comm]
  simp only [Written.column, nameOf, hjoin]
  simp only [writtenOf, halias]

theorem joinAlias_eq_iff (hlength : plan.joins.length ≤ 1)
    (hjoined : ∀ join ∈ plan.joins, (joinedBy plan join).1 ∈ plan.dataObjectIds) :
    (writtenOf t plan).joinAlias = some (writtenOf t plan).baseAlias ↔
      ∃ join ∈ plan.joins, (joinedBy plan join).1 = baseOf plan := by
  have hhead := mem_head_iff hlength
  simp only [writtenOf, Option.map_eq_some_iff, String.toList_inj, hhead, Option.mem_def]
  refine exists_congr fun join => and_congr_right fun hjoin => ?_
  exact ⟨aliasOf_inj (hjoined join ((hhead join).mpr hjoin)), fun h => by rw [h]⟩

/-- Whatever a plan is read as, its fields are those of the two tables. -/
theorem connected_of_resolve
    (hfields : ∀ ref ∈ fieldRefs plan, ref.dataObjectId ∈ plan.dataObjectIds)
    (hlength : plan.joins.length ≤ 1)
    (hjoined : ∀ join ∈ plan.joins, (joinedBy plan join).1 ∈ plan.dataObjectIds)
    {s : Statement Column Value} (h : (writtenOf t plan).resolve = some s) : Connected plan := by
  rw [Written.resolve] at h
  split at h
  · cases h
  next hdistinct =>
  rw [joinAlias_eq_iff hlength hjoined] at hdistinct
  refine ⟨fun join hjoin hbase => hdistinct ⟨join, hjoin, hbase⟩, fun ref href => ?_⟩
  have hcolumn := Statement.isSome_of_resolve h (refOf (nameOf plan) ref)
    (mem_columns.mpr (.inl ⟨ref, href, rfl⟩))
  rw [refOf, written_column (hfields ref href)] at hcolumn
  by_cases hbase : ref.dataObjectId = baseOf plan
  · exact .inl hbase
  · rw [if_neg hbase] at hcolumn
    split at hcolumn
    · next hjoin =>
      obtain ⟨join, hjoin, hid⟩ := hjoin
      exact .inr ⟨join, (mem_head_iff hlength join).mpr hjoin, hid.symm⟩
    · cases hcolumn

/-- What a plan with its own join means is what is written for it. -/
theorem resolve_writtenOf
    (hfields : ∀ ref ∈ fieldRefs plan, ref.dataObjectId ∈ plan.dataObjectIds)
    (hlength : plan.joins.length ≤ 1)
    (hjoined : ∀ join ∈ plan.joins, (joinedBy plan join).1 ∈ plan.dataObjectIds) :
    (writtenOf t plan).resolve = some (meaning t plan) ↔ Connected plan := by
  have hhead := mem_head_iff hlength
  have halias := joinAlias_eq_iff (t := t) hlength hjoined
  constructor
  · exact connected_of_resolve hfields hlength hjoined
  · rintro ⟨hdistinct, hconnected⟩
    have hjoinColumn : ∀ join ∈ plan.joins, ∀ path,
        (writtenOf t plan).column (nameOf plan (joinedBy plan join).1 path) =
          some (columnOf plan (joinedBy plan join).1 path) := by
      intro join hjoin path
      rw [written_column (hjoined join hjoin), if_neg (hdistinct join hjoin),
        if_pos ⟨join, (hhead join).mp hjoin, rfl⟩, columnOf, if_neg (hdistinct join hjoin)]
    have hbaseColumn : ∀ path, (writtenOf t plan).column (nameOf plan (baseOf plan) path) =
        some (columnOf plan (baseOf plan) path) := by
      intro path
      rw [written_column baseOf_mem, if_pos rfl, columnOf, if_pos rfl]
    rw [Written.resolve, if_neg (halias.not.mpr fun ⟨join, hjoin, hbase⟩ => hdistinct join hjoin hbase)]
    refine resolve_statementOf (fun ref href => ?_) fun join hjoin => ?_
    · rcases hconnected ref href with hbase | ⟨join, hjoin, hid⟩
      · rw [refOf, refOf, hbase, hbaseColumn]
      · rw [refOf, refOf, hid, hjoinColumn join hjoin]
    · simp only [Join.resolve, joinOf, hbaseColumn, hjoinColumn join ((hhead join).mpr hjoin)]
      rfl

end Aliases

/-! ## The shape of a command -/

section Shape

variable {ν ν' : Type} (g : ν → ν')

def Cell.map : Cell ν → Cell ν'
  | .token t => .token t
  | .value v => .value (g v)

def Written.map (w : Written ν) : Written ν' :=
  { baseAlias := w.baseAlias, joinAlias := w.joinAlias, statement := w.statement.map g }

variable {g}

theorem map_tokens (ts : List Infra.Token) : (tokens ts).map (Cell.map g) = tokens ts := by
  rw [tokens, List.map_map]
  rfl

theorem map_joined (separator : List Infra.Token) (items : List (List (Cell ν))) :
    (joined separator items).map (Cell.map g) =
      joined separator (items.map (List.map (Cell.map g))) := by
  induction items with
  | nil => rfl
  | cons x xs ih =>
    cases xs with
    | nil => simp
    | cons y ys =>
      rw [joined_cons_cons, List.map_append, List.map_append, map_tokens, ih]
      simp only [List.map_cons, joined_cons_cons]

theorem map_clause (keyword separator : List Infra.Token) (items : List (List (Cell ν))) :
    (clauseCells keyword separator items).map (Cell.map g) =
      clauseCells keyword separator (items.map (List.map (Cell.map g))) := by
  cases items with
  | nil => rfl
  | cons x xs => simp only [clauseCells, List.map_append, map_tokens, map_joined, List.map_cons,
      reduceCtorEq, if_false]

theorem map_columnCells (c : ColumnName) : c.cells.map (Cell.map g) = c.cells := rfl

theorem map_tableCells (table : TableName) : table.cells.map (Cell.map g) = table.cells := by
  rw [TableName.cells, TableName.cells]
  cases table.space <;> rfl

theorem map_itemCells (item : Item ColumnName) : item.cells.map (Cell.map g) = item.cells := by
  cases item with
  | column c => rfl
  | aggregate function argument alias_ => cases argument <;> rfl

theorem map_testCells (test : Test ν) : test.cells.map (Cell.map g) = (test.map g).cells := by
  cases test with
  | isIn vs =>
    simp only [Test.cells, Test.map, List.map_append, map_tokens, map_joined, List.map_map]
    rfl
  | compare op v =>
    simp only [Test.cells, Test.map, List.map_append, map_tokens]
    rfl
  | isNull | isNotNull | between | like => rfl

theorem map_predicateCells (p : Predicate ColumnName ν) :
    p.cells.map (Cell.map g) = (p.map g).cells := by
  rw [Predicate.cells, List.map_append, map_columnCells, map_testCells]
  rfl

theorem map_orderingCells (o : Ordering ColumnName) : o.cells.map (Cell.map g) = o.cells := by
  obtain ⟨target, descending⟩ := o
  cases target <;> rfl

theorem map_joinCells (join : Option (List Char × Join ColumnName)) :
    (joinCells join).map (Cell.map g) = joinCells join := by
  cases join with
  | none => rfl
  | some pair => simp only [joinCells, List.map_append, map_tokens, map_tableCells, map_columnCells]

/-- Where the values of a statement stand does not depend on what they are. -/
theorem map_cells (w : Written ν) : w.cells.map (Cell.map g) = (w.map g).cells := by
  have hjoin : (w.map g).join = w.join := rfl
  simp only [Written.cells, Statement.whereCells, Statement.groupCells, Statement.orderCells,
    Statement.limitCells, List.map_append, map_tokens, map_joined, map_clause, map_tableCells,
    map_joinCells, List.map_map, Function.comp_def, map_itemCells, map_columnCells, map_orderingCells,
    map_predicateCells, hjoin]
  simp only [Written.map, Statement.map, List.map_map, Function.comp_def]
  rfl

theorem Written.Fits.map {w : Written ν} (h : w.Fits) : (w.map g).Fits where
  items := h.items
  join := h.join
  isIn := by
    intro mapped hmapped
    obtain ⟨p, hp, rfl⟩ := List.mem_map.mp hmapped
    have hisIn := h.isIn p hp
    cases htest : p.test with
    | isIn vs =>
      intro hnil
      rw [Predicate.map, htest] at hnil
      simp only [Test.map, Test.isIn.injEq, List.map_eq_nil_iff] at hnil
      exact hisIn (by rw [htest, hnil])
    | isNull | isNotNull | compare | between | like => simp [Predicate.map, htest, Test.map]

/-- One command is written for statements of one shape only. -/
theorem shape_of_writes {d : Driver} {w w' : Written ν} (hw : w.Fits) (hw' : w'.Fits)
    (hn : w.Named) (hn' : w'.Named) {command : String} (h : Writes d command w.cells)
    (h' : Writes d command w'.cells) : w.map (fun _ => ()) = w'.map fun _ => () := by
  have htold := told_cells (d := d) hn
  have htold' := told_cells (d := d) hn'
  have hlex := Infra.lex_render (isWord_quote d) htold.clean
  rw [← h, h', Infra.lex_render (isWord_quote d) htold'.clean] at hlex
  have hholes : w.cells.map Cell.hole = w'.cells.map Cell.hole := by
    rw [← holes_unbind (d := d) htold.plain, ← holes_unbind (d := d) htold'.plain,
      Option.some.inj hlex]
  have hhole : (Cell.hole : Cell ν → Cell Unit) = Cell.map fun _ => () := by
    funext cell
    cases cell <;> rfl
  rw [hhole, map_cells, map_cells] at hholes
  have hparse := parse_cells (hw.map (g := fun _ => ()))
  rw [hholes, parse_cells hw'.map] at hparse
  exact (Option.some.inj hparse).symm

theorem map_resolve {κ κ' : Type} {f : κ → Option κ'} (s : Statement κ ν) :
    (s.map g).resolve f = (s.resolve f).map (Statement.map g) := by
  have hpredicates : (s.predicates.map (Predicate.map g)).mapM (Predicate.resolve f) =
      (s.predicates.mapM (Predicate.resolve f)).map (List.map (Predicate.map g)) := by
    induction s.predicates with
    | nil => rfl
    | cons p ps ih =>
      rw [List.map_cons, List.mapM_cons, List.mapM_cons, ih]
      simp only [Predicate.resolve, Predicate.map]
      cases f p.column <;> cases ps.mapM (Predicate.resolve f) <;> rfl
  simp only [Statement.resolve, Statement.map, hpredicates]
  cases s.items.mapM (Item.resolve f) <;> cases resolveJoin f s.join <;>
    cases s.predicates.mapM (Predicate.resolve f) <;> cases s.groupBy.mapM f <;>
    cases s.orderBy.mapM (Ordering.resolve f) <;> rfl

theorem Written.resolve_map (w : Written ν) : (w.map g).resolve = w.resolve.map (Statement.map g) := by
  have hmap : (w.map g).resolve =
      if w.joinAlias = some w.baseAlias then none else (w.statement.map g).resolve w.column := rfl
  rw [hmap, Written.resolve]
  split
  · rfl
  · exact map_resolve w.statement

end Shape

/-! ## A plan of three objects and one join -/

section Sample

/-- What Python makes of a text and of a number. -/
def sampleTexts : Texts where
  str
    | .str s => s
    | .int n => toString n
    | _ => ""
  isoformat m := toString m.day
  escape := id
  dumps
    | .str s => "\"" ++ s ++ "\""
    | _ => ""
  repr
    | .str s => "'" ++ s ++ "'"
    | .int n => toString n
    | _ => "None"
  reprLanguage _ := "<QueryLanguage.SQL: 'sql'>"

def sampleRef (objectId fieldPath : String) (ho : 1 ≤ objectId.length) (hf : 1 ≤ fieldPath.length) :
    GroundedFieldRef where
  datasourceId := "shop"
  dataObjectId := objectId
  fieldPath := fieldPath
  datasourceId_length := by decide
  dataObjectId_length := ho
  fieldPath_length := hf

def sampleObject (name : String) (h : 1 ≤ name.length) : GroundedDataObjectRef where
  datasourceId := "shop"
  dataObjectId := name
  name := some name
  datasourceId_length := by decide
  dataObjectId_length := h
  name_length := by
    rintro n hn
    obtain rfl := Option.some.inj hn
    exact h

theorem sampleObject_keys (name : String) (h : 1 ≤ name.length) : ∀ entry ∈ [(name, sampleObject name h)],
    entry.2.dataObjectId = entry.1 ∧ entry.2.datasourceId = "shop" := by
  intro entry he
  obtain rfl := List.mem_singleton.mp he
  exact ⟨rfl, rfl⟩

/-- Orders of a customer, with a field that is one of neither object. -/
def danglingPlan (objectId : String) (h : 1 ≤ objectId.length) : GroundedQueryPlan where
  planId := "plan"
  workspaceId := "workspace"
  datasourceId := "shop"
  dataObjectIds := ["customers", "orders", "regions"]
  dataObjects := [("customers", sampleObject "customers" (by decide)),
    ("orders", sampleObject "orders" (by decide)), ("regions", sampleObject "regions" (by decide))]
  selectedFields := [sampleRef objectId "na\"me; --" h (by decide)]
  joins := [{
    datasourceId := "shop", relationshipId := "placed_by", fromDataObjectId := "orders"
    fromFieldPath := "customer_id", toDataObjectId := "customers", toFieldPath := "id"
    fromFieldPath_length := by decide, toFieldPath_length := by decide }]
  expectedResultType := .tabular
  planId_length := Contracts.length_plan
  dataObjectIds_length := by decide
  limit_range := Contracts.defaultLimit_range
  time_together := Contracts.TimeRange.none_together
  output := .inr (by simp)
  dataObjectIds_unique := by decide
  join_required := by simp
  groupBy_selected := by simp
  dataObjects_keys := by decide

/-- The command of the plan for SQLite. -/
def danglingCommand (alias_ : String) : String :=
  "SELECT " ++ alias_ ++ ".\"na\"\"me; --\" FROM \"customers\" AS t0 JOIN \"orders\" AS t1 ON " ++
    "t0.\"id\" = t1.\"customer_id\" LIMIT ?"

def danglingQuery (alias_ : String) : NativeQuery where
  datasourceId := "shop"
  planId := "plan"
  queryLanguage := .sql
  command := .text (danglingCommand alias_)
  parameters := [.int 200]
  displayCommand := danglingCommand alias_

theorem compile_customers :
    SQLCompiler.compile sampleTexts .sqlite (danglingPlan "customers" (by decide)) =
      .ok (danglingQuery "t0") := by
  decide

theorem compile_regions :
    SQLCompiler.compile sampleTexts .sqlite (danglingPlan "regions" (by decide)) =
      .ok (danglingQuery "t2") := by
  decide

end Sample

/-! ## The meaning of a command -/

section Meaning

variable {t : Texts} {d : Driver} {plan : GroundedQueryPlan} {q : NativeQuery}

theorem decode_compiled {command : String} (h : SQLCompiler.compile t d plan = .ok q)
    (hcommand : q.command = .text command) :
    decode d command q.parameters = some (meaning t plan) ↔ Connected plan := by
  have hcompiled := compile_written h
  obtain ⟨text, hq, hwrites⟩ := hcompiled.text
  subst hq
  obtain rfl := Command.text.inj hcommand
  rw [decode_command hcompiled.fits written_named hwrites]
  exact resolve_writtenOf hcompiled.fields hcompiled.joins hcompiled.joined

/-- A command that can be read says what its plan stands for. -/
theorem meaning_of_decode {command : String} (h : SQLCompiler.compile t d plan = .ok q)
    (hcommand : q.command = .text command) {s : Statement Column Value}
    (hs : decode d command q.parameters = some s) : Connected plan ∧ s = meaning t plan := by
  have hcompiled := compile_written h
  obtain ⟨text, hq, hwrites⟩ := hcompiled.text
  subst hq
  obtain rfl := Command.text.inj hcommand
  have hresolve := hs
  rw [decode_command hcompiled.fits written_named hwrites] at hresolve
  have hconnected := connected_of_resolve hcompiled.fields hcompiled.joins hcompiled.joined hresolve
  have hmeaning := (decode_compiled h hcommand).mpr hconnected
  exact ⟨hconnected, Option.some.inj (hs.symm.trans hmeaning)⟩

/-- **A command says what its plan stands for if and only if the plan is connected**, and two
connected plans of one command ask for the same. -/
theorem compile_meaning (h : SQLCompiler.compile t d plan = .ok q) :
    ∃ command, q.command = .text command ∧
      (decode d command q.parameters = some (meaning t plan) ↔ Connected plan) ∧
      (Connected plan → ∀ other q', SQLCompiler.compile t d other = .ok q' → Connected other →
        q'.command = .text command →
        (meaning t plan).map (fun _ => ()) = (meaning t other).map fun _ => ()) := by
  obtain ⟨command, hq, hwrites⟩ := (compile_written h).text
  have hcommand : q.command = .text command := by rw [hq]
  refine ⟨command, hcommand, decode_compiled h hcommand, ?_⟩
  intro hconnected other q' h' hconnected' hsame
  obtain ⟨command', hq', hwrites'⟩ := (compile_written h').text
  obtain rfl : command' = command := by
    rw [hq'] at hsame
    exact Command.text.inj hsame
  have hcompiled := compile_written h
  have hcompiled' := compile_written h'
  have hshape := shape_of_writes hcompiled.fits hcompiled'.fits written_named written_named hwrites
    hwrites'
  have hmeaning := (resolve_writtenOf (t := t) hcompiled.fields hcompiled.joins
    hcompiled.joined).mpr hconnected
  have hmeaning' := (resolve_writtenOf (t := t) hcompiled'.fields hcompiled'.joins
    hcompiled'.joined).mpr hconnected'
  have hresolved := Written.resolve_map (g := fun _ => ()) (writtenOf t plan)
  rw [hshape, Written.resolve_map, hmeaning, hmeaning'] at hresolved
  exact (Option.some.inj hresolved).symm

theorem customers_meaning :
    ∃ command, (danglingQuery "t0").command = .text command ∧
      decode .sqlite command (danglingQuery "t0").parameters =
        some (meaning sampleTexts (danglingPlan "customers" (by decide))) := by
  obtain ⟨command, hcommand, hmeaning, -⟩ := compile_meaning compile_customers
  exact ⟨command, hcommand, hmeaning.mpr (by decide)⟩

/-- The alias `t2` stands for no table of the command. -/
theorem regions_dangle :
    SQLCompiler.compile sampleTexts .sqlite (danglingPlan "regions" (by decide)) =
      .ok (danglingQuery "t2") ∧
    decode .sqlite (danglingCommand "t2") (danglingQuery "t2").parameters = none :=
  ⟨compile_regions, by decide +kernel⟩

end Meaning

end Querying
