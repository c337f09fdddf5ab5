import Mathlib.Data.List.Induction
import Mathlib.Data.List.Nodup
import Qaneris.Querying.Results
import Qaneris.Querying.Properties.Native

/-!
# Reading pipelines back

* `mongoRows_eq` — what the pipeline of a compiled plan returns: the documents that the filter lets
  through, grouped and projected as the plan says
-/

namespace Querying

open Contracts
open Infra (bind_ok)

/-! ## Dictionaries -/

section Dictionaries

variable {fields : List (String × Value)} {key k : String} {v : Value}

theorem lookup_cons_eq {α : Type} (name : String) (a : α) (rest : List (String × α)) (k : String) :
    List.lookup k ((name, a) :: rest) = if k = name then some a else List.lookup k rest := by
  rw [List.lookup_cons]
  by_cases h : k = name
  · simp [h]
  · rw [if_neg h, beq_false_of_ne h]

theorem lookup_setItem :
    (setItem fields key v).lookup k = if k = key then some v else fields.lookup k := by
  have hmap : (fields.map fun field => if field.1 = key then (key, v) else field).lookup k =
      if k = key ∧ (fields.any fun field => field.1 = key) then some v
      else fields.lookup k := by
    induction fields with
    | nil => simp
    | cons field fields ih =>
      obtain ⟨name, w⟩ := field
      rw [List.map_cons, List.any_cons]
      by_cases hname : name = key
      · subst hname
        rw [if_pos rfl, lookup_cons_eq, lookup_cons_eq, ih]
        by_cases hk : k = name <;> simp [hk]
      · rw [if_neg hname, lookup_cons_eq, lookup_cons_eq, ih]
        by_cases hk : k = name
        · subst hk
          simp [hname]
        · rw [if_neg hk, if_neg hk, decide_eq_false hname, Bool.false_or]
  have hnone : (fields.any fun field => field.1 = key) = false → fields.lookup key = none := by
    intro h
    rw [List.lookup_eq_none_iff]
    intro field hfield
    have hne : field.1 ≠ key := by simpa using List.any_eq_false.mp h field hfield
    simpa using Ne.symm hne
  unfold setItem
  split
  · next hany =>
    rw [hmap]
    simp [hany]
  · next hany =>
    rw [List.lookup_append, lookup_cons_eq]
    by_cases hk : k = key
    · rw [hk, hnone (Bool.eq_false_iff.mpr hany)]
      simp
    · simp [hk]

theorem mem_setItem {field : String × Value} (h : field ∈ setItem fields key v) :
    field = (key, v) ∨ field ∈ fields := by
  unfold setItem at h
  split at h
  · obtain ⟨old, hold, rfl⟩ := List.mem_map.mp h
    split
    · exact Or.inl rfl
    · exact Or.inr hold
  · rcases List.mem_append.mp h with hold | hnew
    · exact Or.inr hold
    · exact Or.inl (List.mem_singleton.mp hnew)

/-- One assignment for each item. -/
def setAll {α : Type} (name : α → String) (value : α → Value) (items : List α)
    (fields : List (String × Value)) : List (String × Value) :=
  items.foldl (fun fields item => setItem fields (name item) (value item)) fields

variable {α : Type} {name : α → String} {value : α → Value} {items : List α}

theorem lookup_setAll : (setAll name value items fields).lookup k =
    ((items.reverse.find? fun item => name item = k).map value).or (fields.lookup k) := by
  induction items generalizing fields with
  | nil => rfl
  | cons item items ih =>
    have hstep : setAll name value (item :: items) fields =
        setAll name value items (setItem fields (name item) (value item)) := rfl
    rw [hstep, ih, lookup_setItem, List.reverse_cons, List.find?_append]
    cases items.reverse.find? (fun item => name item = k) with
    | some later => rfl
    | none =>
      by_cases hk : name item = k
      · simp [hk]
      · simp [hk, Ne.symm hk]

theorem mem_setAll {field : String × Value} (h : field ∈ setAll name value items fields) :
    (∃ item ∈ items, field = (name item, value item)) ∨ field ∈ fields := by
  induction items generalizing fields with
  | nil => exact Or.inr h
  | cons item items ih =>
    rcases ih h with ⟨other, hother, rfl⟩ | hmem
    · exact Or.inl ⟨other, List.mem_cons_of_mem _ hother, rfl⟩
    · rcases mem_setItem hmem with rfl | hold
      · exact Or.inl ⟨item, List.mem_cons_self, rfl⟩
      · exact Or.inr hold

theorem length_setAll_le : (setAll name value items []).length ≤ items.length := by
  induction items using List.reverseRecOn with
  | nil => exact Nat.le_refl 0
  | append_singleton items item ih =>
    have hstep : setAll name value (items ++ [item]) [] =
        setItem (setAll name value items []) (name item) (value item) := List.foldl_append
    rw [hstep, List.length_append, setItem]
    split
    · rw [List.length_map]
      exact Nat.le_succ_of_le ih
    · rw [List.length_append]
      exact Nat.add_le_add_right ih 1

/-- A dictionary with an entry for each item is the list of its entries. -/
theorem setAll_of_length (h : (setAll name value items []).length = items.length) :
    (items.map name).Nodup ∧
      setAll name value items [] = items.map fun item => (name item, value item) := by
  induction items using List.reverseRecOn with
  | nil => exact ⟨List.nodup_nil, rfl⟩
  | append_singleton items item ih =>
    have hstep : setAll name value (items ++ [item]) [] =
        setItem (setAll name value items []) (name item) (value item) := List.foldl_append
    have hle : (setAll name value items []).length ≤ items.length := length_setAll_le
    rw [hstep, List.length_append] at h
    unfold setItem at h
    split at h
    · -- an entry was replaced, so one is missing
      rw [List.length_map, List.length_singleton] at h
      omega
    · next hany =>
      rw [List.length_append, List.length_singleton, List.length_singleton] at h
      obtain ⟨hnodup, heq⟩ := ih (Nat.add_right_cancel h)
      rw [hstep, setItem, if_neg hany, heq]
      rw [heq] at hany
      refine ⟨?_, by rw [List.map_append]; rfl⟩
      rw [List.map_append, List.nodup_append]
      refine ⟨hnodup, List.nodup_singleton _, ?_⟩
      rintro other hother _ hname rfl
      rw [List.mem_singleton.mp hname] at hother
      obtain ⟨old, hold, he⟩ := List.mem_map.mp hother
      exact hany (List.any_eq_true.mpr ⟨_, List.mem_map_of_mem hold, by simpa using he⟩)

theorem lookup_map_key {β : Type} {names : List String} {f : String → β} (h : k ∈ names) :
    (names.map fun n => (n, f n)).lookup k = some (f k) := by
  induction names with
  | nil => cases h
  | cons n names ih =>
    rw [List.map_cons, lookup_cons_eq]
    by_cases hk : k = n
    · rw [if_pos hk, hk]
    · rw [if_neg hk]
      exact ih ((List.mem_cons.mp h).resolve_left hk)

theorem lookup_filter_ne (hk : k ≠ key) :
    (fields.filter fun field => field.1 ≠ key).lookup k = fields.lookup k := by
  induction fields with
  | nil => rfl
  | cons field fields ih =>
    obtain ⟨name, w⟩ := field
    rw [List.filter_cons, lookup_cons_eq]
    by_cases hname : name = key
    · rw [if_neg (by simp [hname]), ih, if_neg (by rw [hname]; exact hk)]
    · rw [if_pos (by simp [hname]), lookup_cons_eq, ih]

end Dictionaries

namespace Mongo

/-! ## Reading the parts -/

section Reading

variable {α : Type} {read : Value → Option α} {fields : List (String × Value)}

theorem readFields_ok (h : ∀ field ∈ fields, ∃ a, read field.2 = some a) :
    ∃ as, readFields read fields = some as := by
  induction fields with
  | nil => exact ⟨[], rfl⟩
  | cons field fields ih =>
    obtain ⟨a, ha⟩ := h field List.mem_cons_self
    obtain ⟨as, has⟩ := ih fun other hother => h other (List.mem_cons_of_mem _ hother)
    unfold readFields at has ⊢
    exact ⟨(field.1, a) :: as, by rw [List.mapM_cons, ha, has]; rfl⟩

theorem lookup_readFields {as : List (String × α)} (h : readFields read fields = some as) (k : String) :
    as.lookup k = (fields.lookup k).bind read := by
  induction fields generalizing as with
  | nil =>
    obtain rfl := Option.some.inj h
    rfl
  | cons field fields ih =>
    obtain ⟨name, v⟩ := field
    unfold readFields at h ih
    rw [List.mapM_cons] at h
    obtain ⟨b, hb, h⟩ := Option.bind_eq_some_iff.mp h
    obtain ⟨rest, hrest, h⟩ := Option.bind_eq_some_iff.mp h
    obtain ⟨a, ha, rfl⟩ := Option.map_eq_some_iff.mp hb
    obtain rfl := Option.some.inj h
    rw [lookup_cons_eq, lookup_cons_eq, ih hrest]
    by_cases hk : k = name
    · rw [if_pos hk, if_pos hk, Option.bind_some]
      exact ha.symm
    · rw [if_neg hk, if_neg hk]

theorem readOperand_path (path : String) : readOperand (.str ("$" ++ path)) = some (.path path) := by
  have htext : ("$" ++ path).toList = '$' :: path.toList := by rw [String.toList_append]; rfl
  unfold readOperand isOperator
  dsimp only
  rw [htext]
  simp

theorem readProjection_ofId (name : String) :
    readProjection (.str ("$_id." ++ name)) = some (.ofId name) := by
  have htext : ("$_id." ++ name).toList = "$_id.".toList ++ name.toList := String.toList_append
  have hdrop : (("$_id." ++ name).toList).drop 5 = name.toList := by
    rw [htext]
    exact List.drop_left' rfl
  have hpre : "$_id.".toList <+: ("$_id." ++ name).toList := by
    rw [htext]
    exact List.prefix_append _ _
  unfold readProjection
  dsimp only
  rw [if_pos hpre, hdrop, String.ofList_toList]

/-- What an aggregate of a plan is read as. -/
def accumulatorOf (item : PlanAggregate) : Accumulator :=
  match item.function, item.field with
  | .sum, some ref => ⟨.sum, .path ref.fieldPath⟩
  | .average, some ref => ⟨.avg, .path ref.fieldPath⟩
  | .minimum, some ref => ⟨.min, .path ref.fieldPath⟩
  | .maximum, some ref => ⟨.max, .path ref.fieldPath⟩
  | _, _ => ⟨.sum, .number (Rat.ofInt 1)⟩

theorem readAccumulator_eq (item : PlanAggregate) :
    readAccumulator (MongoCompiler.accumulator item) = some (accumulatorOf item) := by
  obtain ⟨function, field, alias_, hlength, hrequired⟩ := item
  cases field with
  | none => cases function <;> rfl
  | some ref =>
    have hoperand := readOperand_path ref.fieldPath
    cases function with
    | count => rfl
    | sum | average | minimum | maximum =>
      simp only [MongoCompiler.accumulator, MongoCompiler.aggregateOperator, readAccumulator, hoperand]
      rfl

end Reading

/-! ## The pipeline of a plan -/

section Plan

variable (plan : GroundedQueryPlan)

/-- The last aggregate of the name. -/
def governing (name : String) : Option PlanAggregate :=
  plan.aggregates.reverse.find? fun item => item.alias_ = name

/-- What the pipeline of a plan groups by. An aggregate that is called `_id` takes the place of the
identity. -/
def groupingOf : GroupId :=
  match governing plan "_id" with
  | some item => .computed (accumulatorOf item)
  | none =>
    if plan.groupBy = [] then .null
    else .fields ((plan.groupBy.map GroundedFieldRef.fieldPath).map fun path => (path, .path path))

/-- The row of a group. -/
def groupedRow (group : List Record) : Record := fun name =>
  match governing plan name with
  | some item => (accumulatorOf item).over (if name = "_id" then group.take 1 else group)
  | none =>
    if governing plan "_id" = none ∧ name ∈ plan.groupBy.map GroundedFieldRef.fieldPath then
      group.head?.bind fun record => record name
    else none

variable {plan} {group : List Record} {name : String}

theorem groupedRow_alias {item : PlanAggregate} (h : governing plan name = some item) :
    groupedRow plan group name =
      (accumulatorOf item).over (if name = "_id" then group.take 1 else group) := by
  unfold groupedRow
  rw [h]

theorem groupedRow_group (h : governing plan name = none) (hid : governing plan "_id" = none)
    (hmem : name ∈ plan.groupBy.map GroundedFieldRef.fieldPath) :
    groupedRow plan group name = group.head?.bind fun record => record name := by
  unfold groupedRow
  rw [h]
  exact if_pos ⟨hid, hmem⟩

theorem groupedRow_none (h : governing plan name = none)
    (hnot : ¬(governing plan "_id" = none ∧ name ∈ plan.groupBy.map GroundedFieldRef.fieldPath)) :
    groupedRow plan group name = none := by
  unfold groupedRow
  rw [h]
  exact if_neg hnot

variable (plan)

/-- The MongoDB compiler takes the filters, and they match the record. -/
def keeps (t : Texts) (record : Record) : Bool :=
  (plan.filters.mapM (MongoCompiler.clause t)).toOption.any fun clauses =>
    filterHolds record (MongoCompiler.matchOf (clauses ++ MongoCompiler.timeClauses plan)) = some true

end Plan

section Compiled

variable {t : Texts} {plan : GroundedQueryPlan} {m : NativeQuery}

/-- What the `$group` stage of a plan starts with. -/
def startOf (plan : GroundedQueryPlan) : List (String × Value) :=
  [("_id", if MongoCompiler.groupKeys plan = [] then .null else .dict (MongoCompiler.groupKeys plan))]

def groupOf (plan : GroundedQueryPlan) : List (String × Value) :=
  setAll PlanAggregate.alias_ MongoCompiler.accumulator plan.aggregates (startOf plan)

theorem group_of_foldlM {items : List PlanAggregate} {start group : List (String × Value)}
    (h : items.foldlM (MongoCompiler.addAggregate plan) start = .ok group) :
    group = setAll PlanAggregate.alias_ MongoCompiler.accumulator items start ∧
      ∀ item ∈ items, item.alias_ ∉ (MongoCompiler.groupKeys plan).map Prod.fst := by
  induction items generalizing start with
  | nil =>
    rw [List.foldlM_nil] at h
    obtain rfl := Except.ok.inj h
    exact ⟨rfl, fun item hitem => absurd hitem List.not_mem_nil⟩
  | cons item items ih =>
    rw [List.foldlM_cons] at h
    obtain ⟨next, hnext, h⟩ := bind_ok h
    unfold MongoCompiler.addAggregate at hnext
    split at hnext
    · cases hnext
    split at hnext
    · cases hnext
    next hapart =>
    obtain rfl := Except.ok.inj hnext
    obtain ⟨hgroup, hrest⟩ := ih h
    refine ⟨hgroup, fun other hother => ?_⟩
    rcases List.mem_cons.mp hother with rfl | hother
    · intro hmem
      obtain ⟨field, hfield, he⟩ := List.mem_map.mp hmem
      have hany : (MongoCompiler.groupKeys plan).any (fun field => field.1 = other.alias_) = true := by
        rw [List.any_eq_true]
        exact ⟨field, hfield, decide_eq_true he⟩
      exact hapart hany
    · exact hrest other hother

def pipelineOf (plan : GroundedQueryPlan) (filter sorted : List (String × Value)) : List Value :=
  (if filter = [] then [] else [.dict [("$match", .dict filter)]])
    ++ [.dict [("$group", .dict (groupOf plan))], .dict [("$project", .dict (MongoCompiler.projectOf plan))]]
    ++ (if MongoCompiler.sortKeys plan = [] then [] else [.dict [("$sort", .dict sorted)]])
    ++ [.dict [("$limit", .int plan.limit)]]

/-- What a compiled aggregation consists of. -/
structure Piped (t : Texts) (plan : GroundedQueryPlan) (m : NativeQuery)
    (clauses : List (List (String × Value))) (sorted : List (String × Value)) : Prop where
  single : plan.dataObjectIds.length = 1
  alone : plan.joins = []
  safe : ∀ path ∈ MongoCompiler.allowed plan, path.toList.head? ≠ some '$'
  filters : plan.filters.mapM (MongoCompiler.clause t) = .ok clauses
  keys : (MongoCompiler.groupKeys plan).length = plan.groupBy.length
  aliases : ∀ item ∈ plan.aggregates, item.alias_ ∉ (MongoCompiler.groupKeys plan).map Prod.fst
  command : ∃ name, m.command = .document [("operation", .str "aggregate"), ("collection", .str name),
    ("pipeline", .list
      (pipelineOf plan (MongoCompiler.matchOf (clauses ++ MongoCompiler.timeClauses plan)) sorted))]

theorem compile_piped (h : MongoCompiler.compile t plan = .ok m)
    (haggregated : plan.aggregates ≠ [] ∨ plan.groupBy ≠ []) :
    ∃ clauses sorted, Piped t plan m clauses sorted := by
  unfold MongoCompiler.compile at h
  split at h
  · cases h
  next hone =>
  rw [not_or, not_not, not_not] at hone
  split at h
  · cases h
  next name hname =>
  split at h
  · cases h
  next hsafe =>
  obtain ⟨clauses, hclauses, h⟩ := bind_ok h
  obtain ⟨command, hcommand, h⟩ := bind_ok h
  obtain rfl := Except.ok.inj h
  unfold MongoCompiler.commandOf at hcommand
  rw [if_neg (fun hnone => haggregated.elim (fun h => h hnone.1) fun h => h hnone.2)] at hcommand
  unfold MongoCompiler.aggregate at hcommand
  split at hcommand
  · cases hcommand
  next hkeys =>
  obtain ⟨group, hgroup, hcommand⟩ := bind_ok hcommand
  obtain ⟨sorted, hsorted, hcommand⟩ := bind_ok hcommand
  obtain rfl := Except.ok.inj hcommand
  obtain ⟨rfl, haliases⟩ := group_of_foldlM hgroup
  exact ⟨clauses, sorted, hone.1, hone.2, fun path hpath => safe_of_compile hsafe hpath, hclauses,
    not_not.mp hkeys, haliases, name, rfl⟩

theorem underscored_of_single {path : String} (h : '.' ∉ path.toList) : underscored path = path := by
  have hmap : (path.toList.map fun c => if c = '.' then '_' else c) = path.toList.map id :=
    List.map_congr_left fun c hc => if_neg fun he : c = '.' => h (he ▸ hc)
  rw [underscored, hmap, List.map_id, String.ofList_toList]

section Piped

variable {clauses : List (List (String × Value))} {sorted : List (String × Value)}

theorem groupBy_allowed {ref : GroundedFieldRef} (h : ref ∈ plan.groupBy) :
    ref.fieldPath ∈ MongoCompiler.allowed plan := by
  have hmem : ref.fieldPath ∈ plan.groupBy.map GroundedFieldRef.fieldPath := List.mem_map_of_mem h
  simp only [MongoCompiler.allowed, List.mem_append]
  exact Or.inl (Or.inl (Or.inl (Or.inl (Or.inr hmem))))

variable (h : Piped t plan m clauses sorted)
  (hsegments : ∀ path ∈ MongoCompiler.allowed plan, '.' ∉ path.toList)

include h hsegments

theorem Piped.groupKeys_eq : (plan.groupBy.map GroundedFieldRef.fieldPath).Nodup ∧
    MongoCompiler.groupKeys plan =
      (plan.groupBy.map GroundedFieldRef.fieldPath).map fun path => (path, .str ("$" ++ path)) := by
  have hitems : (plan.groupBy.map fun ref => (underscored ref.fieldPath, Value.str ("$" ++ ref.fieldPath))) =
      (plan.groupBy.map GroundedFieldRef.fieldPath).map fun path => (path, .str ("$" ++ path)) := by
    rw [List.map_map]
    refine List.map_congr_left fun ref href => ?_
    rw [underscored_of_single (hsegments _ (groupBy_allowed href))]
    rfl
  have hkeys : MongoCompiler.groupKeys plan = setAll Prod.fst Prod.snd
      ((plan.groupBy.map GroundedFieldRef.fieldPath).map fun path => (path, .str ("$" ++ path))) [] := by
    rw [← hitems]
    rfl
  have hlength := h.keys
  rw [hkeys] at hlength
  obtain ⟨hnodup, heq⟩ := setAll_of_length (by rw [hlength, List.length_map, List.length_map])
  rw [List.map_map] at hnodup
  have hnames : (Prod.fst ∘ fun path => (path, Value.str ("$" ++ path))) = (id : String → String) := rfl
  rw [hnames, List.map_id] at hnodup
  refine ⟨hnodup, ?_⟩
  rw [hkeys, heq]
  exact List.map_id _

/-- No aggregate has the name of a group field. -/
theorem Piped.governing_eq_none {name : String} (hname : name ∈ plan.groupBy.map GroundedFieldRef.fieldPath) :
    governing plan name = none := by
  unfold governing
  rw [List.find?_eq_none]
  intro item hitem halias
  refine h.aliases item (List.mem_reverse.mp hitem) ?_
  rw [(h.groupKeys_eq hsegments).2, List.map_map, of_decide_eq_true halias]
  exact List.mem_map.mpr ⟨name, hname, rfl⟩

/-- What the identity of the groups is read as. -/
theorem Piped.readId_eq : ((groupOf plan).lookup "_id").bind readId = some (groupingOf plan) := by
  have hread : ∀ item, readId (MongoCompiler.accumulator item) = some (.computed (accumulatorOf item)) := by
    intro item
    have haccumulator := readAccumulator_eq item
    have hdict : ∃ operator operand, MongoCompiler.accumulator item = .dict [(operator, operand)] ∧
        isOperator operator = true := by
      unfold MongoCompiler.accumulator
      split
      · next operator ref hoperator _ =>
        refine ⟨operator, _, rfl, ?_⟩
        cases hfunction : item.function <;> rw [hfunction] at hoperator <;> cases hoperator <;> decide
      · exact ⟨"$sum", _, rfl, by decide⟩
    obtain ⟨operator, operand, hdict, hoperator⟩ := hdict
    rw [hdict] at haccumulator ⊢
    unfold readId
    dsimp only
    rw [haccumulator, if_pos (by simp [hoperator])]
    rfl
  unfold groupOf groupingOf
  rw [lookup_setAll]
  have hfind : (plan.aggregates.reverse.find? fun item => item.alias_ = "_id") = governing plan "_id" := rfl
  rw [hfind]
  cases governing plan "_id" with
  | some item => exact hread item
  | none =>
    have hstart : (startOf plan).lookup "_id" = some (if MongoCompiler.groupKeys plan = [] then .null
        else .dict (MongoCompiler.groupKeys plan)) := rfl
    obtain ⟨-, hkeys⟩ := h.groupKeys_eq hsegments
    rw [Option.map_none, Option.none_or, hstart, Option.bind_some, hkeys]
    by_cases hnone : plan.groupBy = []
    · rw [hnone]
      rfl
    · dsimp only
      rw [if_neg (by simpa using hnone), if_neg hnone]
      have hplain : ((plan.groupBy.map GroundedFieldRef.fieldPath).map fun path =>
          (path, Value.str ("$" ++ path))).any (fun field => isOperator field.1) = false := by
        rw [List.any_eq_false]
        intro field hfield
        obtain ⟨path, hpath, rfl⟩ := List.mem_map.mp hfield
        obtain ⟨ref, href, rfl⟩ := List.mem_map.mp hpath
        simpa [isOperator] using h.safe _ (groupBy_allowed href)
      have hoperands : readFields readOperand ((plan.groupBy.map GroundedFieldRef.fieldPath).map fun path =>
          (path, Value.str ("$" ++ path))) =
          some ((plan.groupBy.map GroundedFieldRef.fieldPath).map fun path => (path, .path path)) := by
        unfold readFields
        refine mapM_eq_some fun path _ => ?_
        rw [readOperand_path]
        rfl
      unfold readId
      dsimp only
      rw [if_neg (by rw [hplain]; exact Bool.false_ne_true), hoperands]
      rfl

theorem Piped.readGroup : ∃ accs, readStage (.dict [("$group", .dict (groupOf plan))]) =
      some (.group (groupingOf plan) accs) ∧
    ∀ name, name ≠ "_id" → accs.lookup name = (governing plan name).map accumulatorOf := by
  have hfields : ∀ field ∈ (groupOf plan).filter (fun field => field.1 ≠ "_id"),
      ∃ a, readAccumulator field.2 = some a := by
    intro field hfield
    obtain ⟨hmem, hname⟩ := List.mem_filter.mp hfield
    rcases mem_setAll hmem with ⟨item, -, rfl⟩ | hstart
    · exact ⟨_, readAccumulator_eq item⟩
    · rw [List.mem_singleton.mp hstart] at hname
      simp at hname
  obtain ⟨accs, haccs⟩ := readFields_ok hfields
  refine ⟨accs, ?_, fun name hname => ?_⟩
  · unfold readStage
    dsimp only
    rw [if_neg (by decide), if_pos rfl, h.readId_eq hsegments, Option.bind_some, haccs]
    rfl
  · have hstart : (startOf plan).lookup name = none := by
      unfold startOf
      rw [lookup_cons_eq, if_neg hname]
      rfl
    rw [lookup_readFields haccs, lookup_filter_ne hname, groupOf, lookup_setAll, hstart, Option.or_none]
    have hfind : (plan.aggregates.reverse.find? fun item => item.alias_ = name) = governing plan name := rfl
    rw [hfind]
    cases governing plan name with
    | none => rfl
    | some item => exact readAccumulator_eq item

theorem Piped.readProject : ∃ ps, readStage (.dict [("$project", .dict (MongoCompiler.projectOf plan))]) =
      some (.project ps) ∧
    ∀ name, ps.lookup name =
      if (governing plan name).isSome then some .keep
      else if name ∈ plan.groupBy.map GroundedFieldRef.fieldPath then some (.ofId name)
      else if name = "_id" then some .drop else none := by
  have hproject : MongoCompiler.projectOf plan =
      setAll PlanAggregate.alias_ (fun _ => .int 1) plan.aggregates
        (setAll (fun ref : GroundedFieldRef => underscored ref.fieldPath)
          (fun ref => .str ("$_id." ++ underscored ref.fieldPath)) plan.groupBy [("_id", .int 0)]) := rfl
  have hfields : ∀ field ∈ MongoCompiler.projectOf plan, ∃ a, readProjection field.2 = some a := by
    intro field hfield
    rw [hproject] at hfield
    rcases mem_setAll hfield with ⟨item, -, rfl⟩ | hfield
    · exact ⟨.keep, rfl⟩
    · rcases mem_setAll hfield with ⟨ref, -, rfl⟩ | hstart
      · exact ⟨_, readProjection_ofId _⟩
      · rw [List.mem_singleton.mp hstart]
        exact ⟨.drop, rfl⟩
  obtain ⟨ps, hps⟩ := readFields_ok hfields
  refine ⟨ps, ?_, fun name => ?_⟩
  · unfold readStage
    dsimp only
    rw [if_neg (by decide), if_neg (by decide), if_pos rfl, hps]
    rfl
  · have hfind : (plan.aggregates.reverse.find? fun item => item.alias_ = name) = governing plan name := rfl
    have hstart : List.lookup name [("_id", Value.int 0)] = if name = "_id" then some (.int 0) else none := by
      rw [lookup_cons_eq]
      rfl
    rw [lookup_readFields hps, hproject, lookup_setAll, lookup_setAll, hfind, hstart]
    cases governing plan name with
    | some item => rfl
    | none =>
      by_cases hname : name ∈ plan.groupBy.map GroundedFieldRef.fieldPath
      · obtain ⟨ref, href, hpath⟩ := List.mem_map.mp hname
        have hsome : (plan.groupBy.reverse.find? fun ref => underscored ref.fieldPath = name).isSome := by
          rw [List.find?_isSome]
          refine ⟨ref, List.mem_reverse.mpr href, ?_⟩
          rw [underscored_of_single (hsegments _ (groupBy_allowed href)), hpath, decide_eq_true_iff]
        obtain ⟨found, hfound⟩ := Option.isSome_iff_exists.mp hsome
        have hfoundName : underscored found.fieldPath = name := by
          simpa using List.find?_some hfound
        rw [hfound, if_pos hname]
        simp only [Option.map_none, Option.none_or, Option.map_some, Option.some_or, Option.bind_some,
          hfoundName, readProjection_ofId]
        rfl
      · have hnone : (plan.groupBy.reverse.find? fun ref => underscored ref.fieldPath = name) = none := by
          rw [List.find?_eq_none]
          intro ref href hpath
          rw [List.mem_reverse] at href
          refine hname (List.mem_map.mpr ⟨ref, href, ?_⟩)
          rw [← underscored_of_single (hsegments _ (groupBy_allowed href))]
          exact of_decide_eq_true hpath
        rw [hnone, if_neg hname]
        by_cases hid : name = "_id"
        · simp [hid, readProjection]
        · simp [hid]

/-- The row of a group, as the stages make it. -/
theorem Piped.projectStage_eq {accs : List (String × Accumulator)} {ps : List (String × Projection)}
    (haccs : ∀ name, name ≠ "_id" → accs.lookup name = (governing plan name).map accumulatorOf)
    (hps : ∀ name, ps.lookup name =
      if (governing plan name).isSome then some .keep
      else if name ∈ plan.groupBy.map GroundedFieldRef.fieldPath then some (.ofId name)
      else if name = "_id" then some .drop else none) {group : List Record} (hgroup : group ≠ []) :
    projectStage ps
      { id := group.head?.map fun record => (groupingOf plan).of record
        field := fun name => (accs.lookup name).bind fun accumulator => accumulator.over group } =
      groupedRow plan group := by
  obtain ⟨record, rest, rfl⟩ := List.exists_cons_of_ne_nil hgroup
  funext name
  have hread := hps name
  cases hname : governing plan name with
  | some item =>
    rw [hname, Option.isSome_some, if_pos rfl] at hread
    rw [groupedRow_alias hname, projectStage, hread]
    dsimp only
    unfold Grouped.read
    by_cases hid : name = "_id"
    · subst hid
      rw [if_pos rfl, if_pos rfl]
      dsimp only [List.head?_cons, Option.map_some]
      unfold groupingOf
      rw [hname]
      rfl
    · rw [if_neg hid, if_neg hid]
      dsimp only
      rw [haccs name hid, hname]
      rfl
  | none =>
    rw [hname, Option.isSome_none, if_neg Bool.false_ne_true] at hread
    by_cases hmem : name ∈ plan.groupBy.map GroundedFieldRef.fieldPath
    · rw [if_pos hmem] at hread
      rw [projectStage, hread]
      dsimp only
      unfold Grouped.ofId
      dsimp only [List.head?_cons, Option.map_some]
      cases hid : governing plan "_id" with
      | some item =>
        rw [groupedRow_none hname fun hboth => by rw [hid] at hboth; cases hboth.1]
        unfold groupingOf
        rw [hid]
        rfl
      | none =>
        have hgroupBy : plan.groupBy ≠ [] := by
          intro hnil
          rw [hnil] at hmem
          cases hmem
        rw [groupedRow_group hname hid hmem]
        unfold groupingOf
        rw [hid]
        dsimp only
        rw [if_neg hgroupBy]
        unfold GroupId.of
        dsimp only
        rw [List.map_map]
        have hlookup : ((plan.groupBy.map GroundedFieldRef.fieldPath).map fun path =>
            (path, record path)).lookup name = some (record name) := lookup_map_key hmem
        exact congrArg Option.join hlookup
    · rw [if_neg hmem] at hread
      rw [groupedRow_none hname fun hboth => hmem hboth.2, projectStage, hread]
      by_cases hid : name = "_id"
      · rw [if_pos hid]
      · rw [if_neg hid]

/-- **What the pipeline of a plan returns**: a row for each group of the documents that are kept. -/
theorem Piped.mongoRows_eq (records : List Record) : mongoRows records m =
    some ((Infra.groupsBy (fun record => (groupingOf plan).of record)
      (records.filter (keeps plan t))).map (groupedRow plan)) := by
  obtain ⟨name, hcommand⟩ := h.command
  obtain ⟨accs, hreadGroup, haccs⟩ := h.readGroup hsegments
  obtain ⟨ps, hreadProject, hps⟩ := h.readProject hsegments
  generalize hfilter : MongoCompiler.matchOf (clauses ++ MongoCompiler.timeClauses plan) = filter at hcommand
  have hkept : records.filter (keeps plan t) =
      records.filter fun record => filterHolds record filter = some true := by
    refine List.filter_congr fun record _ => ?_
    unfold keeps
    rw [h.filters, ← hfilter]
    rfl
  let pages : List Stage := (if MongoCompiler.sortKeys plan = [] then [] else [.page]) ++ [.page]
  have hstages : (pipelineOf plan filter sorted).mapM readStage =
      some ((if filter = [] then [] else [.matching filter])
        ++ .group (groupingOf plan) accs :: .project ps :: pages) := by
    have hmatch : (if filter = [] then [] else [Value.dict [("$match", .dict filter)]]).mapM readStage =
        some (if filter = [] then [] else [.matching filter]) := by
      split <;> rfl
    have hsort : (if MongoCompiler.sortKeys plan = [] then [] else
        [Value.dict [("$sort", .dict sorted)]]).mapM readStage =
        some (if MongoCompiler.sortKeys plan = [] then [] else [.page]) := by
      split <;> rfl
    have hlimit : [Value.dict [("$limit", .int plan.limit)]].mapM readStage = some [.page] := rfl
    unfold pipelineOf
    rw [List.mapM_append, List.mapM_append, List.mapM_append, hmatch, hsort, hlimit, List.mapM_cons,
      List.mapM_cons, hreadGroup, hreadProject]
    simp [pages]
  have hpages : pages.all (· = .page) = true := by
    dsimp only [pages]
    split <;> rfl
  have hrows : ∀ kept : List Record,
      pipelineRows kept (.group (groupingOf plan) accs :: .project ps :: pages) =
      some ((Infra.groupsBy (fun record => (groupingOf plan).of record) kept).map (groupedRow plan)) := by
    intro kept
    rw [pipelineRows, if_pos hpages, groupStage, List.map_map]
    refine congrArg some (List.map_congr_left fun group hgroup => ?_)
    exact h.projectStage_eq hsegments haccs hps (Infra.ne_nil_of_mem_groupsBy hgroup)
  have hitems : (Value.list (pipelineOf plan filter sorted)).items? = some (pipelineOf plan filter sorted) :=
    rfl
  unfold mongoRows
  rw [hcommand]
  dsimp only
  rw [lookup_cons_eq, if_neg (by decide), lookup_cons_eq, if_neg (by decide), lookup_cons_eq, if_pos rfl]
  simp only [Option.bind_eq_bind, Option.bind_some, hitems, hstages]
  rw [hkept]
  by_cases hempty : filter = []
  · rw [if_pos hempty, List.nil_append, hrows]
    have hall : (records.filter fun record => filterHolds record filter = some true) = records := by
      rw [hempty]
      exact List.filter_eq_self.mpr fun record _ => rfl
    rw [hall]
  · rw [if_neg hempty, List.singleton_append, pipelineRows, hrows]

end Piped

end Compiled

end Mongo

end Querying
