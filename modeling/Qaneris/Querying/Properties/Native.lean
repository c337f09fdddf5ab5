import Qaneris.Querying.Native
import Qaneris.Querying.Properties.Meaning
import Qaneris.Querying.Properties.ReadOnly

/-!
# What is compiled passes the validator

* `validate_compiled` — for every plan whose filters have scalars or lists of scalars, and every driver
-/

namespace Querying

open Contracts
open Infra (Token render bind_ok forall₂_of_mapM exists_of_forall₂)

/-! ## SQL -/

section Sql

variable {ν : Type} {d : Driver}

theorem isQuote_quote (d : Driver) : isQuote d.quote = true := by
  cases d <;> rfl

/-- A mark that is passed over by everything that reads the text of a command. -/
def Quiet (c : Char) : Prop := Inert c ∧ c ≠ ';'

instance (c : Char) : Decidable (Quiet c) := inferInstanceAs (Decidable (_ ∧ _))

theorem quiet_of_templateMarks {c : Char} (h : c ∈ templateMarks) : Quiet c := by
  simp only [templateMarks, List.mem_cons, List.not_mem_nil, or_false] at h
  rcases h with rfl | rfl | rfl | rfl | rfl | rfl | rfl | rfl | rfl | rfl <;> decide

/-- A token of a command is one of its cells, or a part of a placeholder. -/
theorem mem_unbind_iff {t : Token} {cells : List (Cell ν)} (h : t ∈ unbind d cells) :
    .token t ∈ cells ∨ t ∈ d.placeholderTokens := by
  obtain ⟨cell, hcell, ht⟩ := List.mem_flatMap.mp h
  cases cell with
  | token t' =>
    obtain rfl := List.mem_singleton.mp ht
    exact .inl hcell
  | value v => exact .inr ht

theorem quiet_marks {cells : List (Cell ν)} (h : Told d cells) {c : Char}
    (hc : .mark c ∈ unbind d cells) : Quiet c := by
  rcases mem_unbind_iff hc with hcell | hplaceholder
  · exact quiet_of_templateMarks (h.plain _ hcell)
  · cases d with
    | sqlite =>
      obtain rfl : c = '?' := by simpa [Driver.placeholderTokens] using hplaceholder
      decide
    | postgresql | mysql =>
      obtain rfl : c = '%' := by simpa [Driver.placeholderTokens] using hplaceholder
      decide

theorem allowed_words {cells : List (Cell ν)} (h : Told d cells) {run : List Char}
    (hrun : .word run ∈ unbind d cells) :
    ∀ operation ∈ forbiddenOperations, Infra.dropWord operation.toList run ≠ some [] := by
  rcases mem_unbind_iff hrun with hcell | hplaceholder
  · exact (h.plain _ hcell).allowed
  · cases d with
    | sqlite => simp [Driver.placeholderTokens] at hplaceholder
    | postgresql | mysql =>
      obtain rfl : run = ['s'] := by simpa [Driver.placeholderTokens] using hplaceholder
      decide

/-! ### Placeholders -/

theorem countPercents_cons {c : Char} (h : c ≠ '%') (text : List Char) :
    countPercents (c :: text) = countPercents text := by
  rw [countPercents]
  rintro _ rfl
  exact absurd rfl h

theorem countPercents_append {chunk : List Char} (h : '%' ∉ chunk) (text : List Char) :
    countPercents (chunk ++ text) = countPercents text := by
  induction chunk with
  | nil => rfl
  | cons c chunk ih =>
    rw [List.mem_cons, not_or] at h
    rw [List.cons_append, countPercents_cons (Ne.symm h.1), ih h.2]

/-- Nothing that is left of a token of the template is a part of a placeholder. -/
theorem not_mem_blankToken {t : Token} {q c : Char} (hc : c = '?' ∨ c = '%')
    (hfits : t.Fits Infra.isWord q) (hplain : Plain t) : c ∉ blankToken q t := by
  intro hmem
  cases t with
  | word chars =>
    have hword := hfits.2 c hmem
    rcases hc with rfl | rfl <;> exact absurd hword (by decide)
  | mark m =>
    obtain rfl := List.mem_singleton.mp hmem
    rcases hc with rfl | rfl <;> exact absurd hplain (by decide)
  | quoted text =>
    obtain ⟨e, -, he⟩ := List.mem_map.mp hmem
    rw [blank] at he
    split at he
    · next hnewline =>
      subst hnewline
      subst he
      rcases hc with hc | hc <;> cases hc
    · subst he
      rcases hc with hc | hc <;> cases hc

/-- The placeholders of the text are those of the values. -/
theorem count_placeholders {cells : List (Cell ν)}
    (hfits : ∀ t, .token t ∈ cells → t.Fits Infra.isWord d.quote)
    (hplain : ∀ t, .token t ∈ cells → Plain t) :
    (blanked d.quote (unbind d cells)).count '?' = (if d = .sqlite then (values cells).length else 0) ∧
      countPercents (blanked d.quote (unbind d cells)) =
        (if d = .sqlite then 0 else (values cells).length) := by
  induction cells with
  | nil => simp [blanked, values, countPercents]
  | cons cell cells ih =>
    obtain ⟨hmarks, hpercents⟩ := ih (fun t ht => hfits t (List.mem_cons_of_mem _ ht))
      fun t ht => hplain t (List.mem_cons_of_mem _ ht)
    cases cell with
    | token t =>
      have hnot := fun c hc => not_mem_blankToken (c := c) hc (hfits t List.mem_cons_self)
        (hplain t List.mem_cons_self)
      have hblanked : blanked d.quote (unbind d (.token t :: cells)) =
          blankToken d.quote t ++ blanked d.quote (unbind d cells) := rfl
      have hvalues : values (.token t :: cells) = values cells := rfl
      rw [hblanked, hvalues, List.count_append, List.count_eq_zero.mpr (hnot '?' (.inl rfl)),
        Nat.zero_add, countPercents_append (hnot '%' (.inr rfl))]
      exact ⟨hmarks, hpercents⟩
    | value v =>
      have hblanked : blanked d.quote (unbind d (.value v :: cells)) =
          blanked d.quote d.placeholderTokens ++ blanked d.quote (unbind d cells) :=
        List.flatMap_append
      rw [hblanked, values_value_cons, List.length_cons, List.count_append, hmarks]
      cases d with
      | sqlite =>
        refine ⟨Nat.add_comm _ _, ?_⟩
        rw [if_pos rfl] at hpercents ⊢
        exact hpercents
      | postgresql | mysql =>
        refine ⟨rfl, ?_⟩
        simp only [reduceCtorEq, if_false] at hpercents ⊢
        exact congrArg Nat.succ hpercents

/-! ### The gate -/

variable {t : Texts} {plan : GroundedQueryPlan} {q : NativeQuery}

theorem told_written (d : Driver) : Told d (writtenOf t plan).cells := told_cells written_named

theorem fits_written {t' : Token} (h : .token t' ∈ (writtenOf t plan).cells) :
    t'.Fits Infra.isWord d.quote :=
  (told_written d).clean.fits t' (List.mem_flatMap.mpr ⟨_, h, List.mem_singleton_self t'⟩)

theorem written_split : ∃ before, (writtenOf t plan).cells =
    before ++ [.value (writtenOf t plan).statement.limit] := by
  simp only [Written.cells, Statement.whereCells, Statement.groupCells, Statement.orderCells,
    Statement.limitCells, ← List.append_assoc]
  exact ⟨_, rfl⟩

theorem strip_written {command : String} (h : Writes d command (writtenOf t plan).cells) :
    stripForSafety command.toList = blanked d.quote (unbind d (writtenOf t plan).cells) := by
  rw [h]
  exact strip_render (isQuote_quote d) (isWord_quote d) (told_written d).clean
    fun c hc => (quiet_marks (told_written d) hc).1

theorem gate_written {command : String} (h : Writes d command (writtenOf t plan).cells) :
    validateReadOnlyQuery command = .ok () := by
  have htold : Told d (writtenOf t plan).cells := told_written d
  have hlast : ∀ c ∈ (render d.quote (unbind d (writtenOf t plan).cells)).getLast?,
      Infra.isSpace c = false ∧ c ≠ ';' := by
    intro c hc
    obtain ⟨before, hsplit⟩ : ∃ before, (writtenOf t plan).cells =
        before ++ [.value (writtenOf t plan).statement.limit] := written_split
    rw [hsplit, unbind_append, Infra.render_append] at hc
    cases d with
    | sqlite =>
      obtain rfl : '?' = c := by simpa [Driver.placeholderTokens, Token.text] using hc
      decide
    | postgresql | mysql =>
      obtain rfl : 's' = c := by simpa [Driver.placeholderTokens, Token.text] using hc
      decide
  exact gate_accepts h (isQuote_quote d) (isWord_quote d) htold.clean
    (fun c hc => quiet_marks htold hc) (fun run hrun => allowed_words htold hrun) rfl hlast

theorem placeholderCount_written {command : String}
    (h : Writes d command (writtenOf t plan).cells) :
    placeholderCount command (guessedPercents command) =
      .ok (values (writtenOf t plan).cells).length := by
  have htold : Told d (writtenOf t plan).cells := told_written d
  have hcounts := count_placeholders (d := d) (fun _ ht => fits_written ht) htold.plain
  have hpos : (values (writtenOf t plan).cells).length ≠ 0 := by
    rw [values_cells]
    simp
  rw [placeholderCount, guessedPercents, strip_written h, hcounts.1, hcounts.2]
  cases d with
  | sqlite => simp
  | postgresql | mysql => simp [hpos]

/-- A compiled SQL command is validated. -/
theorem validateSql_compiled (h : SQLCompiler.compile t d plan = .ok q) :
    NativeValidator.validateSql q none = .ok () ∧
      NativeValidator.validateSql q (some q) = .ok () := by
  obtain ⟨command, hq, hwrites⟩ := (compile_written h).text
  subst hq
  have hcount := placeholderCount_written hwrites
  constructor <;>
    simp [NativeValidator.validateSql, gate_written hwrites, hcount, bind, Except.bind]

end Sql

/-! ## MongoDB -/

section Mongo

open NativeValidator

variable {t : Texts} {plan : GroundedQueryPlan}

/-- A value that has no dictionary in it: a scalar, or a list of scalars. -/
def Scalar : Value → Prop
  | .dict _ | .list _ | .tuple _ => False
  | _ => True

def Flat (v : Value) : Prop := Scalar v ∨ ∃ items, v.items? = some items ∧ ∀ item ∈ items, Scalar item

/-- Fields that `walk` goes through. -/
def Harmless (fields : List (String × Value)) : Prop :=
  ∀ field ∈ fields, field.1 ∉ mongoForbidden ∧ forbidden field.2 = false

theorem forbidden_of_scalar {v : Value} (h : Scalar v) : forbidden v = false := by
  cases v with
  | dict | list | tuple => exact h.elim
  | _ => rfl

theorem forbiddenItems_iff {items : List Value} :
    forbiddenItems items = false ↔ ∀ item ∈ items, forbidden item = false := by
  induction items with
  | nil => simp [forbiddenItems]
  | cons item items ih => simp [forbiddenItems, ih]

theorem forbiddenFields_iff {fields : List (String × Value)} :
    forbiddenFields fields = false ↔ Harmless fields := by
  induction fields with
  | nil => simp [forbiddenFields, Harmless]
  | cons field fields ih =>
    obtain ⟨key, child⟩ := field
    simp only [forbiddenFields, Bool.or_eq_false_iff, ih, Harmless, List.forall_mem_cons,
      decide_eq_false_iff_not]

theorem forbidden_dict {fields : List (String × Value)} (h : Harmless fields) :
    forbidden (.dict fields) = false := by
  rw [forbidden, forbiddenFields_iff]
  exact h

theorem forbidden_list {items : List Value} (h : ∀ item ∈ items, forbidden item = false) :
    forbidden (.list items) = false := by
  rw [forbidden, forbiddenItems_iff]
  exact h

theorem Harmless.append {a b : List (String × Value)} (ha : Harmless a) (hb : Harmless b) :
    Harmless (a ++ b) := by
  intro field hfield
  rcases List.mem_append.mp hfield with h | h
  · exact ha field h
  · exact hb field h

theorem harmless_nil : Harmless [] := fun _ h => absurd h List.not_mem_nil

theorem Harmless.cons {fields : List (String × Value)} {key : String} {v : Value}
    (h : Harmless fields) (hkey : key ∉ mongoForbidden) (hv : forbidden v = false) :
    Harmless ((key, v) :: fields) := by
  intro field hfield
  rcases List.mem_cons.mp hfield with rfl | hfield
  · exact ⟨hkey, hv⟩
  · exact h field hfield

theorem harmless_setItem {fields : List (String × Value)} {key : String} {v : Value}
    (h : Harmless fields) (hkey : key ∉ mongoForbidden) (hv : forbidden v = false) :
    Harmless (setItem fields key v) := by
  rw [setItem]
  split
  · intro field hfield
    obtain ⟨other, hother, rfl⟩ := List.mem_map.mp hfield
    split
    · exact ⟨hkey, hv⟩
    · exact h other hother
  · exact h.append (harmless_nil.cons hkey hv)

theorem harmless_foldl {α : Type} {key : α → String} {value : α → Value} {items : List α}
    {fields : List (String × Value)} (h : Harmless fields)
    (hitems : ∀ item ∈ items, key item ∉ mongoForbidden ∧ forbidden (value item) = false) :
    Harmless (items.foldl (fun fields item => setItem fields (key item) (value item)) fields) := by
  induction items generalizing fields with
  | nil => exact h
  | cons item items ih =>
    have hitem := hitems item List.mem_cons_self
    exact ih (harmless_setItem h hitem.1 hitem.2) fun i hi => hitems i (List.mem_cons_of_mem _ hi)

/-! ### Keys -/

/-- Every operator that is forbidden begins with a dollar sign. -/
theorem not_forbidden_of_head {key : String} (h : key.toList.head? ≠ some '$') :
    key ∉ mongoForbidden := by
  intro hmem
  simp only [mongoForbidden, List.mem_cons, List.not_mem_nil, or_false] at hmem
  rcases hmem with rfl | rfl | rfl | rfl | rfl | rfl <;> exact h rfl

theorem head_of_safe {path : String} (h : MongoCompiler.unsafePath path = false) :
    path.toList.head? ≠ some '$' := by
  intro hhead
  rw [MongoCompiler.unsafePath, Bool.or_eq_false_iff] at h
  cases hpath : path.toList with
  | nil => simp [hpath] at hhead
  | cons c text =>
    obtain rfl : c = '$' := by simpa [hpath] using hhead
    have hparts := h.2
    rw [hpath, MongoCompiler.splitDots, if_neg (by decide)] at hparts
    cases hsplit : MongoCompiler.splitDots text with
    | nil => simp [hsplit] at hparts
    | cons part parts => simp [hsplit] at hparts

theorem safe_of_compile {path : String}
    (h : ¬(MongoCompiler.allowed plan).any MongoCompiler.unsafePath)
    (hpath : path ∈ MongoCompiler.allowed plan) : path.toList.head? ≠ some '$' := by
  refine head_of_safe ?_
  rw [Bool.eq_false_iff]
  exact fun hbad => h (List.any_eq_true.mpr ⟨path, hpath, hbad⟩)

theorem head_underscored {path : String} (h : path.toList.head? ≠ some '$') :
    (underscored path).toList.head? ≠ some '$' := by
  rw [underscored, String.toList_ofList, List.head?_map]
  cases hhead : path.toList.head? with
  | none => nofun
  | some c =>
    rw [hhead] at h
    rw [Option.map_some]
    split
    · decide
    · exact h

/-! ### Conditions -/

theorem scalar_value {v : Value} (h : Scalar v) : Scalar (MongoCompiler.value t v) := by
  cases v <;> exact h

theorem forbidden_value {v : Value} (h : Flat v) : forbidden (MongoCompiler.value t v) = false := by
  rcases h with h | ⟨items, hitems, hscalar⟩
  · exact forbidden_of_scalar (scalar_value h)
  · cases v with
    | list vs =>
      obtain rfl := Option.some.inj hitems
      exact forbidden_list fun item hitem => forbidden_of_scalar (hscalar item hitem)
    | tuple vs => rfl
    | _ => cases hitems

theorem items_scalar {v : Value} (h : Flat v) {items : List Value} (hitems : v.items? = some items) :
    ∀ item ∈ items, Scalar item := by
  rcases h with h | ⟨items', hitems', hscalar⟩
  · cases v with
    | list | tuple => exact h.elim
    | _ => cases hitems
  · rw [hitems] at hitems'
    obtain rfl := Option.some.inj hitems'
    exact hscalar

/-- A key whose value is a dictionary of harmless fields. -/
theorem harmless_single {key : String} {fields : List (String × Value)}
    (hkey : key.toList.head? ≠ some '$') (h : Harmless fields) : Harmless [(key, .dict fields)] :=
  harmless_nil.cons (not_forbidden_of_head hkey) (forbidden_dict h)

theorem operatorName_not_forbidden {operator : FilterOperator} {name : String}
    (h : MongoCompiler.operatorName operator = some name) : name ∉ mongoForbidden := by
  cases operator <;> cases h <;> decide

theorem harmless_clause {item : PlanFilter} {fields : List (String × Value)}
    (hpath : item.field.fieldPath.toList.head? ≠ some '$') (hflat : Flat item.value)
    (h : MongoCompiler.clause t item = .ok fields) : Harmless fields := by
  unfold MongoCompiler.clause at h
  simp only at h
  split at h
  · cases h
    exact harmless_single hpath (harmless_nil.cons (by decide) rfl)
  · next low high _ hitems =>
    cases h
    have hscalar := items_scalar hflat hitems
    have hlow := forbidden_of_scalar (scalar_value (t := t) (hscalar low (by simp)))
    have hhigh := forbidden_of_scalar (scalar_value (t := t) (hscalar high (by simp)))
    exact harmless_single hpath ((harmless_nil.cons (by decide) hhigh).cons (by decide) hlow)
  · cases h
  · next v vs _ hitems =>
    cases h
    have hscalar := items_scalar hflat hitems
    refine harmless_single hpath (harmless_nil.cons (by decide) (forbidden_list fun item hitem => ?_))
    obtain ⟨v', hv', rfl⟩ := List.mem_map.mp hitem
    exact forbidden_of_scalar (scalar_value (hscalar v' hv'))
  · cases h
  · split at h
    · next name hname =>
      cases h
      exact harmless_single hpath
        (harmless_nil.cons (operatorName_not_forbidden hname) (forbidden_value hflat))
    · cases h

theorem harmless_timeClauses
    (hpath : ∀ ref ∈ plan.timeField, ref.fieldPath.toList.head? ≠ some '$') :
    ∀ fields ∈ MongoCompiler.timeClauses plan, Harmless fields := by
  intro fields hfields
  rw [MongoCompiler.timeClauses] at hfields
  split at hfields
  · next ref range href hrange =>
    simp only at hfields
    split at hfields
    · cases hfields
    · obtain rfl := List.mem_singleton.mp hfields
      refine harmless_single (hpath ref href) ?_
      obtain ⟨start, stop, hordered⟩ := range
      cases start <;> cases stop
      · exact harmless_nil
      · exact harmless_nil.cons (by decide) rfl
      · exact harmless_nil.cons (by decide) rfl
      · exact (harmless_nil.cons (by decide) rfl).cons (by decide) rfl
  · cases hfields

theorem harmless_matchOf {clauses : List (List (String × Value))}
    (h : ∀ fields ∈ clauses, Harmless fields) : Harmless (MongoCompiler.matchOf clauses) := by
  match clauses with
  | [] => exact harmless_nil
  | [fields] => exact h fields List.mem_cons_self
  | first :: second :: rest =>
    refine harmless_nil.cons (by decide) (forbidden_list fun item hitem => ?_)
    obtain ⟨fields, hfields, rfl⟩ := List.mem_map.mp hitem
    exact forbidden_dict (h fields hfields)

/-! ### Commands -/

/-- What the validator asks of a command. -/
structure Validated (plan : GroundedQueryPlan) (name : String) (command : List (String × Value)) :
    Prop where
  collection : command.lookup "collection" = some (.str name)
  operation : (command.lookup "operation" = some (.str "find") ∧
      command.lookup "limit" = some (.int plan.limit)) ∨
    (command.lookup "operation" = some (.str "aggregate") ∧
      ∃ pipeline, command.lookup "pipeline" = some pipeline ∧ checkPipeline plan pipeline = .ok ())
  harmless : Harmless command

theorem validated_find {name : String} {filter command : List (String × Value)}
    (hfilter : Harmless filter)
    (hpaths : ∀ ref ∈ plan.selectedFields, ref.fieldPath.toList.head? ≠ some '$')
    (h : MongoCompiler.find plan name filter = .ok command) : Validated plan name command := by
  rw [MongoCompiler.find] at h
  split at h
  · cases h
  have hdict : Harmless (dictOf (plan.selectedFields.map fun ref => (ref.fieldPath, .int 1))) := by
    refine harmless_foldl harmless_nil fun item hitem => ?_
    obtain ⟨ref, href, rfl⟩ := List.mem_map.mp hitem
    exact ⟨not_forbidden_of_head (hpaths ref href), rfl⟩
  have hsort : forbidden (.list ((MongoCompiler.sortKeys plan).map fun key =>
      .tuple [.str key.1, .int key.2])) = false := by
    refine forbidden_list fun item hitem => ?_
    obtain ⟨key, -, rfl⟩ := List.mem_map.mp hitem
    rfl
  obtain rfl := Except.ok.inj h
  refine ⟨rfl, .inl ⟨rfl, rfl⟩, ?_⟩
  refine (((((harmless_nil.cons (by decide) rfl).cons (by decide) hsort).cons (by decide) ?_).cons
    (by decide) (forbidden_dict hfilter)).cons (by decide) rfl).cons (by decide) rfl
  refine forbidden_dict ?_
  split
  · exact hdict
  · exact hdict.append (harmless_nil.cons (by decide) rfl)

theorem harmless_accumulator (item : PlanAggregate) :
    forbidden (MongoCompiler.accumulator item) = false := by
  rw [MongoCompiler.accumulator]
  split
  · next name ref hname _ =>
    refine forbidden_dict (harmless_nil.cons ?_ rfl)
    cases hfunction : item.function <;> rw [hfunction] at hname <;> cases hname <;> decide
  · rfl

/-- The aggregates of a group, one by one. -/
theorem harmless_group {items : List PlanAggregate} {group result : List (String × Value)}
    (hgroup : Harmless group) (h : items.foldlM (MongoCompiler.addAggregate plan) group = .ok result) :
    Harmless result ∧ ∀ item ∈ items, item.alias_.toList.head? ≠ some '$' := by
  induction items generalizing group with
  | nil =>
    obtain rfl : group = result := Except.ok.inj h
    exact ⟨hgroup, fun _ hitem => absurd hitem List.not_mem_nil⟩
  | cons item items ih =>
    rw [List.foldlM_cons] at h
    obtain ⟨next, hnext, h⟩ := bind_ok h
    rw [MongoCompiler.addAggregate] at hnext
    split at hnext
    · cases hnext
    next hsafe =>
    split at hnext
    · cases hnext
    obtain rfl := Except.ok.inj hnext
    have halias : item.alias_.toList.head? ≠ some '$' := fun hhead => hsafe (.inl hhead)
    obtain ⟨hresult, hrest⟩ := ih
      (harmless_setItem hgroup (not_forbidden_of_head halias) (harmless_accumulator item)) h
    refine ⟨hresult, fun other hother => ?_⟩
    rcases List.mem_cons.mp hother with rfl | hother
    · exact halias
    · exact hrest other hother

/-- The keys that are sorted by are fields of the projection. -/
theorem harmless_sorted {keys : List (String × Int)} {fields result : List (String × Value)}
    (hproject : Harmless (MongoCompiler.projectOf plan)) (hfields : Harmless fields)
    (h : keys.foldlM (MongoCompiler.addSort plan) fields = .ok result) : Harmless result := by
  induction keys generalizing fields with
  | nil =>
    obtain rfl : fields = result := Except.ok.inj h
    exact hfields
  | cons key keys ih =>
    rw [List.foldlM_cons] at h
    obtain ⟨next, hnext, h⟩ := bind_ok h
    rw [MongoCompiler.addSort] at hnext
    split at hnext
    · next hany =>
      obtain rfl := Except.ok.inj hnext
      obtain ⟨field, hfield, hkey⟩ := List.any_eq_true.mp hany
      have hname : underscored key.1 ∉ mongoForbidden := by
        rw [← of_decide_eq_true hkey]
        exact (hproject field hfield).1
      exact ih (harmless_setItem hfields hname rfl) h
    · cases hnext

/-- A stage that the validator lets through. -/
def Stage (stage : Value) : Prop :=
  ∃ name v, stage = .dict [(name, v)] ∧ name ∈ mongoStages ∧ forbidden v = false

theorem stage_of_harmless {name : String} {fields : List (String × Value)} (hname : name ∈ mongoStages)
    (h : Harmless fields) : Stage (.dict [(name, .dict fields)]) :=
  ⟨name, _, rfl, hname, forbidden_dict h⟩

theorem forbidden_stage {stage : Value} (h : Stage stage) : forbidden stage = false := by
  obtain ⟨name, v, rfl, hname, hv⟩ := h
  refine forbidden_dict (harmless_nil.cons ?_ hv)
  simp only [mongoStages, List.mem_cons, List.not_mem_nil, or_false] at hname
  rcases hname with rfl | rfl | rfl | rfl | rfl | rfl <;> decide

theorem checkPipeline_ok {stages : List Value} (hstages : ∀ stage ∈ stages, Stage stage)
    (hlast : stages.getLast? = some (.dict [("$limit", .int plan.limit)])) :
    checkPipeline plan (.list stages) = .ok () := by
  have hallowed : stages.any (fun stage => ¬isStage stage) = false := by
    rw [List.any_eq_false]
    intro stage hstage
    obtain ⟨name, v, rfl, hname, -⟩ := hstages stage hstage
    simp [isStage, hname]
  cases stages with
  | nil => cases hlast
  | cons stage stages => simp only [checkPipeline, hallowed, hlast]; simp

theorem validated_aggregate {name : String} {filter command : List (String × Value)}
    (hfilter : Harmless filter)
    (hpaths : ∀ ref ∈ plan.groupBy, ref.fieldPath.toList.head? ≠ some '$')
    (h : MongoCompiler.aggregate plan name filter = .ok command) : Validated plan name command := by
  rw [MongoCompiler.aggregate] at h
  split at h
  · cases h
  obtain ⟨group, hgroup, h⟩ := bind_ok h
  obtain ⟨sorted, hsorted, h⟩ := bind_ok h
  obtain rfl := Except.ok.inj h
  have hkeys : Harmless (MongoCompiler.groupKeys plan) := by
    refine harmless_foldl harmless_nil fun item hitem => ?_
    obtain ⟨ref, href, rfl⟩ := List.mem_map.mp hitem
    exact ⟨not_forbidden_of_head (head_underscored (hpaths ref href)), rfl⟩
  have hid : forbidden (if MongoCompiler.groupKeys plan = [] then .null
      else .dict (MongoCompiler.groupKeys plan)) = false := by
    split
    · rfl
    · exact forbidden_dict hkeys
  obtain ⟨hgrouped, haliases⟩ := harmless_group (harmless_nil.cons (by decide) hid) hgroup
  have hproject : Harmless (MongoCompiler.projectOf plan) := by
    rw [MongoCompiler.projectOf]
    refine harmless_foldl (harmless_foldl (harmless_nil.cons (by decide) rfl) fun ref href => ?_)
      fun item hitem => ⟨not_forbidden_of_head (haliases item hitem), rfl⟩
    exact ⟨not_forbidden_of_head (head_underscored (hpaths ref href)), rfl⟩
  have hsortedBy := harmless_sorted hproject harmless_nil hsorted
  have hstages : ∀ stage ∈ (if filter = [] then [] else [.dict [("$match", .dict filter)]]) ++
      [.dict [("$group", .dict group)], .dict [("$project", .dict (MongoCompiler.projectOf plan))]] ++
      (if MongoCompiler.sortKeys plan = [] then [] else [.dict [("$sort", .dict sorted)]]) ++
      [.dict [("$limit", .int plan.limit)]], Stage stage := by
    intro stage hstage
    simp only [List.mem_append, List.mem_cons, List.not_mem_nil, or_false] at hstage
    rcases hstage with ((hstage | rfl | rfl) | hstage) | rfl
    · split at hstage
      · cases hstage
      · obtain rfl := List.mem_singleton.mp hstage
        exact stage_of_harmless (by decide) hfilter
    · exact stage_of_harmless (by decide) hgrouped
    · exact stage_of_harmless (by decide) hproject
    · split at hstage
      · cases hstage
      · obtain rfl := List.mem_singleton.mp hstage
        exact stage_of_harmless (by decide) hsortedBy
    · exact ⟨"$limit", _, rfl, by decide, rfl⟩
  refine ⟨rfl, .inr ⟨rfl, _, rfl, checkPipeline_ok hstages List.getLast?_concat⟩, ?_⟩
  exact ((harmless_nil.cons (by decide)
    (forbidden_list fun stage hstage => forbidden_stage (hstages stage hstage))).cons
      (by decide) rfl).cons (by decide) rfl

theorem exists_of_mapM {α β : Type} {f : α → Except Failure β} {as : List α} {bs : List β}
    (h : as.mapM f = .ok bs) : ∀ b ∈ bs, ∃ a ∈ as, f a = .ok b := fun _ hb =>
  exists_of_forall₂ (forall₂_of_mapM h).flip hb

/-- Every filter of the plan has a scalar or a list of scalars. -/
def FlatFilters (plan : GroundedQueryPlan) : Prop := ∀ item ∈ plan.filters, Flat item.value

theorem checkProvenance_self (q : NativeQuery) : checkProvenance t q q = .ok () := by
  simp [checkProvenance]

/-- A compiled command for MongoDB is validated. -/
theorem validateMongo_compiled {q : NativeQuery} (hflat : FlatFilters plan)
    (h : MongoCompiler.compile t plan = .ok q) : validateMongo t q plan = .ok () := by
  have hcompile := h
  rw [MongoCompiler.compile] at h
  split at h
  · cases h
  next hone =>
  split at h
  · cases h
  next name hname =>
  split at h
  · cases h
  next hsafe =>
  obtain ⟨clauses, hclauses, h⟩ := bind_ok h
  have hpath : ∀ path ∈ MongoCompiler.allowed plan, path.toList.head? ≠ some '$' :=
    fun path => safe_of_compile hsafe
  have hfilter : Harmless (MongoCompiler.matchOf (clauses ++ MongoCompiler.timeClauses plan)) := by
    refine harmless_matchOf fun fields hfields => ?_
    rcases List.mem_append.mp hfields with hfields | hfields
    · obtain ⟨item, hitem, hclause⟩ := exists_of_mapM hclauses fields hfields
      have hmem : item.field.fieldPath ∈ MongoCompiler.allowed plan := by
        simp only [MongoCompiler.allowed, List.mem_append, List.mem_map]
        exact .inl (.inl (.inl (.inr ⟨item, hitem, rfl⟩)))
      exact harmless_clause (hpath _ hmem) (hflat item hitem) hclause
    · refine harmless_timeClauses (fun ref href => hpath _ ?_) fields hfields
      simp only [MongoCompiler.allowed, List.mem_append, Option.mem_toList]
      exact .inr (Option.map_eq_some_iff.mpr ⟨ref, href, rfl⟩)
  obtain ⟨command, hcommand, h⟩ := bind_ok h
  obtain rfl := Except.ok.inj h
  have hvalidated : Validated plan name command := by
    rw [MongoCompiler.commandOf] at hcommand
    split at hcommand
    · refine validated_find hfilter (fun ref href => hpath _ ?_) hcommand
      simp only [MongoCompiler.allowed, List.mem_append, List.mem_map]
      exact .inl (.inl (.inl (.inl (.inl ⟨ref, href, rfl⟩))))
    · refine validated_aggregate hfilter (fun ref href => hpath _ ?_) hcommand
      simp only [MongoCompiler.allowed, List.mem_append, List.mem_map]
      exact .inl (.inl (.inl (.inl (.inr ⟨ref, href, rfl⟩))))
  obtain ⟨locator, hlocator, hgiven⟩ := Option.bind_eq_some_iff.mp hname
  have hlocatorName : locator.name = some name := by
    unfold given at hgiven
    split at hgiven
    · next text htext =>
      split at hgiven
      · cases hgiven
      · rw [htext, hgiven]
    · cases hgiven
  rw [not_or, Classical.not_not, Classical.not_not] at hone
  have hforbidden : forbidden (.dict command) = false := forbidden_dict hvalidated.harmless
  have hlimit : bounded plan (.int plan.limit) = true := by
    simp [bounded, intOf, plan.limit_range.1]
  have hbound : checkBound plan command = .ok () ∧
      command.lookup "operation" ∈ [some (.str "find"), some (.str "aggregate")] := by
    rcases hvalidated.operation with ⟨hfind, hbound⟩ | ⟨haggregate, pipeline, hpipeline, hstages⟩
    · simp [checkBound, hfind, hbound, hlimit]
    · simp [checkBound, haggregate, hpipeline, hstages]
  have hcollection : (plan.locator (plan.dataObjectIds.headD "")).map
      (fun locator => (locator.name.map Value.str).getD .null) =
      some ((command.lookup "collection").getD .null) := by
    rw [hlocator, hvalidated.collection, Option.map_some, hlocatorName]
    rfl
  rw [validateMongo]
  simp only [hbound.2, not_true_eq_false, if_false, hone, hcollection, ne_eq, or_self, hbound.1,
    hforbidden, hcompile, Bool.false_eq_true]
  exact checkProvenance_self _

end Mongo

/-! ## Redis -/

section Redis

open NativeValidator

variable {t : Texts} {plan : GroundedQueryPlan}

/-- A command with its arguments that the validator lets through. -/
def Readable (plan : GroundedQueryPlan) (command : List (String × Value)) : Prop :=
  ∃ operation args, command.lookup "command" = some (.str operation) ∧
    command.lookup "args" = some (.list args) ∧ operation ∈ redisReads ∧
    checkRedis plan operation args ((command.lookup "limit").getD .null) = .ok ()

/-- A command that reads by exact keys. -/
theorem readable_keys {operation : String} {keys : List Value} (hread : operation ∈ redisReads)
    (hscan : operation ≠ "SCAN") (hrange : ¬(operation = "LRANGE" ∨ operation = "ZRANGE"))
    (hkeys : keys ≠ []) : Readable plan (RedisCompiler.command operation keys) := by
  refine ⟨operation, keys, rfl, rfl, hread, ?_⟩
  unfold checkRedis
  rw [if_neg hscan, if_neg hrange, if_neg hkeys]

theorem readable_scan (kind : String) : Readable plan (RedisCompiler.scan plan kind) := by
  refine ⟨"SCAN", [], rfl, rfl, by decide, ?_⟩
  have hlimit : bounded plan (.int plan.limit) = true := by
    simp [bounded, intOf, plan.limit_range.1]
  have hlookup : (RedisCompiler.scan plan kind).lookup "limit" = some (.int plan.limit) := rfl
  unfold checkRedis
  rw [if_pos rfl, hlookup, Option.getD_some, if_pos ⟨rfl, hlimit⟩]

theorem readable_range {operation : String} (h : operation = "LRANGE" ∨ operation = "ZRANGE")
    (key : Value) :
    Readable plan (RedisCompiler.command operation [key, .int 0, .int (plan.limit - 1)]) := by
  have hread : operation ∈ redisReads := by
    rcases h with rfl | rfl <;> decide
  have hscan : operation ≠ "SCAN" := by
    rcases h with rfl | rfl <;> decide
  refine ⟨operation, _, rfl, rfl, hread, ?_⟩
  have hstop : plan.limit - 1 < plan.limit := by omega
  simp [checkRedis, hscan, h, isZero, intOf, hstop]

theorem valueCommand_read {kind operation : String}
    (h : RedisCompiler.valueCommand kind = some operation) :
    operation ∈ redisReads ∧ operation ≠ "SCAN" := by
  unfold RedisCompiler.valueCommand at h
  split at h <;> cases h <;> decide

theorem readable_value {kind operation : String} {keys : List Value}
    {command : List (String × Value)} (hkind : RedisCompiler.valueCommand kind = some operation)
    (h : RedisCompiler.readValue plan kind operation keys = .ok command) : Readable plan command := by
  obtain ⟨hread, hscan⟩ := valueCommand_read hkind
  unfold RedisCompiler.readValue at h
  split at h
  · next hmany =>
    cases h
    refine readable_keys (by decide) (by decide) (by decide) ?_
    rintro rfl
    simp at hmany
  · split at h
    · split at h
      · next hrange =>
        cases h
        exact readable_range hrange _
      · next hrange =>
        cases h
        exact readable_keys hread hscan hrange (List.cons_ne_nil _ _)
    · cases h

theorem readable_metadata {kind selected : String} {keys : List Value}
    {command : List (String × Value)}
    (h : RedisCompiler.readMetadata kind selected keys = .ok command) : Readable plan command := by
  unfold RedisCompiler.readMetadata at h
  split at h
  · cases h
  next hone =>
  have hkeys : keys ≠ [] := by
    rintro rfl
    simp at hone
  split at h
  · split at h
    · cases h
      exact readable_keys (by decide) (by decide) (by decide) hkeys
    · split at h
      · cases h
        exact readable_keys (by decide) (by decide) (by decide) hkeys
      · cases h
  all_goals
    cases h
  all_goals
    exact readable_keys (by decide) (by decide) (by decide) hkeys

theorem readable_command {kind operation : String} {keys : Option (List Value)}
    {command : List (String × Value)} (hkind : RedisCompiler.valueCommand kind = some operation)
    (h : RedisCompiler.commandOf plan kind operation keys = .ok command) : Readable plan command := by
  unfold RedisCompiler.commandOf at h
  split at h
  · split at h
    · cases h
    · cases h
      exact readable_scan kind
  · unfold RedisCompiler.readKeys at h
    split at h
    · split at h
      · cases h
      · split at h
        · exact readable_value hkind h
        · exact readable_metadata h
    · cases h

/-- A compiled command for Redis is validated. -/
theorem validateRedis_compiled {q : NativeQuery} (h : RedisCompiler.compile t plan = .ok q) :
    validateRedis t q plan = .ok () := by
  have hcompile := h
  unfold RedisCompiler.compile at h
  split at h
  · cases h
  split at h
  · cases h
  split at h
  · cases h
  next kind operation hkind =>
  split at h
  · cases h
  obtain ⟨keys, -, h⟩ := bind_ok h
  obtain ⟨command, hcommand, h⟩ := bind_ok h
  obtain rfl := Except.ok.inj h
  have hvalue : RedisCompiler.valueCommand kind = some operation := by
    obtain ⟨locator, -, hkind⟩ := Option.bind_eq_some_iff.mp hkind
    obtain ⟨kind', -, hkind⟩ := Option.bind_eq_some_iff.mp hkind
    obtain ⟨operation', hoperation, hkind⟩ := Option.bind_eq_some_iff.mp hkind
    cases hkind
    exact hoperation
  obtain ⟨name, args, hname, hargs, hread, hcheck⟩ := readable_command hvalue hcommand
  rw [validateRedis]
  simp only [hname, hargs, hread, not_true_eq_false, if_false, hcheck, hcompile]
  exact checkProvenance_self _

end Redis

/-! ## A plan with a name that looks like SQL -/

section Sample

/-- A column that is named like the end of one statement and the beginning of another. -/
def hostileRef : GroundedFieldRef :=
  sampleRef "orders" "a`; DROP TABLE x /* %s ? -- [" Contracts.length_orders (by decide)

def hostilePlan : GroundedQueryPlan where
  planId := "plan"
  workspaceId := "workspace"
  datasourceId := "shop"
  dataObjectIds := ["orders"]
  dataObjects := [("orders", sampleObject "orders" Contracts.length_orders)]
  selectedFields := [hostileRef]
  filters := [{ field := hostileRef, operator := .in_, value := .list [.int 1, .str "two"] }]
  expectedResultType := .tabular
  planId_length := Contracts.length_plan
  dataObjectIds_length := Contracts.oneId_length "orders"
  limit_range := Contracts.defaultLimit_range
  time_together := Contracts.TimeRange.none_together
  output := .inr (by simp)
  dataObjectIds_unique := Contracts.oneId_unique "orders"
  join_required := Contracts.joinless_one "orders"
  groupBy_selected := by simp
  dataObjects_keys := sampleObject_keys "orders" Contracts.length_orders

def sampleDatasource : Scan.Datasource where
  id := "shop"
  name := "shop"
  kind := .relational
  workspaceId := "workspace"
  driver := some "mysql"
  status := .ready

def hostileCommand : String :=
  "SELECT t0.`a``; DROP TABLE x /* %s ? -- [` FROM `orders` AS t0 WHERE " ++
    "t0.`a``; DROP TABLE x /* %s ? -- [` IN (%s, %s) LIMIT %s"

def hostileQuery : NativeQuery where
  datasourceId := "shop"
  planId := "plan"
  queryLanguage := .sql
  command := .text hostileCommand
  parameters := [.int 1, .str "two", .int 200]
  displayCommand := hostileCommand

theorem compile_hostile : compileNative sampleTexts hostilePlan sampleDatasource = .ok hostileQuery := by
  decide +kernel

theorem flat_hostile : FlatFilters hostilePlan := by
  intro item hitem
  obtain rfl := List.mem_singleton.mp hitem
  exact .inr ⟨_, rfl, by simp [Scalar]⟩

end Sample

/-! ## Every driver -/

section Compiled

open NativeValidator

variable {t : Texts} {plan : GroundedQueryPlan} {datasource : Scan.Datasource} {q : NativeQuery}

/-- What a compiler puts into every query. -/
structure OfPlan (plan : GroundedQueryPlan) (q : NativeQuery) : Prop where
  datasourceId : q.datasourceId = plan.datasourceId
  planId : q.planId = plan.planId
  scanVersion : q.scanVersion = plan.scanVersion

theorem mongo_ofPlan (h : MongoCompiler.compile t plan = .ok q) :
    OfPlan plan q ∧ q.queryLanguage = .mongodbJson := by
  unfold MongoCompiler.compile at h
  split at h
  · cases h
  split at h
  · cases h
  split at h
  · cases h
  obtain ⟨clauses, -, h⟩ := bind_ok h
  obtain ⟨command, -, h⟩ := bind_ok h
  obtain rfl := Except.ok.inj h
  exact ⟨⟨rfl, rfl, rfl⟩, rfl⟩

theorem redis_ofPlan (h : RedisCompiler.compile t plan = .ok q) :
    OfPlan plan q ∧ q.queryLanguage = .redisJson := by
  unfold RedisCompiler.compile at h
  split at h
  · cases h
  split at h
  · cases h
  split at h
  · cases h
  split at h
  · cases h
  obtain ⟨keys, -, h⟩ := bind_ok h
  obtain ⟨command, -, h⟩ := bind_ok h
  obtain rfl := Except.ok.inj h
  exact ⟨⟨rfl, rfl, rfl⟩, rfl⟩

theorem validate_of_language {expected : Option NativeQuery} (hplan : OfPlan plan q)
    (hexpected : ∀ e ∈ expected, e = q) (h : validateLanguage t q plan expected = .ok ()) :
    validate t q plan expected = .ok () := by
  have hlanguage : (expected.any fun e => q.queryLanguage ≠ e.queryLanguage) = false := by
    cases expected with
    | none => rfl
    | some e => simp [hexpected e rfl]
  unfold validate
  simp only [hplan.datasourceId, hplan.planId, hplan.scanVersion, ne_eq, not_true_eq_false, or_self,
    if_false, hlanguage, h, Bool.false_eq_true]
  cases expected with
  | none => rfl
  | some e =>
    obtain rfl := hexpected e rfl
    simp [checkProvenance_self, bind, Except.bind]

/-- **What is compiled passes the validator**, also when it is compared with itself, for every plan
whose filters have scalars or lists of scalars. -/
theorem validate_compiled (hflat : FlatFilters plan) (h : compileNative t plan datasource = .ok q) :
    validate t q plan none = .ok () ∧ validate t q plan (some q) = .ok () := by
  rw [compileNative] at h
  split at h
  · cases h
  split at h
  · next d _ =>
    have hplan : OfPlan plan q ∧ q.queryLanguage = .sql := by
      obtain ⟨command, rfl, -⟩ := (compile_written h).text
      exact ⟨⟨rfl, rfl, rfl⟩, rfl⟩
    obtain ⟨hnone, hsome⟩ := validateSql_compiled h
    constructor
    · exact validate_of_language hplan.1 nofun (by rw [validateLanguage, hplan.2]; exact hnone)
    · exact validate_of_language hplan.1 (by rintro e ⟨⟩; rfl)
        (by rw [validateLanguage, hplan.2]; exact hsome)
  · obtain ⟨hplan, hlanguage⟩ := mongo_ofPlan h
    have hvalid := validateMongo_compiled hflat h
    constructor
    · exact validate_of_language hplan nofun (by rw [validateLanguage, hlanguage]; exact hvalid)
    · exact validate_of_language hplan (by rintro e ⟨⟩; rfl)
        (by rw [validateLanguage, hlanguage]; exact hvalid)
  · obtain ⟨hplan, hlanguage⟩ := redis_ofPlan h
    have hvalid := validateRedis_compiled h
    constructor
    · exact validate_of_language hplan nofun (by rw [validateLanguage, hlanguage]; exact hvalid)
    · exact validate_of_language hplan (by rintro e ⟨⟩; rfl)
        (by rw [validateLanguage, hlanguage]; exact hvalid)
  · cases h

theorem hostile_validated :
    validate sampleTexts hostileQuery hostilePlan none = .ok () ∧
      validate sampleTexts hostileQuery hostilePlan (some hostileQuery) = .ok () :=
  validate_compiled flat_hostile compile_hostile

end Compiled

end Querying
