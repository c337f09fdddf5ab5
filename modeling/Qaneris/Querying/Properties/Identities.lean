import Mathlib.Data.List.Lex
import Mathlib.Order.WithBot
import Qaneris.Infra.Sorting
import Qaneris.Querying.Context
import Qaneris.Semantic.Properties.Plannable

/-!
# What candidates say of one asset

* `aggregation_sound_iff` — for which candidates the aggregation of their identities, types and locators
  refuses exactly what is contradictory, with the right error and whatever their order
-/

namespace Querying.QueryContextBuilder

open Contracts
open Semantic (distinct)
open Infra (bind_ok bind_error)

/-! ## Comparing -/

section Comparing

/-- A missing part comes first. -/
def partRank : Option String → WithBot String
  | none => ⊥
  | some text => text

def rankOf (parts : List (Option String)) : List (WithBot String) := parts.map partRank

theorem partRank_inj {x y : Option String} (h : partRank x = partRank y) : x = y := by
  cases x <;> cases y <;> simp_all [partRank]

theorem rankOf_inj {a b : List (Option String)} (h : rankOf a = rankOf b) : a = b :=
  List.map_injective_iff.mpr (fun _ _ => partRank_inj) h

theorem rankOf_cons_le {x y : Option String} {xs ys : List (Option String)} :
    rankOf (x :: xs) ≤ rankOf (y :: ys) ↔ partRank x < partRank y ∨ x = y ∧ rankOf xs ≤ rankOf ys := by
  have hlt : rankOf (y :: ys) < rankOf (x :: xs) ↔
      partRank y < partRank x ∨ partRank y = partRank x ∧ rankOf ys < rankOf xs := List.cons_lt_cons_iff
  rw [← not_lt, hlt, not_or, not_lt, not_and, not_lt, le_iff_lt_or_eq]
  constructor
  · rintro ⟨hless | heq, hrest⟩
    · exact Or.inl hless
    · exact Or.inr ⟨partRank_inj heq, hrest heq.symm⟩
  · rintro (hless | ⟨rfl, hle⟩)
    · exact ⟨Or.inl hless, fun heq => absurd heq (ne_of_gt hless)⟩
    · exact ⟨Or.inr rfl, fun _ => hle⟩

theorem comparable_self (parts : List (Option String)) : comparable parts parts = true := by
  induction parts with
  | nil => rfl
  | cons part parts ih =>
    rw [comparable, if_pos rfl]
    exact ih

theorem tupleLe_iff {a b : List (Option String)} (hlength : a.length = b.length)
    (h : comparable a b = true) : tupleLe a b = true ↔ rankOf a ≤ rankOf b := by
  induction a generalizing b with
  | nil =>
    obtain rfl := List.length_eq_zero_iff.mp hlength.symm
    exact iff_of_true rfl le_rfl
  | cons x xs ih =>
    cases b with
    | nil => cases hlength
    | cons y ys =>
      rw [comparable] at h
      rw [tupleLe, rankOf_cons_le]
      by_cases hxy : x = y
      · subst hxy
        rw [if_pos rfl] at h ⊢
        rw [ih (Nat.succ.inj hlength) h]
        exact ⟨fun hle => Or.inr ⟨rfl, hle⟩, fun hor => (hor.resolve_left (lt_irrefl _)).2⟩
      · rw [if_neg hxy] at h ⊢
        obtain ⟨hx, hy⟩ := (Bool.and_eq_true _ _).mp h
        obtain ⟨s, rfl⟩ := Option.isSome_iff_exists.mp hx
        obtain ⟨s', rfl⟩ := Option.isSome_iff_exists.mp hy
        have hlt : partRank (some s) < partRank (some s') ↔ s < s' := WithBot.coe_lt_coe
        rw [decide_eq_true_iff, Option.getD_some, Option.getD_some, hlt]
        exact ⟨Or.inl, fun hor => hor.resolve_right fun hand => hxy hand.1⟩

def fieldRank (key : FieldKey) : Lex (String × Lex (String × String)) := toLex (key.1, toLex key.2)

def objectRank (key : String × String) : Lex (String × String) := toLex key

theorem fieldRank_inj (a b : FieldKey) (h : fieldRank a = fieldRank b) : a = b := by
  obtain ⟨h₁, h₂⟩ := Prod.mk.inj (toLex.injective h)
  exact Prod.ext h₁ (toLex.injective h₂)

theorem objectRank_inj (a b : String × String) (h : objectRank a = objectRank b) : a = b :=
  toLex.injective h

theorem objectKeyLe_iff (a b : String × String) : objectKeyLe a b = true ↔ objectRank a ≤ objectRank b := by
  unfold objectKeyLe objectRank
  rw [Prod.Lex.toLex_le_toLex]
  by_cases h : a.1 = b.1
  · simp [h]
  · simp [h]

theorem fieldKeyLe_iff (a b : FieldKey) : fieldKeyLe a b = true ↔ fieldRank a ≤ fieldRank b := by
  have hrest := objectKeyLe_iff a.2 b.2
  unfold objectKeyLe objectRank at hrest
  unfold fieldKeyLe fieldRank
  rw [Prod.Lex.toLex_le_toLex]
  by_cases h : a.1 = b.1
  · rw [if_neg (not_not.mpr h)]
    simp only [h, lt_irrefl, false_or, true_and]
    exact hrest
  · rw [if_pos h, decide_eq_true_iff]
    simp [h]

end Comparing

/-! ## The declarations of one asset -/

section Declared

variable {α β : Type} [DecidableEq α]

/-- Two of the declarations are different. -/
def Differ (declared : List α) : Prop := ∃ a ∈ declared, ∃ b ∈ declared, a ≠ b

/-- Of two of the declarations, the first part in which they differ is missing in one. -/
def Mixed (parts : α → List (Option String)) (declared : List α) : Prop :=
  ∃ a ∈ declared, ∃ b ∈ declared, comparable (parts a) (parts b) = false

instance (declared : List α) : Decidable (Differ declared) :=
  inferInstanceAs (Decidable (∃ a ∈ declared, ∃ b ∈ declared, a ≠ b))

instance (parts : α → List (Option String)) (declared : List α) : Decidable (Mixed parts declared) :=
  inferInstanceAs (Decidable (∃ a ∈ declared, ∃ b ∈ declared, _ = false))

omit [DecidableEq α] in
theorem Mixed.differ {parts : α → List (Option String)} {declared : List α} (h : Mixed parts declared) :
    Differ declared := by
  obtain ⟨a, ha, b, hb, hnot⟩ := h
  refine ⟨a, ha, b, hb, ?_⟩
  rintro rfl
  rw [comparable_self] at hnot
  cases hnot

theorem one_lt_length_dedup {declared : List α} : 1 < declared.dedup.length ↔ Differ declared := by
  constructor
  · intro h
    match hdedup : declared.dedup, h with
    | a :: b :: rest, _ =>
      have hnodup : (a :: b :: rest).Nodup := hdedup ▸ List.nodup_dedup declared
      have hmem : ∀ x ∈ a :: b :: rest, x ∈ declared := fun x hx => List.mem_dedup.mp (hdedup ▸ hx)
      exact ⟨a, hmem a List.mem_cons_self, b, hmem b (by simp),
        fun hab => (List.nodup_cons.mp hnodup).1 (hab ▸ List.mem_cons_self)⟩
  · rintro ⟨a, ha, b, hb, hne⟩
    have hsub : [a, b].Subperm declared.dedup := by
      refine List.subperm_of_subset (by simpa using hne) fun x hx => List.mem_dedup.mpr ?_
      rcases List.mem_cons.mp hx with rfl | hx
      · exact ha
      · rwa [List.mem_singleton.mp hx]
    exact hsub.length_le

variable {parts : α → List (Option String)} {declared declared' : List α}

theorem sortedOptions_of_mixed (h : Mixed parts declared) :
    sortedOptions parts declared.dedup = .error .typeError := by
  obtain ⟨a, ha, b, hb, hnot⟩ := h
  unfold sortedOptions
  rw [if_neg]
  simp only [List.all_eq_true, not_forall]
  exact ⟨a, List.mem_dedup.mpr ha, b, List.mem_dedup.mpr hb, by rw [hnot]; exact Bool.false_ne_true⟩

theorem sortedOptions_of_not_mixed (h : ¬Mixed parts declared) : sortedOptions parts declared.dedup =
    .ok (declared.dedup.insertionSort fun a b => tupleLe (parts a) (parts b) = true) := by
  unfold sortedOptions
  rw [if_pos]
  simp only [List.all_eq_true]
  intro a ha b hb
  rw [← Bool.not_eq_false]
  exact fun hnot => h ⟨a, List.mem_dedup.mp ha, b, List.mem_dedup.mp hb, hnot⟩

/-- What is made of the declarations of one asset, which must be all the same. -/
def resolved (parts : α → List (Option String)) (refuse : List α → ContextError) (make : List α → β)
    (declared : List α) : Except ContextError β := do
  let options ← sortedOptions parts declared.dedup
  if 1 < options.length then .error (refuse options) else .ok (make options)

variable {refuse : List α → ContextError} {make : List α → β}

theorem resolved_of_mixed (h : Mixed parts declared) :
    resolved parts refuse make declared = .error .typeError := by
  unfold resolved
  rw [sortedOptions_of_mixed h]
  rfl

theorem resolved_of_not_mixed (h : ¬Mixed parts declared) : resolved parts refuse make declared =
    if Differ declared then
      .error (refuse (declared.dedup.insertionSort fun a b => tupleLe (parts a) (parts b) = true))
    else .ok (make (declared.dedup.insertionSort fun a b => tupleLe (parts a) (parts b) = true)) := by
  have hlength : 1 < (declared.dedup.insertionSort fun a b =>
      tupleLe (parts a) (parts b) = true).length ↔ Differ declared := by
    rw [(List.perm_insertionSort _ _).length_eq, one_lt_length_dedup]
  unfold resolved
  rw [sortedOptions_of_not_mixed h]
  show (if _ then _ else _) = _
  by_cases hdiffer : Differ declared
  · rw [if_pos hdiffer, if_pos (hlength.mpr hdiffer)]
  · rw [if_neg hdiffer, if_neg (hlength.not.mpr hdiffer)]

theorem resolved_error_iff :
    (∃ e, resolved parts refuse make declared = .error e) ↔ Differ declared := by
  by_cases hmixed : Mixed parts declared
  · rw [resolved_of_mixed hmixed]
    exact iff_of_true ⟨_, rfl⟩ hmixed.differ
  · rw [resolved_of_not_mixed hmixed]
    by_cases hdiffer : Differ declared
    · rw [if_pos hdiffer]
      exact iff_of_true ⟨_, rfl⟩ hdiffer
    · rw [if_neg hdiffer]
      exact iff_of_false (fun ⟨_, h⟩ => nomatch h) hdiffer

theorem resolved_typeError_iff (hrefuse : ∀ options, refuse options ≠ .typeError) :
    resolved parts refuse make declared = .error .typeError ↔ Mixed parts declared := by
  by_cases hmixed : Mixed parts declared
  · exact iff_of_true (resolved_of_mixed hmixed) hmixed
  · rw [resolved_of_not_mixed hmixed]
    refine iff_of_false (fun h => ?_) hmixed
    by_cases hdiffer : Differ declared
    · rw [if_pos hdiffer] at h
      exact hrefuse _ (Except.error.inj h)
    · rw [if_neg hdiffer] at h
      cases h

/-- The order of the declarations makes no difference. -/
theorem resolved_perm (hinj : Function.Injective parts)
    (hlength : ∀ a b, (parts a).length = (parts b).length) (hperm : declared.Perm declared') :
    resolved parts refuse make declared = resolved parts refuse make declared' := by
  have hmixed : Mixed parts declared ↔ Mixed parts declared' := by
    unfold Mixed
    simp only [hperm.mem_iff]
  have hdiffer : Differ declared ↔ Differ declared' := by
    unfold Differ
    simp only [hperm.mem_iff]
  by_cases h : Mixed parts declared
  · rw [resolved_of_mixed h, resolved_of_mixed (hmixed.mp h)]
  · have hsort : (declared.dedup.insertionSort fun a b => tupleLe (parts a) (parts b) = true) =
        declared'.dedup.insertionSort fun a b => tupleLe (parts a) (parts b) = true := by
      have hrank : Infra.ByKey (fun a => rankOf (parts a)) (fun a b => tupleLe (parts a) (parts b) = true)
          declared.dedup := by
        intro a ha b hb
        refine tupleLe_iff (hlength a b) ?_
        rw [← Bool.not_eq_false]
        exact fun hnot => h ⟨a, List.mem_dedup.mp ha, b, List.mem_dedup.mp hb, hnot⟩
      exact Infra.insertionSort_eq_of_perm hrank (fun a _ b _ heq => hinj (rankOf_inj heq)) hperm.dedup
    rw [resolved_of_not_mixed h, resolved_of_not_mixed (hmixed.not.mp h), hsort]
    simp only [hdiffer]

end Declared

/-! ## One stage of the aggregation -/

/-- `QueryContextBuildError` -/
def ContextError.isBuildError : ContextError → Bool
  | .invalid _ | .typeError => false
  | _ => true

section Stage

variable {K α β κ : Type} [DecidableEq α] [LinearOrder κ] {rank : K → κ} {keys keys' : List K}
  {parts : α → List (Option String)} {refuse : K → List α → ContextError} {make : K → List α → β}
  {declared declared' : K → List α}

/-- What is made of the declarations of each asset. -/
def stage (keys : List K) (parts : α → List (Option String)) (refuse : K → List α → ContextError)
    (make : K → List α → β) (declared : K → List α) : Except ContextError (List β) :=
  keys.mapM fun key => resolved parts (refuse key) (make key) (declared key)

theorem stage_fails_iff (hmem : ∀ key, Differ (declared key) → key ∈ keys) :
    (∃ e, stage keys parts refuse make declared = .error e) ↔ ∃ key, Differ (declared key) := by
  constructor
  · rintro ⟨e, h⟩
    obtain ⟨key, -, hkey⟩ := Infra.exists_of_mapM_error h
    exact ⟨key, resolved_error_iff.mp ⟨e, hkey⟩⟩
  · rintro ⟨key, hdiffer⟩
    cases h : stage keys parts refuse make declared with
    | error e => exact ⟨e, rfl⟩
    | ok bs =>
      obtain ⟨b, -, hb⟩ := Infra.exists_of_forall₂ (Infra.forall₂_of_mapM h) (hmem key hdiffer)
      obtain ⟨e, he⟩ := resolved_error_iff.mpr hdiffer
      rw [hb] at he
      cases he

theorem stage_error {e : ContextError} (hrefuse : ∀ key options, (refuse key options).isBuildError)
    (h : stage keys parts refuse make declared = .error e) : e = .typeError ∨ e.isBuildError := by
  obtain ⟨key, -, hkey⟩ := Infra.exists_of_mapM_error h
  by_cases hmixed : Mixed parts (declared key)
  · rw [resolved_of_mixed hmixed] at hkey
    exact Or.inl (Except.error.inj hkey).symm
  · rw [resolved_of_not_mixed hmixed] at hkey
    split_ifs at hkey
    rw [← Except.error.inj hkey]
    exact Or.inr (hrefuse _ _)

/-- The declarations of the first asset that has different ones are the ones that are not sorted. -/
theorem stage_typeError_iff (hinj : ∀ a b, rank a = rank b → a = b)
    (hkeys : keys.Pairwise fun a b => rank a ≤ rank b) (hmem : ∀ key, Differ (declared key) → key ∈ keys)
    (hrefuse : ∀ key options, (refuse key options).isBuildError) :
    stage keys parts refuse make declared = .error .typeError ↔
      ∃ key, Mixed parts (declared key) ∧ ∀ other, Differ (declared other) → rank key ≤ rank other := by
  have hno : ∀ key options, refuse key options ≠ .typeError := by
    intro key options heq
    have hbuild := hrefuse key options
    rw [heq] at hbuild
    cases hbuild
  rw [stage, Infra.mapM_error_of_pairwise hinj hkeys]
  simp only [resolved_typeError_iff (hno _), resolved_error_iff]
  constructor
  · rintro ⟨key, -, hmixed, hleast⟩
    exact ⟨key, hmixed, fun other hother => hleast other (hmem other hother) hother⟩
  · rintro ⟨key, hmixed, hleast⟩
    exact ⟨key, hmem key hmixed.differ, hmixed, fun other _ hother => hleast other hother⟩

theorem stage_perm (hinj : Function.Injective parts) (hlength : ∀ a b, (parts a).length = (parts b).length)
    (hkeys : keys = keys') (hperm : ∀ key, (declared key).Perm (declared' key)) :
    stage keys parts refuse make declared = stage keys' parts refuse make declared' := by
  rw [stage, stage, hkeys]
  exact congrArg (keys'.mapM ·) (funext fun key => resolved_perm hinj hlength (hperm key))

end Stage

/-! ## The assets -/

section Assets

variable (candidates : List SemanticCandidate)

/-- The identifiers that candidates give a field. -/
def idsOf (key : FieldKey) : List (Option String) :=
  (candidates.filter fun c => fieldKey c = some key).map (·.fieldId)

/-- The types that candidates declare of a field. -/
def typesOf (key : FieldKey) : List FieldType :=
  (candidates.filter fun c => fieldKey c = some key).map fun c => (c.dataType, c.nativeType)

/-- The locators that candidates give a data object, if they give any. -/
def locatorsOf (key : String × String) : List ObjectLocator :=
  ((candidates.filter fun c => objectKey c = some key).map locatorOf).filter
    (· ≠ (none, none, none, none))

def typeParts (declared : FieldType) : List (Option String) := [declared.1, declared.2]

def locatorParts (locator : ObjectLocator) : List (Option String) :=
  [locator.1, locator.2.1, locator.2.2.1, locator.2.2.2]

/-- The field has two identifiers. -/
def TwoIds (key : FieldKey) : Prop :=
  ∃ a ∈ idsOf candidates key, ∃ b ∈ idsOf candidates key, truthy a ∧ truthy b ∧ a ≠ b

/-- What candidates say of one asset is contradictory. -/
def Contradictory : Prop :=
  (∃ key, TwoIds candidates key) ∨ (∃ key, Differ (typesOf candidates key)) ∨
    ∃ key, Differ (locatorsOf candidates key)

/-- The first contradiction that is met is one between declarations of which one lacks the part in which
they differ. -/
def Unsortable : Prop :=
  (∀ key, ¬TwoIds candidates key) ∧
    ((∃ key, Mixed typeParts (typesOf candidates key) ∧
        ∀ other, Differ (typesOf candidates other) → fieldKeyLe key other) ∨
      ((∀ key, ¬Differ (typesOf candidates key)) ∧
        ∃ key, Mixed locatorParts (locatorsOf candidates key) ∧
          ∀ other, Differ (locatorsOf candidates other) → objectKeyLe key other))

/-- What the three aggregations find, one after the other. -/
def aggregation : Except ContextError (List (FieldKey × Option String) × List (FieldKey × FieldType) ×
    List ((String × String) × ObjectLocator)) := do
  let fieldIds ← candidateFieldIds candidates
  let fieldTypes ← candidateFieldType candidates
  let locators ← candidateObjectLocator candidates
  return (fieldIds, fieldTypes, locators)

variable {candidates}

theorem contextBindings_eq (bindings : List GroundingBinding) :
    contextBindings candidates bindings = aggregation candidates >>= fun found =>
      bindings.mapM (contextBinding found.1 found.2.1 found.2.2) := by
  unfold contextBindings aggregation
  cases candidateFieldIds candidates with
  | error e => rfl
  | ok fieldIds =>
    cases candidateFieldType candidates with
    | error e => rfl
    | ok fieldTypes => cases candidateObjectLocator candidates <;> rfl

theorem mem_fieldKeys {key : FieldKey} :
    key ∈ fieldKeys candidates ↔ ∃ c ∈ candidates, fieldKey c = some key := by
  rw [fieldKeys, List.mem_insertionSort, List.mem_dedup, List.mem_filterMap]

theorem mem_objectKeys {key : String × String} :
    key ∈ objectKeys candidates ↔ ∃ c ∈ candidates, objectKey c = some key := by
  rw [objectKeys, List.mem_insertionSort, List.mem_dedup, List.mem_filterMap]

theorem fieldKeys_pairwise :
    (fieldKeys candidates).Pairwise fun a b => fieldRank a ≤ fieldRank b :=
  Infra.pairwise_of_byKey fun a _ b _ => fieldKeyLe_iff a b

theorem objectKeys_pairwise :
    (objectKeys candidates).Pairwise fun a b => objectRank a ≤ objectRank b :=
  Infra.pairwise_of_byKey fun a _ b _ => objectKeyLe_iff a b

theorem mem_fieldKeys_of_ids {key : FieldKey} {id : Option String} (h : id ∈ idsOf candidates key) :
    key ∈ fieldKeys candidates := by
  obtain ⟨c, hc, -⟩ := List.mem_map.mp h
  obtain ⟨hmem, hkey⟩ := List.mem_filter.mp hc
  exact mem_fieldKeys.mpr ⟨c, hmem, of_decide_eq_true hkey⟩

theorem mem_fieldKeys_of_types {key : FieldKey} {declared : FieldType}
    (h : declared ∈ typesOf candidates key) : key ∈ fieldKeys candidates := by
  obtain ⟨c, hc, -⟩ := List.mem_map.mp h
  obtain ⟨hmem, hkey⟩ := List.mem_filter.mp hc
  exact mem_fieldKeys.mpr ⟨c, hmem, of_decide_eq_true hkey⟩

theorem mem_objectKeys_of_locators {key : String × String} {locator : ObjectLocator}
    (h : locator ∈ locatorsOf candidates key) : key ∈ objectKeys candidates := by
  obtain ⟨c, hc, -⟩ := List.mem_map.mp (List.mem_filter.mp h).1
  obtain ⟨hmem, hkey⟩ := List.mem_filter.mp hc
  exact mem_objectKeys.mpr ⟨c, hmem, of_decide_eq_true hkey⟩

/-! ### Identifiers -/

/-- What is made of the identifiers of one field. -/
def resolveIds (key : FieldKey) (ids : List (Option String)) :
    Except ContextError (FieldKey × Option String) :=
  if 1 < (distinct ids).length then .error (.fieldIds key (distinct ids)) else .ok (key, (distinct ids).head?)

theorem candidateFieldIds_eq : candidateFieldIds candidates =
    (fieldKeys candidates).mapM fun key => resolveIds key (idsOf candidates key) := rfl

theorem candidateFieldType_eq : candidateFieldType candidates =
    stage (fieldKeys candidates) typeParts .fieldTypes
      (fun key options => (key, options.headD (none, none))) (typesOf candidates) := rfl

theorem candidateObjectLocator_eq : candidateObjectLocator candidates =
    stage (objectKeys candidates) locatorParts .objectLocators
      (fun key options => (key, options.headD (none, none, none, none))) (locatorsOf candidates) := rfl

theorem resolveIds_error_iff {key : FieldKey} :
    (∃ e, resolveIds key (idsOf candidates key) = .error e) ↔ TwoIds candidates key := by
  have hmem : ∀ x, x ∈ distinct (idsOf candidates key) ↔ x ≠ "" ∧ some x ∈ idsOf candidates key :=
    fun x => Semantic.mem_distinct
  have hlength : 1 < (distinct (idsOf candidates key)).length ↔ TwoIds candidates key := by
    have hdedup : (distinct (idsOf candidates key)).dedup = distinct (idsOf candidates key) :=
      List.Nodup.dedup (Semantic.nodup_distinct _)
    rw [← hdedup, one_lt_length_dedup]
    constructor
    · rintro ⟨a, ha, b, hb, hne⟩
      obtain ⟨ha, hida⟩ := (hmem a).mp ha
      obtain ⟨hb, hidb⟩ := (hmem b).mp hb
      exact ⟨some a, hida, some b, hidb, by simpa [truthy] using ha, by simpa [truthy] using hb, by simpa using hne⟩
    · rintro ⟨a, ha, b, hb, htruthya, htruthyb, hne⟩
      obtain ⟨x, rfl, hx⟩ := Semantic.exists_of_truthy htruthya
      obtain ⟨y, rfl, hy⟩ := Semantic.exists_of_truthy htruthyb
      exact ⟨x, (hmem x).mpr ⟨hx, ha⟩, y, (hmem y).mpr ⟨hy, hb⟩, by simpa using hne⟩
  rw [← hlength, resolveIds]
  by_cases h : 1 < (distinct (idsOf candidates key)).length
  · rw [if_pos h]
    exact iff_of_true ⟨_, rfl⟩ h
  · rw [if_neg h]
    exact iff_of_false (by rintro ⟨_, he⟩; cases he) h

theorem candidateFieldIds_fails_iff :
    (∃ e, candidateFieldIds candidates = .error e) ↔ ∃ key, TwoIds candidates key := by
  rw [candidateFieldIds_eq]
  constructor
  · rintro ⟨e, h⟩
    obtain ⟨key, -, hkey⟩ := Infra.exists_of_mapM_error h
    exact ⟨key, resolveIds_error_iff.mp ⟨e, hkey⟩⟩
  · rintro ⟨key, htwo⟩
    obtain ⟨a, ha, -⟩ := id htwo
    cases h : (fieldKeys candidates).mapM fun key => resolveIds key (idsOf candidates key) with
    | error e => exact ⟨e, rfl⟩
    | ok found =>
      obtain ⟨b, -, hb⟩ := Infra.exists_of_forall₂ (Infra.forall₂_of_mapM h) (mem_fieldKeys_of_ids ha)
      obtain ⟨e, he⟩ := resolveIds_error_iff.mpr htwo
      rw [hb] at he
      cases he

theorem candidateFieldIds_error {e : ContextError} (h : candidateFieldIds candidates = .error e) :
    e.isBuildError := by
  rw [candidateFieldIds_eq] at h
  obtain ⟨key, -, hkey⟩ := Infra.exists_of_mapM_error h
  unfold resolveIds at hkey
  split_ifs at hkey
  rw [← Except.error.inj hkey]
  rfl

/-! ### All of them -/

theorem typeParts_injective : Function.Injective typeParts := by
  rintro ⟨_, _⟩ ⟨_, _⟩ h
  simpa [typeParts] using h

theorem locatorParts_injective : Function.Injective locatorParts := by
  rintro ⟨_, _, _, _⟩ ⟨_, _, _, _⟩ h
  simpa [locatorParts] using h

theorem mem_fieldKeys_of_differ (key : FieldKey) (h : Differ (typesOf candidates key)) :
    key ∈ fieldKeys candidates := by
  obtain ⟨a, ha, -⟩ := h
  exact mem_fieldKeys_of_types ha

theorem mem_objectKeys_of_differ (key : String × String) (h : Differ (locatorsOf candidates key)) :
    key ∈ objectKeys candidates := by
  obtain ⟨a, ha, -⟩ := h
  exact mem_objectKeys_of_locators ha

theorem candidateFieldType_fails_iff :
    (∃ e, candidateFieldType candidates = .error e) ↔ ∃ key, Differ (typesOf candidates key) := by
  rw [candidateFieldType_eq]
  exact stage_fails_iff mem_fieldKeys_of_differ

theorem candidateObjectLocator_fails_iff :
    (∃ e, candidateObjectLocator candidates = .error e) ↔ ∃ key, Differ (locatorsOf candidates key) := by
  rw [candidateObjectLocator_eq]
  exact stage_fails_iff mem_objectKeys_of_differ

theorem candidateFieldType_typeError_iff : candidateFieldType candidates = .error .typeError ↔
    ∃ key, Mixed typeParts (typesOf candidates key) ∧
      ∀ other, Differ (typesOf candidates other) → fieldKeyLe key other := by
  simp only [fieldKeyLe_iff]
  rw [candidateFieldType_eq]
  exact stage_typeError_iff fieldRank_inj fieldKeys_pairwise mem_fieldKeys_of_differ fun _ _ => rfl

theorem candidateObjectLocator_typeError_iff : candidateObjectLocator candidates = .error .typeError ↔
    ∃ key, Mixed locatorParts (locatorsOf candidates key) ∧
      ∀ other, Differ (locatorsOf candidates other) → objectKeyLe key other := by
  simp only [objectKeyLe_iff]
  rw [candidateObjectLocator_eq]
  exact stage_typeError_iff objectRank_inj objectKeys_pairwise mem_objectKeys_of_differ fun _ _ => rfl

theorem aggregation_fails_iff : (∃ e, aggregation candidates = .error e) ↔ Contradictory candidates := by
  unfold Contradictory aggregation
  rw [← candidateFieldIds_fails_iff, ← candidateFieldType_fails_iff, ← candidateObjectLocator_fails_iff]
  cases candidateFieldIds candidates with
  | error e => exact iff_of_true ⟨e, rfl⟩ (Or.inl ⟨e, rfl⟩)
  | ok fieldIds =>
    cases candidateFieldType candidates with
    | error e => exact iff_of_true ⟨e, rfl⟩ (Or.inr (Or.inl ⟨e, rfl⟩))
    | ok fieldTypes =>
      cases candidateObjectLocator candidates with
      | error e => exact iff_of_true ⟨e, rfl⟩ (Or.inr (Or.inr ⟨e, rfl⟩))
      | ok locators =>
        refine iff_of_false (fun ⟨_, h⟩ => nomatch h) ?_
        rintro (⟨_, h⟩ | ⟨_, h⟩ | ⟨_, h⟩) <;> cases h

theorem aggregation_error {e : ContextError} (h : aggregation candidates = .error e) :
    e = .typeError ∨ e.isBuildError := by
  unfold aggregation at h
  rcases bind_error h with h | ⟨fieldIds, -, h⟩
  · exact Or.inr (candidateFieldIds_error h)
  rcases bind_error h with h | ⟨fieldTypes, -, h⟩
  · exact stage_error (fun _ _ => rfl) (candidateFieldType_eq ▸ h)
  rcases bind_error h with h | ⟨locators, -, h⟩
  · exact stage_error (fun _ _ => rfl) (candidateObjectLocator_eq ▸ h)
  cases h

theorem aggregation_typeError_iff : aggregation candidates = .error .typeError ↔ Unsortable candidates := by
  have hids : (∀ key, ¬TwoIds candidates key) ↔ ¬∃ e, candidateFieldIds candidates = .error e := by
    rw [candidateFieldIds_fails_iff, not_exists]
  have htypes : (∀ key, ¬Differ (typesOf candidates key)) ↔
      ¬∃ e, candidateFieldType candidates = .error e := by
    rw [candidateFieldType_fails_iff, not_exists]
  unfold Unsortable
  rw [hids, htypes, ← candidateFieldType_typeError_iff, ← candidateObjectLocator_typeError_iff]
  unfold aggregation
  have hok : ∀ {α : Type} (a : α), ¬∃ e : ContextError, Except.ok a = Except.error e := by
    rintro α a ⟨e, h⟩
    cases h
  cases h : candidateFieldIds candidates with
  | error e =>
    refine iff_of_false (fun heq => ?_) fun hand => hand.1 ⟨e, rfl⟩
    have hbuild := candidateFieldIds_error h
    rw [show e = .typeError from Except.error.inj heq] at hbuild
    cases hbuild
  | ok fieldIds =>
    cases candidateFieldType candidates with
    | error e =>
      constructor
      · exact fun heq => ⟨hok fieldIds, Or.inl (congrArg Except.error (Except.error.inj heq))⟩
      · rintro ⟨-, heq | ⟨hno, -⟩⟩
        · exact congrArg Except.error (Except.error.inj heq)
        · exact absurd ⟨e, rfl⟩ hno
    | ok fieldTypes =>
      cases candidateObjectLocator candidates with
      | error e =>
        constructor
        · intro heq
          exact ⟨hok fieldIds, Or.inr ⟨hok fieldTypes, congrArg Except.error (Except.error.inj heq)⟩⟩
        · rintro ⟨-, heq | ⟨-, heq⟩⟩
          · cases heq
          · exact congrArg Except.error (Except.error.inj heq)
      | ok locators =>
        refine iff_of_false (fun heq => nomatch heq) ?_
        rintro ⟨-, heq | ⟨-, heq⟩⟩ <;> cases heq

variable {candidates' : List SemanticCandidate}

theorem fieldKeys_perm (hperm : candidates.Perm candidates') : fieldKeys candidates = fieldKeys candidates' :=
  Infra.insertionSort_eq_of_perm (fun a _ b _ => fieldKeyLe_iff a b) (fun a _ b _ => fieldRank_inj a b)
    (hperm.filterMap fieldKey).dedup

theorem objectKeys_perm (hperm : candidates.Perm candidates') :
    objectKeys candidates = objectKeys candidates' :=
  Infra.insertionSort_eq_of_perm (fun a _ b _ => objectKeyLe_iff a b) (fun a _ b _ => objectRank_inj a b)
    (hperm.filterMap objectKey).dedup

theorem candidateFieldIds_perm (hperm : candidates.Perm candidates') :
    candidateFieldIds candidates = candidateFieldIds candidates' := by
  have hids : ∀ key, distinct (idsOf candidates key) = distinct (idsOf candidates' key) := by
    refine fun key => Semantic.distinct_congr fun x _ => ?_
    exact ((hperm.filter fun c => fieldKey c = some key).map (·.fieldId)).mem_iff
  rw [candidateFieldIds_eq, candidateFieldIds_eq, fieldKeys_perm hperm]
  simp only [resolveIds, hids]

/-- The order of the candidates makes no difference. -/
theorem aggregation_perm (hperm : candidates.Perm candidates') :
    aggregation candidates = aggregation candidates' := by
  have htypes : candidateFieldType candidates = candidateFieldType candidates' := by
    rw [candidateFieldType_eq, candidateFieldType_eq]
    refine stage_perm typeParts_injective (fun _ _ => rfl) (fieldKeys_perm hperm) fun key => ?_
    exact (hperm.filter _).map _
  have hlocators : candidateObjectLocator candidates = candidateObjectLocator candidates' := by
    rw [candidateObjectLocator_eq, candidateObjectLocator_eq]
    refine stage_perm locatorParts_injective (fun _ _ => rfl) (objectKeys_perm hperm) fun key => ?_
    exact ((hperm.filter _).map locatorOf).filter _
  rw [aggregation, aggregation, candidateFieldIds_perm hperm, htypes, hlocators]

/-- The aggregation fails with a `QueryContextBuildError`, if it fails, and for what is contradictory. -/
structure Sound (candidates : List SemanticCandidate) : Prop where
  total : ∀ e, aggregation candidates = .error e → e.isBuildError
  refuses_iff : (∃ e, aggregation candidates = .error e ∧ e.isBuildError) ↔ Contradictory candidates
  perm : ∀ candidates', candidates.Perm candidates' → aggregation candidates' = aggregation candidates

/-- Only contradictory declarations that cannot be sorted are refused with another error. -/
theorem aggregation_sound_iff (candidates : List SemanticCandidate) :
    Sound candidates ↔ ¬Unsortable candidates := by
  rw [← aggregation_typeError_iff]
  constructor
  · intro h herror
    cases h.total _ herror
  · intro hno
    have htotal : ∀ e, aggregation candidates = .error e → e.isBuildError = true := by
      intro e he
      rcases aggregation_error he with rfl | hbuild
      · exact absurd he hno
      · exact hbuild
    refine ⟨htotal, ?_, fun _ hperm => (aggregation_perm hperm).symm⟩
    rw [← aggregation_fails_iff]
    exact exists_congr fun e => and_iff_left_of_imp (htotal e)

/-- A candidate for the day of an order. -/
def dayCandidate (nativeType : Option String) : SemanticCandidate where
  assetType := .field
  assetId := "orders.day"
  name := "day"
  score := 1
  datasourceId := some "sales"
  dataObjectId := some "orders"
  fieldPath := some "day"
  dataType := some "date"
  nativeType := nativeType
  assetId_length := by decide
  name_length := by decide
  score_range := Contracts.fullScore_range

/-- A type that is declared with and without what it is natively is refused by Python itself. -/
theorem missing_native_type_raises : ¬∀ candidates, Sound candidates := by
  intro h
  have hraises : aggregation [dayCandidate none, dayCandidate (some "DATE")] = .error .typeError := rfl
  cases (h [dayCandidate none, dayCandidate (some "DATE")]).total _ hraises

end Assets

end Querying.QueryContextBuilder
