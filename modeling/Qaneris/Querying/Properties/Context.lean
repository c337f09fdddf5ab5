import Qaneris.Querying.Context
import Qaneris.Semantic.Properties.Plannable

/-!
# What the query context finds

* `found_iff` — every expression is found if and only if it is bound at its first slot, or names the axis
-/

namespace Querying.QueryContextBuilder

open Contracts Semantic
open Infra (bind_ok map_ok bind_error map_error exists_of_mapM_error forall₂_of_mapM exists_of_forall₂)

/-! ## Errors -/

section Errors

variable {α β : Type}

/-- No binding is missing. -/
def Silent (x : Except ContextError α) : Prop := ∀ label term, x ≠ .error (.missing label term)

def ContextError.isMissing : ContextError → Bool
  | .missing _ _ => true
  | _ => false

theorem silent_ok (a : α) : Silent (.ok a : Except ContextError α) := fun _ _ h => by cases h

theorem silent_error {e : ContextError} (h : e.isMissing = false) :
    Silent (.error e : Except ContextError α) := by
  intro label term herror
  rw [Except.error.inj herror] at h
  cases h

theorem Silent.ite {c : Prop} [Decidable c] {x y : Except ContextError α} (hx : Silent x)
    (hy : Silent y) : Silent (if c then x else y) := by
  split
  · exact hx
  · exact hy

theorem Silent.bind {x : Except ContextError α} {f : α → Except ContextError β} (hx : Silent x)
    (hf : ∀ a, x = .ok a → Silent (f a)) : Silent (x >>= f) := by
  intro label term h
  rcases bind_error h with h | ⟨a, ha, h⟩
  · exact hx label term h
  · exact hf a ha label term h

theorem Silent.map {x : Except ContextError α} (hx : Silent x) (f : α → β) : Silent (x.map f) :=
  fun label term h => hx label term (map_error h)

theorem Silent.mapM {f : α → Except ContextError β} {as : List α} (hf : ∀ a ∈ as, Silent (f a)) :
    Silent (as.mapM f) := by
  intro label term h
  obtain ⟨a, ha, h⟩ := exists_of_mapM_error h
  exact hf a ha label term h

theorem Silent.forM {f : α → Except ContextError Unit} {as : List α} (hf : ∀ a ∈ as, Silent (f a)) :
    Silent (as.forM f) := by
  induction as with
  | nil => exact silent_ok _
  | cons a as ih =>
    show Silent (f a >>= fun _ => as.forM f)
    exact (hf a List.mem_cons_self).bind fun _ _ => ih fun a' ha' => hf a' (List.mem_cons_of_mem _ ha')

theorem Silent.foldlM {f : β → α → Except ContextError β} {as : List α}
    (hf : ∀ b, ∀ a ∈ as, Silent (f b a)) (b : β) : Silent (as.foldlM f b) := by
  induction as generalizing b with
  | nil => exact silent_ok _
  | cons a as ih =>
    rw [List.foldlM_cons]
    exact (hf b a List.mem_cons_self).bind fun b' _ =>
      ih (fun b a' ha' => hf b a' (List.mem_cons_of_mem _ ha')) b'

theorem silent_checked (x : Except String α) : Silent (checked x) := by
  cases x with
  | error message => exact silent_error rfl
  | ok a => exact silent_ok a

end Errors

/-! ## The steps that look up no expression -/

section Steps

theorem silent_sortedOptions {α : Type} (parts : α → List (Option String)) (options : List α) :
    Silent (sortedOptions parts options) :=
  (silent_ok _).ite (silent_error rfl)

theorem silent_contextBindings (candidates : List SemanticCandidate)
    (bindings : List GroundingBinding) : Silent (contextBindings candidates bindings) := by
  have hids : Silent (candidateFieldIds candidates) :=
    Silent.mapM fun key _ => (silent_error rfl).ite (silent_ok _)
  have htypes : Silent (candidateFieldType candidates) :=
    Silent.mapM fun key _ => (silent_sortedOptions _ _).bind fun options _ =>
      (silent_error rfl).ite (silent_ok _)
  have hlocators : Silent (candidateObjectLocator candidates) :=
    Silent.mapM fun key _ => (silent_sortedOptions _ _).bind fun options _ =>
      (silent_error rfl).ite (silent_ok _)
  refine hids.bind fun _ _ => htypes.bind fun _ _ => hlocators.bind fun _ _ =>
    Silent.mapM fun binding _ => ?_
  exact (silent_error rfl).ite ((silent_error rfl).ite ((silent_checked _).map _))

theorem silent_requireExecutable (grounding : GroundingResult) : Silent (requireExecutable grounding) :=
  (silent_error rfl).ite ((silent_error rfl).ite ((silent_error rfl).ite (silent_ok _)))

theorem silent_resolveWorkspace (requested : Option String) (grounded : String) :
    Silent (resolveWorkspace requested grounded) := by
  cases requested with
  | none => exact silent_ok _
  | some requested => exact (silent_error rfl).ite (silent_ok _)

theorem silent_resolveRequestedDatasource (requested grounded : Option String) :
    Silent (resolveRequestedDatasource requested grounded) := by
  cases requested with
  | none => exact silent_ok _
  | some requested =>
    cases grounded with
    | none => exact silent_ok _
    | some grounded => exact (silent_error rfl).ite (silent_ok _)

theorem silent_checkComparison (query : BusinessQuery) : Silent (checkComparison query) :=
  (silent_error rfl).ite (silent_ok _)

theorem silent_relationshipsOf (bindings : List QueryContextBinding)
    (candidates : List SemanticCandidate) : Silent (relationshipsOf bindings candidates) := by
  refine Silent.mapM fun binding _ => ?_
  simp only [relationshipOf]
  split
  · exact silent_error rfl
  · exact (silent_ok _).ite (silent_error rfl)

theorem silent_timeFieldOf (bindings : List QueryContextBinding) (spec : Option TimeSpec)
    (timeRange : Option TimeRange) : Silent (timeFieldOf bindings spec timeRange) := by
  cases spec with
  | none => exact (silent_error rfl).ite (silent_ok _)
  | some spec =>
    simp only [timeFieldOf]
    split
    · exact silent_error rfl
    refine (silent_checked _).bind fun field _ => ?_
    cases field with
    | none => exact silent_error rfl
    | some ref => exact (silent_error rfl).ite ((silent_error rfl).ite (silent_ok _))

theorem silent_dataObjectsOf (bindings : List QueryContextBinding) :
    Silent (dataObjectsOf bindings) := by
  refine Silent.foldlM (fun locators binding _ => (silent_ok _).ite ?_) _
  refine Silent.map ?_ _
  rw [objectLocator]
  split
  · exact silent_ok _
  · exact silent_error rfl

theorem silent_checkSources (requested : Option String) (allowed : List String) :
    Silent (checkSources requested allowed) :=
  (silent_error rfl).ite ((silent_error rfl).ite (silent_ok _))

theorem silent_checkAggregation (bindings : List QueryContextBinding)
    (derivations : List DerivationSpec) : Silent (checkAggregation bindings derivations) := by
  rw [checkAggregation]
  split
  · exact silent_error rfl
  · exact silent_ok _

end Steps

/-! ## The steps that look up the expressions -/

section Lookups

/-- The expressions that are looked up, with their slots. -/
def expressions (query : BusinessQuery) : List (GroundingSlot × String) :=
  termsOf .metric query.metrics ++ termsOf .dimension query.dimensions
    ++ termsOf .entity query.entities ++ termsOf .filter (query.filters.map (·.subject))
    ++ termsOf .rankingMetric ((query.ranking.bind (·.metric)).toList.filter (· ≠ ""))
    ++ termsOf .derivationMetric ((query.derivations.filterMap (·.metric)).filter (· ≠ ""))

/-- Every expression of the query has a binding that its slot accepts. -/
def Finds (query : BusinessQuery) (bindings : List QueryContextBinding) : Prop :=
  ∀ p ∈ expressions query, matching bindings p.1.assetTypes p.2 ≠ []

variable {query : BusinessQuery} {bindings : List QueryContextBinding}

theorem mem_termsOf {slot : GroundingSlot} {terms : List String} {p : GroundingSlot × String} :
    p ∈ termsOf slot terms ↔ p.1 = slot ∧ p.2 ∈ terms := by
  rw [termsOf, List.mem_map]
  constructor
  · rintro ⟨term, hterm, rfl⟩
    exact ⟨rfl, hterm⟩
  · rintro ⟨hslot, hterm⟩
    exact ⟨p.2, hterm, Prod.ext hslot.symm rfl⟩

theorem mem_expressions {p : GroundingSlot × String} :
    p ∈ expressions query ↔
      p.1 = .metric ∧ p.2 ∈ query.metrics ∨ p.1 = .dimension ∧ p.2 ∈ query.dimensions ∨
      p.1 = .entity ∧ p.2 ∈ query.entities ∨
      p.1 = .filter ∧ (∃ item ∈ query.filters, item.subject = p.2) ∨
      p.1 = .rankingMetric ∧ p.2 ≠ "" ∧ (∃ ranking ∈ query.ranking, ranking.metric = some p.2) ∨
      p.1 = .derivationMetric ∧ p.2 ≠ "" ∧ ∃ item ∈ query.derivations, item.metric = some p.2 := by
  simp only [expressions, List.mem_append, mem_termsOf, List.mem_map, List.mem_filter, Option.mem_toList,
    Option.mem_def, Option.bind_eq_some_iff, List.mem_filterMap, decide_eq_true_eq, or_assoc]
  constructor
  · rintro (h | h | h | h | ⟨h, h', h''⟩ | ⟨h, h', h''⟩)
    · exact .inl h
    · exact .inr (.inl h)
    · exact .inr (.inr (.inl h))
    · exact .inr (.inr (.inr (.inl h)))
    · exact .inr (.inr (.inr (.inr (.inl ⟨h, h'', h'⟩))))
    · exact .inr (.inr (.inr (.inr (.inr ⟨h, h'', h'⟩))))
  · rintro (h | h | h | h | ⟨h, h', h''⟩ | ⟨h, h', h''⟩)
    · exact .inl h
    · exact .inr (.inl h)
    · exact .inr (.inr (.inl h))
    · exact .inr (.inr (.inr (.inl h)))
    · exact .inr (.inr (.inr (.inr (.inl ⟨h, h'', h'⟩))))
    · exact .inr (.inr (.inr (.inr (.inr ⟨h, h'', h'⟩))))

theorem silent_boundTerms {accepted : List SemanticAssetType} {label : String} {terms : List String}
    (h : ∀ term ∈ terms, matching bindings accepted term ≠ []) :
    Silent (boundTerms bindings accepted label terms) := by
  refine (Silent.mapM fun term hterm => ?_).map _
  rw [boundTerm]
  split
  · next hnone => exact absurd hnone (h term hterm)
  · exact silent_ok _

theorem silent_filterOf {item : BusinessFilter}
    (h : matching bindings [.dimension, .field] item.subject ≠ []) : Silent (filterOf bindings item) := by
  rw [filterOf]
  split
  · next hnone => exact absurd hnone h
  refine (silent_checked _).bind fun field _ => ?_
  cases field with
  | none => exact silent_error rfl
  | some ref =>
    dsimp only
    split
    · exact silent_error rfl
    · refine Silent.bind ?_ fun _ _ => silent_ok _
      rw [validateFilterValue.eq_def]
      split
      · exact silent_ok _
      · exact silent_error rfl
      · exact silent_ok _
      · exact silent_error rfl
      · exact silent_ok _

theorem silent_rankingOf {ranking : Option RankingSpec}
    (h : ∀ r ∈ ranking, ∀ metric, metric ≠ "" → r.metric = some metric →
      matching bindings [.metric] metric ≠ []) : Silent (rankingOf bindings ranking) := by
  cases ranking with
  | none => exact silent_ok _
  | some ranking =>
    rw [rankingOf]
    split
    · exact silent_error rfl
    next htruthy =>
    obtain ⟨metric, hmetric, hne⟩ := exists_of_truthy (by simpa using htruthy)
    rw [hmetric]
    exact (if_neg (h ranking rfl metric hne hmetric)) ▸ silent_ok _

theorem silent_checkDerivations {derivations : List DerivationSpec}
    (h : ∀ d ∈ derivations, ∀ metric, metric ≠ "" → d.metric = some metric →
      matching bindings [.metric] metric ≠ []) : Silent (checkDerivations bindings derivations) := by
  refine Silent.forM fun d hd => ?_
  rw [checkDerivation]
  split
  · exact silent_error rfl
  split
  · exact silent_error rfl
  next htruthy =>
  obtain ⟨metric, hmetric, hne⟩ := exists_of_truthy (by simpa using htruthy)
  rw [hmetric]
  exact (if_neg (h d hd metric hne hmetric)) ▸ silent_ok _

/-- **A build that finds every expression misses no binding.** -/
theorem build_silent {grounding : GroundingResult} {arguments : BuildArguments}
    (h : ∀ bindings, contextBindings grounding.groundedQuery.candidates
      grounding.groundedQuery.bindings = .ok bindings →
      Finds grounding.groundedQuery.businessQuery bindings) : Silent (build grounding arguments) := by
  rw [build]
  refine (silent_requireExecutable _).bind fun _ _ => ?_
  refine (silent_contextBindings _ _).bind fun bindings hbindings => ?_
  have hfinds := h bindings hbindings
  refine (silent_resolveWorkspace _ _).bind fun _ _ => ?_
  refine (silent_resolveRequestedDatasource _ _).bind fun _ _ => ?_
  refine (silent_checkComparison _).bind fun _ _ => ?_
  refine (silent_checkDerivations fun d hd metric hne hmetric => ?_).bind fun _ _ => ?_
  · exact hfinds (.derivationMetric, metric)
      (mem_expressions.mpr (.inr (.inr (.inr (.inr (.inr ⟨rfl, hne, d, hd, hmetric⟩))))))
  refine (silent_rankingOf fun r hr metric hne hmetric => ?_).bind fun _ _ => ?_
  · exact hfinds (.rankingMetric, metric)
      (mem_expressions.mpr (.inr (.inr (.inr (.inr (.inl ⟨rfl, hne, r, hr, hmetric⟩))))))
  refine (silent_boundTerms fun term hterm => ?_).bind fun _ _ => ?_
  · exact hfinds (.metric, term) (mem_expressions.mpr (.inl ⟨rfl, hterm⟩))
  refine (silent_boundTerms fun term hterm => ?_).bind fun _ _ => ?_
  · exact hfinds (.dimension, term) (mem_expressions.mpr (.inr (.inl ⟨rfl, hterm⟩)))
  refine (silent_boundTerms fun term hterm => ?_).bind fun _ _ => ?_
  · exact hfinds (.entity, term) (mem_expressions.mpr (.inr (.inr (.inl ⟨rfl, hterm⟩))))
  refine (Silent.mapM fun item hitem => silent_filterOf ?_).bind fun _ _ => ?_
  · exact hfinds (.filter, item.subject)
      (mem_expressions.mpr (.inr (.inr (.inr (.inl ⟨rfl, item, hitem, rfl⟩)))))
  refine (silent_relationshipsOf _ _).bind fun _ _ => ?_
  refine (silent_timeFieldOf _ _ _).bind fun _ _ => ?_
  refine (silent_dataObjectsOf _).bind fun _ _ => ?_
  refine (silent_checkSources _ _).bind fun _ _ => ?_
  refine (silent_checkAggregation _ _).bind fun _ _ => ?_
  exact silent_checked _

end Lookups

/-! ## What a grounding covers -/

section Covers

variable {enforceTrustedPath : Bool} {retrieval : SemanticRetrievalResult} {query : BusinessQuery}
  {result : GroundingResult} {terms : List GroundingBinding} {relationship axis : Outcome}

/-- The expression is the first one of its spelling, at a slot whose assets the given slot accepts. -/
def BoundFirst (query : BusinessQuery) (p : GroundingSlot × String) : Prop :=
  ∃ slot, (slot, p.2) ∈ firstTerms [] (slotTerms query) ∧ slot.assetTypes ⊆ p.1.assetTypes

/-- The expression is the name of the time axis that comes first of those that may be bound. -/
def NamesAxis (enforceTrustedPath : Bool) (query : BusinessQuery) (retrieval : SemanticRetrievalResult)
    (p : GroundingSlot × String) : Prop :=
  truthy query.timeExpression = true ∧ .dimension ∈ p.1.assetTypes ∧
    ∃ c, (sortCandidates (stableOf enforceTrustedPath retrieval (timeAxes retrieval))).head? = some c ∧
      c.name = p.2

/-- Every expression of the query is bound under its own text. -/
def Covered (enforceTrustedPath : Bool) (query : BusinessQuery)
    (retrieval : SemanticRetrievalResult) : Prop :=
  ∀ p ∈ expressions query, BoundFirst query p ∨ NamesAxis enforceTrustedPath query retrieval p

/-- A binding of the expression that its slot accepts. -/
def Grounds (bindings : List GroundingBinding) (p : GroundingSlot × String) : Prop :=
  ∃ binding ∈ bindings, binding.businessTerm = p.2 ∧ binding.assetType ∈ p.1.assetTypes

/-! ### The order of the slots -/

theorem firstTerms_subset {handled : List (List Char)} {terms : List (GroundingSlot × String)} :
    firstTerms handled terms ⊆ terms := by
  induction terms generalizing handled with
  | nil => exact List.Subset.refl _
  | cons q terms ih =>
    rw [firstTerms]
    split
    · exact List.subset_cons_of_subset _ ih
    · exact List.cons_subset_cons _ ih

/-- An expression that is there already is first there. -/
theorem mem_firstTerms_left {handled : List (List Char)} {xs ys : List (GroundingSlot × String)}
    {p q : GroundingSlot × String} (hq : q ∈ xs) (hsame : normalizeTerm q.2 = normalizeTerm p.2)
    (hp : p ∈ firstTerms handled (xs ++ ys)) : p ∈ firstTerms handled xs := by
  induction xs generalizing handled with
  | nil => cases hq
  | cons x xs ih =>
    rw [List.cons_append, firstTerms] at hp
    rw [firstTerms]
    by_cases hhandled : normalizeTerm x.2 ∈ handled
    · rw [if_pos hhandled] at hp ⊢
      rcases List.mem_cons.mp hq with rfl | hq
      · rw [hsame] at hhandled
        exact absurd hhandled (not_handled_of_mem hp)
      · exact ih hq hp
    · rw [if_neg hhandled] at hp ⊢
      rcases List.mem_cons.mp hp with rfl | hp
      · exact List.mem_cons_self
      rcases List.mem_cons.mp hq with rfl | hq
      · have hmem : normalizeTerm p.2 ∈ normalizeTerm q.2 :: handled := by
          rw [hsame]
          exact List.mem_cons_self
        exact absurd hmem (not_handled_of_mem hp)
      · exact List.mem_cons_of_mem _ (ih hq hp)

/-- The subject of a filter is not first as one when it is a dimension. -/
theorem dimension_before_filter {term : String} (hdimension : term ∈ query.dimensions) :
    (.filter, term) ∉ firstTerms [] (slotTerms query) := by
  intro hfilter
  have hblank : !Infra.isBlank term := (List.mem_filter.mp (firstTerms_subset hfilter)).2
  have hsplit : slotTerms query =
      (termsOf .metric query.metrics ++ termsOf .dimension query.dimensions).filter
        (fun p => !Infra.isBlank p.2) ++
      (termsOf .entity query.entities ++ termsOf .filter (query.filters.map (·.subject))
        ++ termsOf .rankingMetric (query.ranking.bind (·.metric)).toList
        ++ termsOf .derivationMetric (query.derivations.filterMap (·.metric))).filter
        (fun p => !Infra.isBlank p.2) := by
    simp only [slotTerms, List.filter_append, List.append_assoc]
  rw [hsplit] at hfilter
  have hmem : (GroundingSlot.dimension, term) ∈
      (termsOf .metric query.metrics ++ termsOf .dimension query.dimensions).filter
        (fun p => !Infra.isBlank p.2) :=
    List.mem_filter.mpr ⟨List.mem_append_right _ (mem_termsOf.mpr ⟨rfl, hdimension⟩), hblank⟩
  have hleft := firstTerms_subset
    (@mem_firstTerms_left [] _ _ (.filter, term) (.dimension, term) hmem rfl hfilter)
  rcases List.mem_append.mp (List.mem_filter.mp hleft).1 with h | h
  · cases (mem_termsOf.mp h).1
  · cases (mem_termsOf.mp h).1

/-- Slots that share an asset type are nested, but for a filter's in a dimension's. -/
theorem assetTypes_nested {a b : GroundingSlot} {t : SemanticAssetType} (ha : t ∈ a.assetTypes)
    (hb : t ∈ b.assetTypes) :
    a.assetTypes ⊆ b.assetTypes ∨ a = .filter ∧ (b = .dimension ∨ b = .timeAxis) := by
  revert t
  cases a <;> cases b <;> decide

/-! ### What is found -/

theorem grounds_iff
    (h : Resolved enforceTrustedPath query retrieval result terms relationship axis)
    {p : GroundingSlot × String} (hp : p ∈ expressions query) :
    Grounds result.groundedQuery.bindings p ↔
      BoundFirst query p ∨ NamesAxis enforceTrustedPath query retrieval p := by
  constructor
  · rintro ⟨binding, hbinding, hterm, htype⟩
    rw [h.bindings, List.mem_append, List.mem_append] at hbinding
    rcases hbinding with (hbinding | hbinding) | hbinding
    · obtain ⟨q, hq, hchosen⟩ := exists_of_forall₂ h.chosen.flip hbinding
      obtain ⟨c, hc, -, hname, hctype, -⟩ := Chosen.exists_candidate hchosen
      have hslot : binding.assetType ∈ q.1.assetTypes := by
        rw [hctype]
        exact (eligible_of_mem (fun _ hc => mem_bestAddressed hc) hc).assetType
      have hq' : (q.1, p.2) ∈ firstTerms [] (slotTerms query) := by
        rw [← hterm, hname]
        exact hq
      rcases assetTypes_nested hslot htype with hsub | ⟨hfilter, hother⟩
      · exact .inl ⟨q.1, hq', hsub⟩
      · -- The expression is a dimension, so it is not first a filter's subject.
        rw [hfilter] at hq'
        rcases mem_expressions.mp hp with ⟨hslot', -⟩ | ⟨-, hmem⟩ | ⟨hslot', -⟩ | ⟨hslot', -⟩ |
          ⟨hslot', -⟩ | ⟨hslot', -⟩
        · rw [hslot'] at hother
          exact absurd hother (by decide)
        · exact absurd hq' (dimension_before_filter hmem)
        · rw [hslot'] at hother
          exact absurd hother (by decide)
        · rw [hslot'] at hother
          exact absurd hother (by decide)
        · rw [hslot'] at hother
          exact absurd hother (by decide)
        · rw [hslot'] at hother
          exact absurd hother (by decide)
    · -- No slot accepts a relationship.
      rcases relationshipBinding_joined h.related h.relationship_bound with ⟨-, hnone⟩ | hjoined
      · rw [hnone] at hbinding
        cases hbinding
      · obtain ⟨-, -, b, -, hb, candidate, -, -, -, rfl⟩ := hjoined
        rw [hb] at hbinding
        obtain rfl := List.mem_singleton.mp hbinding
        have hrelationship : SemanticAssetType.relationship ∈ p.1.assetTypes := htype
        exact absurd hrelationship (by cases p.1 <;> decide)
    · obtain ⟨htime, hchosen⟩ := timeAxisBinding_chosen h.dated (Option.mem_toList.mp hbinding)
      obtain ⟨c, hc, hfirst, hname, hctype, -⟩ := hchosen.exists_candidate
      have hdimension : c.assetType = .dimension :=
        List.mem_singleton.mp (eligible_of_mem (fun _ hc => (mem_timeAxes hc).2) hc).assetType
      rw [hctype, hdimension] at htype
      exact .inr ⟨htime, htype, c, hfirst, hname.symm.trans hterm⟩
  · rintro (⟨slot, hmem, hsub⟩ | ⟨htime, hdimension, c, hfirst, hname⟩)
    · obtain ⟨b, hb, hchosen⟩ := exists_of_forall₂ h.chosen hmem
      obtain ⟨c, hc, -, hterm, hctype, -⟩ := Chosen.exists_candidate hchosen
      refine ⟨b, ?_, hterm, hsub ?_⟩
      · rw [h.bindings]
        exact List.mem_append_left _ (List.mem_append_left _ hb)
      · rw [hctype]
        exact (eligible_of_mem (fun _ hc => mem_bestAddressed hc) hc).assetType
    · obtain ⟨b, hb⟩ := h.exists_axis htime
      obtain ⟨-, hchosen⟩ := timeAxisBinding_chosen h.dated hb
      obtain ⟨c', hc', hfirst', hterm, hctype, -⟩ := hchosen.exists_candidate
      obtain rfl : c = c' := Option.some.inj (hfirst.symm.trans hfirst')
      refine ⟨b, ?_, hterm.trans hname, ?_⟩
      · rw [h.bindings]
        exact List.mem_append_right _ (Option.mem_toList.mpr hb)
      · have htype : c.assetType = .dimension :=
          List.mem_singleton.mp (eligible_of_mem (fun _ hc => (mem_timeAxes hc).2) hc').assetType
        rw [hctype, htype]
        exact hdimension

/-- Each binding is carried into the context with its expression and its type. -/
theorem contextBindings_ok {candidates : List SemanticCandidate} {bindings : List GroundingBinding}
    {context : List QueryContextBinding} (h : contextBindings candidates bindings = .ok context) :
    ∀ b ∈ bindings, ∃ c ∈ context, c.businessTerm = b.businessTerm ∧ c.assetType = b.assetType := by
  rw [contextBindings] at h
  obtain ⟨fieldIds, -, h⟩ := bind_ok h
  obtain ⟨fieldTypes, -, h⟩ := bind_ok h
  obtain ⟨locators, -, h⟩ := bind_ok h
  intro b hb
  obtain ⟨c, hc, hbc⟩ := exists_of_forall₂ (forall₂_of_mapM h) hb
  refine ⟨c, hc, ?_⟩
  rw [contextBinding] at hbc
  split at hbc
  · cases hbc
  split at hbc
  · cases hbc
  simp only [checked] at hbc
  obtain ⟨-, -, rfl⟩ := map_ok hbc
  exact ⟨rfl, rfl⟩

variable {reprList : List String → String}

/-- **Every expression is found if and only if each is bound at its first slot, or names the axis.** -/
theorem found_iff (h : ground reprList enforceTrustedPath query retrieval = .ok result)
    (hexecutable : result.isExecutable = true) :
    ((∀ p ∈ expressions query, Grounds result.groundedQuery.bindings p) ∧
        ∀ arguments label term, build result arguments ≠ .error (.missing label term)) ↔
      Covered enforceTrustedPath query retrieval := by
  obtain ⟨terms, relationship, axis, hresolved⟩ := ground_executable h hexecutable
  constructor
  · rintro ⟨hgrounds, -⟩ p hp
    exact (grounds_iff hresolved hp).mp (hgrounds p hp)
  · intro hcovered
    have hgrounds : ∀ p ∈ expressions query, Grounds result.groundedQuery.bindings p := fun p hp =>
      (grounds_iff hresolved hp).mpr (hcovered p hp)
    refine ⟨hgrounds, fun arguments => build_silent fun context hcontext p hp => ?_⟩
    rw [hresolved.businessQuery] at hp
    obtain ⟨b, hb, hterm, htype⟩ := hgrounds p hp
    obtain ⟨c, hc, hcterm, hctype⟩ := contextBindings_ok hcontext b hb
    refine List.ne_nil_of_mem (List.mem_filter.mpr ⟨hc, ?_⟩)
    rw [hcterm, hctype, Bool.and_eq_true]
    exact ⟨decide_eq_true hterm, decide_eq_true htype⟩

theorem sales_found : ∃ result,
    ground (fun _ => "") true salesQuery (salesRetrieval "orders") = .ok result ∧
      result.isExecutable = true ∧
      (((∀ p ∈ expressions salesQuery, Grounds result.groundedQuery.bindings p) ∧
          ∀ arguments label term, build result arguments ≠ .error (.missing label term)) ↔
        Covered true salesQuery (salesRetrieval "orders")) := by
  have hexecutable : (ground (fun _ => "") true salesQuery (salesRetrieval "orders")).toOption.any
      (fun result => result.isExecutable && true) = true := by decide
  obtain ⟨result, hground, hexecutable, -⟩ := exists_executable hexecutable
  exact ⟨result, hground, hexecutable, found_iff hground hexecutable⟩

/-! ### A metric that is filtered on -/

def largeSalesQuery : BusinessQuery where
  question := "销售额大于100的订单"
  objective := .lookup
  metrics := ["销售额"]
  filters := [⟨"销售额", ">", .int 100, Contracts.length_sales, by decide⟩]
  question_length := by decide
  ranking_required := Contracts.lookup_ranking
  comparison_required := Contracts.lookup_comparison

def largeSalesRetrieval : SemanticRetrievalResult where
  businessQuery := largeSalesQuery
  candidates := [salesCandidate]
  workspaceId_length := Contracts.length_default

/-- **A metric that is also the subject of a filter is bound, and the filter does not find it.** -/
theorem filtered_metric_missing : ∃ result,
    ground (fun _ => "") true largeSalesQuery largeSalesRetrieval = .ok result ∧
      result.isExecutable = true ∧ result.clarifications = [] ∧
      (.filter, "销售额") ∈ expressions largeSalesQuery ∧
      ¬Grounds result.groundedQuery.bindings (.filter, "销售额") ∧
      build result {} = .error (.missing "过滤主题" "销售额") := by
  have hrun : (ground (fun _ => "") true largeSalesQuery largeSalesRetrieval).toOption.any
      (fun result => result.isExecutable && decide (result.clarifications = [] ∧
        (result.groundedQuery.bindings.all fun b => b.assetType = .metric) = true ∧
        build result {} = .error (.missing "过滤主题" "销售额"))) = true := by decide
  obtain ⟨result, hground, hexecutable, hrun⟩ := exists_executable hrun
  obtain ⟨hclear, hmetric, hbuild⟩ := of_decide_eq_true hrun
  refine ⟨result, hground, hexecutable, hclear, by decide, ?_, hbuild⟩
  rintro ⟨b, hb, -, htype⟩
  have htype' : b.assetType = .metric := of_decide_eq_true (List.all_eq_true.mp hmetric b hb)
  rw [htype'] at htype
  exact absurd htype (by decide)

end Covers

end Querying.QueryContextBuilder
