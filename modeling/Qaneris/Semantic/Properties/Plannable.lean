import Qaneris.Semantic.Properties.Bound

/-!
# What can be planned

* `plannable_iff` — an executable grounding can be planned when its time axis is of an object of a term
-/

namespace Semantic

open Contracts
open Infra (exists_of_forall₂)

variable {enforceTrustedPath : Bool} {retrieval : SemanticRetrievalResult} {query : BusinessQuery}

/-! ## Data objects -/

section Objects

/-- The data objects that the bindings are of. -/
def touched (bindings : List GroundingBinding) : List String := distinct (bindings.map (·.dataObjectId))

theorem mem_sortedSet {values : List String} {x : String} : x ∈ sortedSet values ↔ x ∈ values := by
  rw [sortedSet, (List.perm_insertionSort _ _).mem_iff, List.mem_dedup]

theorem nodup_sortedSet (values : List String) : (sortedSet values).Nodup :=
  (List.perm_insertionSort _ _).nodup_iff.mpr (List.nodup_dedup values)

/-- A sorted set is determined by its members. -/
theorem sortedSet_congr {a b : List String} (h : ∀ x, x ∈ a ↔ x ∈ b) : sortedSet a = sortedSet b := by
  have hperm : (sortedSet a).Perm (sortedSet b) := by
    refine (List.perm_ext_iff_of_nodup (nodup_sortedSet a) (nodup_sortedSet b)).mpr fun x => ?_
    rw [mem_sortedSet, mem_sortedSet]
    exact h x
  exact hperm.eq_of_sortedLE (List.sortedLE_insertionSort) (List.sortedLE_insertionSort)

theorem distinct_congr {a b : List (Option String)}
    (h : ∀ x, x ≠ "" → (some x ∈ a ↔ some x ∈ b)) : distinct a = distinct b := by
  have hmem : ∀ x, x ∈ distinct a ↔ x ∈ distinct b := by
    intro x
    rw [mem_distinct, mem_distinct]
    exact and_congr_right (h x)
  exact sortedSet_congr fun x => (mem_sortedSet.symm.trans (hmem x)).trans mem_sortedSet

theorem nodup_distinct (values : List (Option String)) : (distinct values).Nodup := nodup_sortedSet _

theorem mem_touched {bindings : List GroundingBinding} {x : String} :
    x ∈ touched bindings ↔ x ≠ "" ∧ ∃ binding ∈ bindings, binding.dataObjectId = some x := by
  rw [touched, mem_distinct, List.mem_map]

end Objects

/-! ## The relationship -/

section Relationship

variable {bindings : List GroundingBinding} {o : Outcome}

theorem refused_of_refuse {problem : String} {clarification : Except String ClarificationRequest}
    (h : refuse problem clarification = .ok o) (hproblem : 1 ≤ problem.length) : o.Refused := by
  cases clarification with
  | error message => cases h
  | ok request =>
    cases h
    exact ⟨rfl, truthy_some hproblem⟩

/-- A candidate that joins the two objects, and its binding. -/
def Joined (retrieval : SemanticRetrievalResult) (a b : String) (binding : GroundingBinding) : Prop :=
  ∃ candidate ∈ retrieval.candidates, candidate.assetType = .relationship ∧
    joins a b candidate = true ∧ binding = relationshipOf candidate

theorem pairBinding_joined {a b : String}
    (h : pairBinding enforceTrustedPath retrieval bindings a b = .ok o) (hbound : ¬o.Refused) :
    ∃ binding, o.binding = some binding ∧ Joined retrieval a b binding := by
  simp only [pairBinding] at h
  split at h
  · exact absurd (refused_of_refuse h (by decide +kernel)) hbound
  · next chosen rest hmatches =>
    split at h
    · exact absurd (refused_of_refuse h (by decide +kernel)) hbound
    · cases h
      have hchosen : chosen ∈ relationshipMatches enforceTrustedPath retrieval
          (distinct (bindings.map (·.datasourceId))) a b := by
        rw [hmatches]
        exact List.mem_cons_self
      rw [relationshipMatches, (List.perm_insertionSort _ _).mem_iff, List.mem_filter] at hchosen
      obtain ⟨hmem, hchosen⟩ := hchosen
      simp only [Bool.and_eq_true, decide_eq_true_eq] at hchosen
      exact ⟨_, rfl, chosen, hmem, hchosen.1.1.1.1, hchosen.1.1.2, rfl⟩

/-- What is bound is of one object, or of two that the relationship joins. -/
theorem relationshipBinding_joined
    (h : relationshipBinding enforceTrustedPath retrieval bindings = .ok o) (hbound : ¬o.Refused) :
    (touched bindings).length ≤ 1 ∧ o.binding = none ∨
      ∃ a b binding, touched bindings = [a, b] ∧ o.binding = some binding ∧
        Joined retrieval a b binding := by
  rw [relationshipBinding] at h
  split at h
  · next hobjects =>
    cases h
    rw [touched, hobjects]
    exact .inl ⟨Nat.zero_le _, rfl⟩
  · next hobjects =>
    cases h
    rw [touched, hobjects]
    exact .inl ⟨Nat.le_refl _, rfl⟩
  · next a b hobjects =>
    obtain ⟨binding, hbinding, hjoined⟩ := pairBinding_joined h hbound
    exact .inr ⟨a, b, binding, hobjects, hbinding, hjoined⟩
  · refine absurd (refused_of_refuse h ?_) hbound
    iterate 2 apply length_append_left
    decide

end Relationship

/-! ## The bindings of the terms -/

section Terms

/-- What a binding of a term or of the time axis has. -/
structure Physical (binding : GroundingBinding) : Prop where
  datasource : truthy binding.datasourceId = true
  dataObject : truthy binding.dataObjectId = true
  not_relationship : binding.assetType ≠ .relationship

theorem Eligible.not_relationship {slot : GroundingSlot} {candidate : SemanticCandidate}
    (h : Eligible enforceTrustedPath retrieval slot candidate) : candidate.assetType ≠ .relationship := by
  intro heq
  have hmem := h.assetType
  rw [heq] at hmem
  exact absurd hmem (by cases slot <;> decide)

/-- What may be bound in a slot names its data object. -/
theorem Eligible.truthy_dataObject {slot : GroundingSlot} {candidate : SemanticCandidate}
    (h : Eligible enforceTrustedPath retrieval slot candidate) :
    truthy candidate.dataObjectId = true := by
  have hphysical := h.physical
  rw [hasPhysicalIdentity] at hphysical
  split at hphysical
  · simp only [Bool.and_eq_true] at hphysical
    exact hphysical.1.2
  · simp only [Bool.and_eq_true] at hphysical
    exact hphysical.1.2
  · simp only [Bool.and_eq_true] at hphysical
    exact hphysical.1.2
  · next hrelationship => exact absurd hrelationship h.not_relationship
  · simp only [Bool.and_eq_true] at hphysical
    exact hphysical.2

theorem Chosen.physical {slot : GroundingSlot} {name : SemanticCandidate → String}
    {matched : List SemanticCandidate} {binding : GroundingBinding}
    (h : Chosen slot name (stableOf enforceTrustedPath retrieval matched) binding)
    (hmatched : ∀ c ∈ matched, c ∈ retrieval.candidates ∧ c.assetType ∈ slot.assetTypes) :
    Physical binding := by
  obtain ⟨candidate, hmem, -, -, htype, hconfirms⟩ := h.exists_candidate
  have heligible : Eligible enforceTrustedPath retrieval slot candidate := eligible_of_mem hmatched hmem
  refine ⟨?_, ?_, ?_⟩
  · rw [hconfirms.datasource]
    exact heligible.truthy_datasource
  · rw [hconfirms.dataObject]
    exact heligible.truthy_dataObject
  · rw [htype]
    exact heligible.not_relationship

/-- The candidates that the binding is chosen from are all of its data object. -/
theorem Chosen.dataObject {slot : GroundingSlot} {name : SemanticCandidate → String}
    {pool : List SemanticCandidate} {binding : GroundingBinding} (h : Chosen slot name pool binding)
    {c : SemanticCandidate} (hc : c ∈ pool) : c.dataObjectId = binding.dataObjectId := by
  obtain ⟨candidate, hmem, -, -, -, hconfirms⟩ := h.exists_candidate
  rw [hconfirms.dataObject]
  exact congrArg PhysicalTarget.dataObjectId (h.one c hc candidate hmem)

theorem ChosenTerm.physical {p : GroundingSlot × String} {binding : GroundingBinding}
    (h : ChosenTerm enforceTrustedPath retrieval p binding) : Physical binding :=
  Chosen.physical h fun _ hc => mem_bestAddressed hc

end Terms

/-! ## Plans -/

section Plans

variable {reprList : List String → String} {result : GroundingResult}

/-- The bindings are of one datasource, and of one object or of two that the relationship joins. -/
structure Plannable (retrieval : SemanticRetrievalResult) (bindings : List GroundingBinding) : Prop where
  oneSource : ∀ b ∈ bindings, ∀ b' ∈ bindings, b.datasourceId = b'.datasourceId
  objects : (touched bindings).length ≤ 2
  joined : ∀ a b, touched bindings = [a, b] →
    ∃ binding, bindings.filter (·.assetType = .relationship) = [binding] ∧ Joined retrieval a b binding

/-- The time axes that may be bound are of a data object that a term stands for. -/
def AxisWithin (enforceTrustedPath : Bool) (query : BusinessQuery)
    (retrieval : SemanticRetrievalResult) : Prop :=
  truthy query.timeExpression = true → firstTerms [] (slotTerms query) ≠ [] →
    ∀ axis ∈ stableOf enforceTrustedPath retrieval (timeAxes retrieval),
      ∃ p ∈ firstTerms [] (slotTerms query),
        ∃ c ∈ stableOf enforceTrustedPath retrieval (bestAddressed retrieval p.1 p.2),
          c.dataObjectId = axis.dataObjectId

variable {terms : List GroundingBinding} {relationship axis : Outcome}

theorem Resolved.physical
    (h : Resolved enforceTrustedPath query retrieval result terms relationship axis) :
    ∀ binding ∈ terms, Physical binding := by
  intro binding hbinding
  obtain ⟨p, -, hchosen⟩ := exists_of_forall₂ h.chosen.flip hbinding
  exact ChosenTerm.physical hchosen

theorem Resolved.axis_physical
    (h : Resolved enforceTrustedPath query retrieval result terms relationship axis) :
    ∀ binding ∈ axis.binding, Physical binding := fun _ hbinding =>
  (timeAxisBinding_chosen h.dated hbinding).2.physical fun _ hc => (mem_timeAxes hc).2

/-- Every binding names its datasource. -/
theorem Resolved.truthy_datasource
    (h : Resolved enforceTrustedPath query retrieval result terms relationship axis) :
    ∀ binding ∈ result.groundedQuery.bindings, truthy binding.datasourceId = true := by
  have hterms : ∀ binding ∈ terms, truthy binding.datasourceId = true := fun binding hbinding =>
    (h.physical binding hbinding).datasource
  intro binding hbinding
  rw [h.bindings, List.mem_append, List.mem_append] at hbinding
  rcases hbinding with (hbinding | hbinding) | hbinding
  · exact hterms binding hbinding
  · obtain ⟨o, ho, hrelates⟩ : ∃ o, relationshipBinding enforceTrustedPath retrieval terms = .ok o ∧
        Relates enforceTrustedPath retrieval terms o := relationshipBinding_relates hterms
    obtain rfl : o = relationship := Except.ok.inj (ho.symm.trans h.related)
    have hmem := Option.mem_toList.mp hbinding
    cases hrelates with
    | idle hidle =>
      rw [hidle] at hmem
      cases hmem
    | refused hrefused => exact absurd hrefused h.relationship_bound
    | @bound candidate hbound _ _ _ hsource =>
      rw [hbound] at hmem
      cases hmem
      obtain ⟨b, hb, heq⟩ := hsource
      show truthy candidate.datasourceId = true
      rw [← heq]
      exact hterms b hb
  · exact (h.axis_physical binding (Option.mem_toList.mp hbinding)).datasource

theorem Resolved.one_datasource
    (h : Resolved enforceTrustedPath query retrieval result terms relationship axis) :
    ∀ b ∈ result.groundedQuery.bindings, ∀ b' ∈ result.groundedQuery.bindings,
      b.datasourceId = b'.datasourceId := by
  intro b hb b' hb'
  by_contra hne
  exact h.oneSource ⟨b, hb, b', hb', h.truthy_datasource b hb, h.truthy_datasource b' hb', hne⟩

/-- A time expression has its axis. -/
theorem Resolved.exists_axis
    (h : Resolved enforceTrustedPath query retrieval result terms relationship axis)
    (htime : truthy query.timeExpression = true) : ∃ b, axis.binding = some b := by
  obtain ⟨o, ho, hsettles⟩ : ∃ o, timeAxisBinding enforceTrustedPath retrieval query = .ok o ∧
      (truthy query.timeExpression = false ∧ o = {} ∨
        Settles .timeAxis (fun candidate => candidate.name)
          (stableOf enforceTrustedPath retrieval (timeAxes retrieval)) o) :=
    timeAxisBinding_settles query
  obtain rfl : o = axis := Except.ok.inj (ho.symm.trans h.dated)
  rcases hsettles with ⟨hnone, -⟩ | hsettles
  · rw [hnone] at htime
    cases htime
  cases hsettles with
  | refused hrefused => exact absurd hrefused h.axis_bound
  | @bound b _ hb _ _ _ _ => exact ⟨b, hb⟩

/-- The axis is of an object of the terms, as its candidates are. -/
theorem Resolved.axisWithin_iff
    (h : Resolved enforceTrustedPath query retrieval result terms relationship axis) :
    AxisWithin enforceTrustedPath query retrieval ↔
      ∀ b ∈ axis.binding, terms ≠ [] → ∃ b' ∈ terms, b'.dataObjectId = b.dataObjectId := by
  constructor
  · intro hwithin b hb hne
    obtain ⟨htime, hchosen⟩ := timeAxisBinding_chosen h.dated hb
    obtain ⟨candidate, hmem, -, -, -, hconfirms⟩ := hchosen.exists_candidate
    have hfirst : firstTerms [] (slotTerms query) ≠ [] := by
      intro hnil
      have hchosen := h.chosen
      rw [hnil] at hchosen
      cases hchosen
      exact hne rfl
    obtain ⟨p, hp, c, hc, hobject⟩ := hwithin htime hfirst candidate hmem
    obtain ⟨b', hb', hterm⟩ := exists_of_forall₂ h.chosen hp
    refine ⟨b', hb', ?_⟩
    rw [← Chosen.dataObject hterm hc, hobject, hconfirms.dataObject]
  · intro hall htime hfirst candidate hcandidate
    have hne : terms ≠ [] := by
      rintro rfl
      have hchosen := h.chosen
      cases hfirst' : firstTerms [] (slotTerms query) with
      | nil => exact hfirst hfirst'
      | cons p ps =>
        rw [hfirst'] at hchosen
        cases hchosen
    obtain ⟨b, hb⟩ := h.exists_axis htime
    obtain ⟨b', hb', hobject⟩ := hall b hb hne
    obtain ⟨p, hp, hterm⟩ := exists_of_forall₂ h.chosen.flip hb'
    obtain ⟨c, hc, -, -, -, hconfirms⟩ := Chosen.exists_candidate hterm
    refine ⟨p, hp, c, hc, ?_⟩
    rw [← hconfirms.dataObject, hobject]
    exact ((timeAxisBinding_chosen h.dated hb).2.dataObject hcandidate).symm

/-- The only binding of a relationship is that of the step. -/
theorem Resolved.filter_relationship
    (h : Resolved enforceTrustedPath query retrieval result terms relationship axis) :
    result.groundedQuery.bindings.filter (·.assetType = .relationship) =
      relationship.binding.toList.filter (·.assetType = .relationship) := by
  have hterms : terms.filter (·.assetType = .relationship) = [] :=
    List.filter_eq_nil_iff.mpr fun b hb => by simpa using (h.physical b hb).not_relationship
  have haxis : axis.binding.toList.filter (·.assetType = .relationship) = [] :=
    List.filter_eq_nil_iff.mpr fun b hb => by
      simpa using (h.axis_physical b (Option.mem_toList.mp hb)).not_relationship
  rw [h.bindings, List.filter_append, List.filter_append, hterms, haxis, List.nil_append,
    List.append_nil]

/-- The objects that are touched are those of the terms and of the axis. -/
theorem Resolved.mem_touched
    (h : Resolved enforceTrustedPath query retrieval result terms relationship axis) {x : String} :
    x ∈ touched result.groundedQuery.bindings ↔
      x ∈ touched terms ∨ x ≠ "" ∧ ∃ b ∈ axis.binding, b.dataObjectId = some x := by
  rw [Semantic.mem_touched, Semantic.mem_touched, h.bindings]
  constructor
  · rintro ⟨hx, b, hb, hobject⟩
    rw [List.mem_append, List.mem_append] at hb
    rcases hb with (hb | hb) | hb
    · exact .inl ⟨hx, b, hb, hobject⟩
    · -- A relationship names no object.
      rcases relationshipBinding_joined h.related h.relationship_bound with ⟨-, hnone⟩ | hjoined
      · rw [hnone] at hb
        cases hb
      · obtain ⟨-, -, binding, -, hbinding, candidate, -, -, -, rfl⟩ := hjoined
        rw [hbinding] at hb
        obtain rfl := List.mem_singleton.mp hb
        cases hobject
    · exact .inr ⟨hx, b, Option.mem_toList.mp hb, hobject⟩
  · rintro (⟨hx, b, hb, hobject⟩ | ⟨hx, b, hb, hobject⟩)
    · exact ⟨hx, b, List.mem_append_left _ (List.mem_append_left _ hb), hobject⟩
    · exact ⟨hx, b, List.mem_append_right _ (Option.mem_toList.mpr hb), hobject⟩

theorem touched_congr {bindings bindings' : List GroundingBinding}
    (h : ∀ x, x ∈ touched bindings ↔ x ∈ touched bindings') : touched bindings = touched bindings' := by
  refine distinct_congr fun x hx => ?_
  have hmem := h x
  rw [touched, touched, mem_distinct, mem_distinct] at hmem
  exact ⟨fun hsome => (hmem.mp ⟨hx, hsome⟩).2, fun hsome => (hmem.mpr ⟨hx, hsome⟩).2⟩

theorem Resolved.plannable
    (h : Resolved enforceTrustedPath query retrieval result terms relationship axis)
    (hwithin : ∀ b ∈ axis.binding, terms ≠ [] → ∃ b' ∈ terms, b'.dataObjectId = b.dataObjectId) :
    Plannable retrieval result.groundedQuery.bindings := by
  by_cases hterms : terms = []
  · -- Only the axis is bound.
    have hlength : (touched result.groundedQuery.bindings).length ≤ 1 := by
      cases haxis : axis.binding with
      | none =>
        have hnone : ∀ x, x ∉ touched result.groundedQuery.bindings := by
          intro x hx
          rw [h.mem_touched, hterms, haxis] at hx
          rcases hx with hx | ⟨-, b, hb, -⟩
          · cases hx
          · cases hb
        rw [List.eq_nil_iff_forall_not_mem.mpr hnone]
        exact Nat.zero_le _
      | some b =>
        obtain ⟨y, hy, -⟩ := exists_of_truthy (h.axis_physical b (by rw [haxis]; rfl)).dataObject
        have hsub : touched result.groundedQuery.bindings ⊆ [y] := by
          intro x hx
          rw [h.mem_touched, hterms, haxis] at hx
          rcases hx with hx | ⟨-, b', hb', hobject⟩
          · cases hx
          · cases hb'
            rw [hy] at hobject
            cases hobject
            exact List.mem_cons_self
        exact (List.subperm_of_subset (nodup_distinct _) hsub).length_le
    refine ⟨h.one_datasource, hlength.trans (by omega), fun a b hpair => ?_⟩
    rw [hpair] at hlength
    exact absurd hlength (by simp)
  · have htouched : touched result.groundedQuery.bindings = touched terms := by
      refine touched_congr fun x => h.mem_touched.trans ⟨?_, .inl⟩
      rintro (hx | ⟨hx, b, hb, hobject⟩)
      · exact hx
      · obtain ⟨b', hb', heq⟩ := hwithin b hb hterms
        exact Semantic.mem_touched.mpr ⟨hx, b', hb', heq.trans hobject⟩
    rcases relationshipBinding_joined h.related h.relationship_bound with ⟨hlength, -⟩ | hjoined
    · refine ⟨h.one_datasource, by rw [htouched]; omega, fun a b hpair => ?_⟩
      rw [← htouched, hpair] at hlength
      exact absurd hlength (by simp)
    · obtain ⟨a, b, binding, hpair, hbinding, hjoined⟩ := hjoined
      refine ⟨h.one_datasource, by rw [htouched, hpair]; simp, fun a' b' hpair' => ?_⟩
      rw [htouched, hpair] at hpair'
      cases hpair'
      refine ⟨binding, ?_, hjoined⟩
      obtain ⟨candidate, -, -, -, rfl⟩ := hjoined
      rw [h.filter_relationship, hbinding]
      rfl

theorem Resolved.within_of_plannable
    (h : Resolved enforceTrustedPath query retrieval result terms relationship axis)
    (hplannable : Plannable retrieval result.groundedQuery.bindings) :
    ∀ b ∈ axis.binding, terms ≠ [] → ∃ b' ∈ terms, b'.dataObjectId = b.dataObjectId := by
  intro b hb hterms
  by_contra hnone
  obtain ⟨x, hx, hx'⟩ := exists_of_truthy (h.axis_physical b hb).dataObject
  have hnew : x ∉ touched terms := by
    intro hmem
    obtain ⟨-, b', hb', hobject⟩ := Semantic.mem_touched.mp hmem
    exact hnone ⟨b', hb', hobject.trans hx.symm⟩
  -- The axis is of one more object than the terms.
  have hmore : (touched terms).length + 1 ≤ (touched result.groundedQuery.bindings).length := by
    have hnodup : (x :: touched terms).Nodup := List.nodup_cons.mpr ⟨hnew, nodup_distinct _⟩
    refine (List.subperm_of_subset hnodup fun y hy => ?_).length_le
    rw [h.mem_touched]
    rcases List.mem_cons.mp hy with rfl | hy
    · exact .inr ⟨hx', b, hb, hx⟩
    · exact .inl hy
  have hsome : 1 ≤ (touched terms).length := by
    obtain ⟨b', rest, rfl⟩ := List.exists_cons_of_ne_nil hterms
    obtain ⟨y, hy, hy'⟩ := exists_of_truthy (h.physical b' List.mem_cons_self).dataObject
    exact List.length_pos_of_mem (Semantic.mem_touched.mpr ⟨hy', b', List.mem_cons_self, hy⟩)
  have htwo := hplannable.objects
  rcases relationshipBinding_joined h.related h.relationship_bound with ⟨hlength, hunbound⟩ | hjoined
  · have hlength' : (touched result.groundedQuery.bindings).length = 2 := by omega
    obtain ⟨a, a', hpair⟩ := List.length_eq_two.mp hlength'
    obtain ⟨binding, hfilter, -⟩ := hplannable.joined a a' hpair
    rw [h.filter_relationship, hunbound] at hfilter
    cases hfilter
  · obtain ⟨a, a', -, hpair, -⟩ := hjoined
    rw [hpair] at hmore
    simp only [List.length_cons, List.length_nil] at hmore
    omega

/-- **An executable grounding can be planned if and only if its time axis is of an object of a term.** -/
theorem plannable_iff (h : ground reprList enforceTrustedPath query retrieval = .ok result)
    (hexecutable : result.isExecutable = true) :
    Plannable retrieval result.groundedQuery.bindings ↔
      AxisWithin enforceTrustedPath query retrieval := by
  obtain ⟨terms, relationship, axis, hresolved⟩ := ground_executable h hexecutable
  rw [hresolved.axisWithin_iff]
  exact ⟨hresolved.within_of_plannable, hresolved.plannable⟩

/-! ### A time axis in a table of its own -/

/-- 销售额 is a field of the orders. -/
def salesCandidate : SemanticCandidate where
  assetType := .metric
  assetId := "sales"
  name := "销售额"
  score := 1
  datasourceId := some "shop"
  dataObjectId := some "orders"
  fieldPath := some "amount"
  assetId_length := by decide
  name_length := Contracts.length_sales
  score_range := Contracts.fullScore_range

/-- 日期 is a field of the given object. -/
def dateCandidate (object : String) : SemanticCandidate where
  assetType := .dimension
  assetId := "date"
  name := "日期"
  score := 1
  datasourceId := some "shop"
  dataObjectId := some object
  fieldPath := some "day"
  timeAxis := true
  assetId_length := by decide
  name_length := by decide
  score_range := Contracts.fullScore_range

def salesQuery : BusinessQuery where
  question := "上月销售额"
  objective := .lookup
  metrics := ["销售额"]
  timeExpression := some "上月"
  question_length := by decide
  ranking_required := Contracts.lookup_ranking
  comparison_required := Contracts.lookup_comparison

def salesRetrieval (object : String) : SemanticRetrievalResult where
  businessQuery := salesQuery
  candidates := [salesCandidate, dateCandidate object]
  workspaceId_length := Contracts.length_default

/-- The grounding of a query on a retrieval, when it is executable. -/
theorem exists_executable {e : Bool} {q : BusinessQuery} {r : SemanticRetrievalResult}
    {p : GroundingResult → Bool}
    (h : (ground (fun _ => "") e q r).toOption.any (fun result => result.isExecutable && p result) = true) :
    ∃ result, ground (fun _ => "") e q r = .ok result ∧ result.isExecutable = true ∧ p result = true := by
  cases hground : ground (fun _ => "") e q r with
  | error message =>
    rw [hground] at h
    cases h
  | ok result =>
    rw [hground] at h
    obtain ⟨hexecutable, hp⟩ := (Bool.and_eq_true ..).mp h
    exact ⟨result, rfl, hexecutable, hp⟩

theorem orders_plannable : ∃ result,
    ground (fun _ => "") true salesQuery (salesRetrieval "orders") = .ok result ∧
      result.isExecutable = true ∧
      (Plannable (salesRetrieval "orders") result.groundedQuery.bindings ↔
        AxisWithin true salesQuery (salesRetrieval "orders")) := by
  obtain ⟨result, hground, hexecutable, -⟩ := exists_executable (e := true) (q := salesQuery)
    (r := salesRetrieval "orders") (p := fun _ => true) (by decide)
  exact ⟨result, hground, hexecutable, plannable_iff hground hexecutable⟩

/-- **A time axis in a table of its own is bound with no relationship to it.** -/
theorem calendar_not_plannable : ∃ result,
    ground (fun _ => "") true salesQuery (salesRetrieval "calendar") = .ok result ∧
      result.isExecutable = true ∧ result.clarifications = [] ∧
      ¬Plannable (salesRetrieval "calendar") result.groundedQuery.bindings := by
  obtain ⟨result, hground, hexecutable, hp⟩ := exists_executable (e := true) (q := salesQuery)
    (r := salesRetrieval "calendar")
    (p := fun result => decide (result.clarifications = [] ∧
      touched result.groundedQuery.bindings = ["calendar", "orders"] ∧
      result.groundedQuery.bindings.filter (·.assetType = .relationship) = [])) (by decide)
  obtain ⟨hclear, htouched, hfilter⟩ := of_decide_eq_true hp
  refine ⟨result, hground, hexecutable, hclear, fun h => ?_⟩
  obtain ⟨binding, hbinding, -⟩ := h.joined _ _ htouched
  rw [hfilter] at hbinding
  cases hbinding

end Plans

end Semantic
