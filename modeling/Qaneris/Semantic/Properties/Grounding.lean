import Mathlib.Data.List.Dedup
import Qaneris.Infra.Except
import Qaneris.Semantic.Grounding

/-!
# Soundness of grounding

* `governedBinding_settles` — a step binds a candidate that survives, or says why it does not
* `ground_sound` — what is bound was confirmed, and what is not certain is not executable
-/

namespace Semantic

open Contracts
open Infra (mapM_ok)

/-! ## Requests -/

section Requests

theorem length_append_left {a b : String} (h : 1 ≤ a.length) : 1 ≤ (a ++ b).length := by
  rw [String.length_append]
  omega

theorem make_request {id field question : String} (options : List ClarificationOption)
    (hid : 1 ≤ id.length) (hfield : 1 ≤ field.length) (hquestion : 1 ≤ question.length) :
    ∃ request, ClarificationRequest.make id field question options = .ok request := by
  rw [ClarificationRequest.make, dif_pos ⟨hid, hfield, hquestion⟩]
  exact ⟨_, rfl⟩

theorem slot_value_length (slot : GroundingSlot) : 1 ≤ slot.value.length := by
  cases slot <;> decide

theorem missingClarification_ok (slot : GroundingSlot) (term : String)
    (retrieval : SemanticRetrievalResult) :
    ∃ request, missingClarification slot term retrieval = .ok request := by
  refine make_request _ ?_ ?_ ?_
  · iterate 3 apply length_append_left
    decide
  · iterate 2 apply length_append_left
    exact slot_value_length slot
  · split
    · iterate 4 apply length_append_left
      decide
    · iterate 4 apply length_append_left
      decide

theorem unavailableClarification_ok (slot : GroundingSlot) (term reason : String) :
    ∃ request, unavailableClarification slot term reason = .ok request := by
  refine make_request _ ?_ ?_ ?_
  · iterate 3 apply length_append_left
    decide
  · iterate 2 apply length_append_left
    exact slot_value_length slot
  · iterate 6 apply length_append_left
    decide

theorem make_option {id label : String} (description : Option String) (hid : 1 ≤ id.length)
    (hlabel : 1 ≤ label.length) :
    ∃ option, ClarificationOption.make id label description = .ok option := by
  rw [ClarificationOption.make, dif_pos ⟨hid, hlabel⟩]
  exact ⟨_, rfl⟩

theorem ambiguityClarification_ok (slot : GroundingSlot) (term : String)
    (groups : List PhysicalGroup) :
    ∃ request, ambiguityClarification slot term groups = .ok request := by
  obtain ⟨options, hoptions⟩ : ∃ options, (sortCandidates (groups.map PhysicalGroup.preferred)).mapM
      (fun candidate => ClarificationOption.make candidate.assetId candidate.name
        (optionDescription candidate)) = .ok options :=
    mapM_ok fun candidate _ => make_option _ candidate.assetId_length candidate.name_length
  rw [ambiguityClarification, hoptions]
  refine make_request _ ?_ ?_ ?_
  · iterate 3 apply length_append_left
    decide
  · iterate 2 apply length_append_left
    exact slot_value_length slot
  · split
    · iterate 3 apply length_append_left
      decide
    · iterate 3 apply length_append_left
      decide

end Requests

/-! ## One step -/

section Step

/-- The step binds nothing, and says why. -/
def Outcome.Refused (o : Outcome) : Prop := o.binding = none ∧ truthy o.problem = true

theorem truthy_some {s : String} (h : 1 ≤ s.length) : truthy (some s) = true := by
  have hne : s ≠ "" := by
    rintro rfl
    exact absurd h (by decide)
  simp [truthy, hne]

theorem refuse_ok {problem : String} {clarification : Except String ClarificationRequest}
    (hproblem : 1 ≤ problem.length) (h : ∃ request, clarification = .ok request) :
    ∃ o, refuse problem clarification = .ok o ∧ o.Refused := by
  obtain ⟨request, rfl⟩ := h
  exact ⟨_, rfl, rfl, truthy_some hproblem⟩

/-- The binding names the physical asset of the candidate. -/
structure Confirms (candidate : SemanticCandidate) (binding : GroundingBinding) : Prop where
  datasource : binding.datasourceId = candidate.datasourceId
  dataObject : binding.dataObjectId = candidate.dataObjectId
  field : binding.fieldPath = candidate.fieldPath

theorem bindingOf_ok {term : String} (h : 1 ≤ term.length) (candidate : SemanticCandidate) :
    ∃ binding, bindingOf term candidate = .ok binding ∧ binding.businessTerm = term ∧
      Confirms candidate binding := by
  rw [bindingOf, dif_pos h]
  exact ⟨_, rfl, rfl, rfl, rfl, rfl⟩

/-! ### Groups -/

theorem mem_sortCandidates {candidates : List SemanticCandidate} {candidate : SemanticCandidate} :
    candidate ∈ sortCandidates candidates ↔ candidate ∈ candidates :=
  (List.perm_insertionSort _ candidates).mem_iff

theorem preferred_mem (first : SemanticCandidate) (others : List SemanticCandidate) :
    preferred first others ∈ first :: others := by
  rw [preferred]
  induction others generalizing first with
  | nil => exact List.mem_cons_self
  | cons candidate others ih =>
    rw [List.foldl_cons]
    have hmem := ih (if candidateLe first candidate then first else candidate)
    rcases List.mem_cons.mp hmem with hmem | hmem
    · rw [hmem]
      split
      · exact List.mem_cons_self
      · exact List.mem_cons_of_mem _ List.mem_cons_self
    · exact List.mem_cons_of_mem _ (List.mem_cons_of_mem _ hmem)

/-- The groups have the candidates, each under its target. -/
structure Grouped (slot : GroundingSlot) (candidates : List SemanticCandidate)
    (groups : List PhysicalGroup) : Prop where
  members : ∀ group ∈ groups, ∀ candidate ∈ group.first :: group.others, candidate ∈ candidates
  targets : ∀ candidate ∈ candidates, ∃ group ∈ groups, group.target = physicalTarget slot candidate

theorem addToGroup_targets {slot : GroundingSlot} {candidate : SemanticCandidate}
    {groups : List PhysicalGroup} :
    (∃ group ∈ addToGroup slot candidate groups, group.target = physicalTarget slot candidate) ∧
      ∀ group ∈ groups, ∃ group' ∈ addToGroup slot candidate groups, group'.target = group.target := by
  induction groups with
  | nil => exact ⟨⟨_, List.mem_cons_self, rfl⟩, fun _ h => absurd h List.not_mem_nil⟩
  | cons g groups ih =>
    rw [addToGroup]
    split
    · next htarget =>
      refine ⟨⟨_, List.mem_cons_self, htarget⟩, fun group hgroup => ?_⟩
      rcases List.mem_cons.mp hgroup with rfl | hgroup
      · exact ⟨_, List.mem_cons_self, rfl⟩
      · exact ⟨group, List.mem_cons_of_mem _ hgroup, rfl⟩
    · obtain ⟨⟨group, hgroup, htarget⟩, hold⟩ := ih
      refine ⟨⟨group, List.mem_cons_of_mem _ hgroup, htarget⟩, fun old hmem => ?_⟩
      rcases List.mem_cons.mp hmem with rfl | hmem
      · exact ⟨_, List.mem_cons_self, rfl⟩
      · obtain ⟨group', hgroup', htarget'⟩ := hold old hmem
        exact ⟨group', List.mem_cons_of_mem _ hgroup', htarget'⟩

theorem addToGroup_members {slot : GroundingSlot} {candidate : SemanticCandidate}
    {groups : List PhysicalGroup} :
    ∀ group ∈ addToGroup slot candidate groups, ∀ c ∈ group.first :: group.others,
      c = candidate ∨ ∃ group' ∈ groups, c ∈ group'.first :: group'.others := by
  induction groups with
  | nil =>
    intro group hgroup c hc
    obtain rfl := List.mem_singleton.mp hgroup
    exact .inl (List.mem_singleton.mp hc)
  | cons g groups ih =>
    intro group hgroup c hc
    rw [addToGroup] at hgroup
    split at hgroup
    · rcases List.mem_cons.mp hgroup with rfl | hgroup
      · rw [← List.cons_append, List.mem_append, List.mem_singleton] at hc
        exact hc.symm.imp id fun hc => ⟨g, List.mem_cons_self, hc⟩
      · exact .inr ⟨group, List.mem_cons_of_mem _ hgroup, hc⟩
    · rcases List.mem_cons.mp hgroup with rfl | hgroup
      · exact .inr ⟨group, List.mem_cons_self, hc⟩
      · refine (ih group hgroup c hc).imp id ?_
        rintro ⟨group', hgroup', hc⟩
        exact ⟨group', List.mem_cons_of_mem _ hgroup', hc⟩

theorem Grouped.add {slot : GroundingSlot} {candidates : List SemanticCandidate}
    {groups : List PhysicalGroup} (h : Grouped slot candidates groups) (candidate : SemanticCandidate) :
    Grouped slot (candidates ++ [candidate]) (addToGroup slot candidate groups) := by
  refine ⟨fun group hgroup c hc => ?_, fun c hc => ?_⟩
  · rcases addToGroup_members group hgroup c hc with rfl | ⟨group', hgroup', hc⟩
    · exact List.mem_append_right _ List.mem_cons_self
    · exact List.mem_append_left _ (h.members group' hgroup' c hc)
  · rcases List.mem_append.mp hc with hc | hc
    · obtain ⟨group, hgroup, htarget⟩ := h.targets c hc
      obtain ⟨group', hgroup', htarget'⟩ := addToGroup_targets.2 group hgroup
      exact ⟨group', hgroup', htarget'.trans htarget⟩
    · obtain rfl := List.mem_singleton.mp hc
      exact addToGroup_targets.1

theorem grouped_physicalGroups (slot : GroundingSlot) (candidates : List SemanticCandidate) :
    Grouped slot candidates (physicalGroups slot candidates) := by
  have hfold : ∀ rest done groups, Grouped slot done groups → Grouped slot (done ++ rest)
      (rest.foldl (fun groups candidate => addToGroup slot candidate groups) groups) := by
    intro rest
    induction rest with
    | nil =>
      intro done groups h
      rw [List.append_nil]
      exact h
    | cons candidate rest ih =>
      intro done groups h
      have hnext := ih (done ++ [candidate]) _ (h.add candidate)
      rw [List.append_assoc] at hnext
      exact hnext
  have hsorted := hfold (sortCandidates candidates) [] []
    ⟨fun _ h => absurd h List.not_mem_nil, fun _ h => absurd h List.not_mem_nil⟩
  exact ⟨fun group hgroup c hc => mem_sortCandidates.mp (hsorted.members group hgroup c hc),
    fun c hc => hsorted.targets c (mem_sortCandidates.mpr hc)⟩

/-! ### Binding a candidate -/

/-- The step binds one of the candidates, and they all stand for the same asset, or it binds nothing. -/
inductive Settles (slot : GroundingSlot) (name : SemanticCandidate → String)
    (pool : List SemanticCandidate) (o : Outcome) : Prop where
  | refused (h : o.Refused)
  | bound {binding : GroundingBinding} {candidate : SemanticCandidate}
      (hbinding : o.binding = some binding) (hmem : candidate ∈ pool)
      (hname : binding.businessTerm = name candidate) (hconfirms : Confirms candidate binding)
      (hone : ∀ c ∈ pool, ∀ c' ∈ pool, physicalTarget slot c = physicalTarget slot c')

variable {enforceTrustedPath : Bool} {retrieval : SemanticRetrievalResult} {slot : GroundingSlot}
  {term : String}

theorem slot_label_length (slot : GroundingSlot) : 1 ≤ slot.label.length := by
  cases slot <;> decide

theorem settles_of_refuse {name : SemanticCandidate → String} {pool : List SemanticCandidate}
    {problem : String} {clarification : Except String ClarificationRequest}
    (h : ∃ request, clarification = .ok request) (hproblem : 1 ≤ problem.length) :
    ∃ o, refuse problem clarification = .ok o ∧ Settles slot name pool o := by
  obtain ⟨o, ho, hrefused⟩ := refuse_ok hproblem h
  exact ⟨o, ho, .refused hrefused⟩

/-- **A step binds a candidate that survives, or says why it does not.** -/
theorem governedBinding_settles {useCandidateName : Bool} (hterm : 1 ≤ term.length)
    (matched : List SemanticCandidate) :
    ∃ o, governedBinding enforceTrustedPath retrieval slot term useCandidateName matched = .ok o ∧
      Settles slot (fun candidate => if useCandidateName then candidate.name else term)
        (stableOf enforceTrustedPath retrieval matched) o := by
  have hlabel := slot_label_length slot
  simp only [governedBinding]
  split
  · refine settles_of_refuse (unavailableClarification_ok _ _ _) ?_
    iterate 5 apply length_append_left
    exact hlabel
  split
  · refine settles_of_refuse (unavailableClarification_ok _ _ _) ?_
    iterate 3 apply length_append_left
    exact hlabel
  split
  · refine settles_of_refuse (unavailableClarification_ok _ _ _) ?_
    iterate 3 apply length_append_left
    exact hlabel
  split
  · refine settles_of_refuse (unavailableClarification_ok _ _ _) ?_
    iterate 3 apply length_append_left
    exact hlabel
  have hgrouped := grouped_physicalGroups slot (stableOf enforceTrustedPath retrieval matched)
  split
  · next group hgroups =>
    rw [hgroups] at hgrouped
    have hname : 1 ≤ (if useCandidateName then group.preferred.name else term).length := by
      split
      · exact group.preferred.name_length
      · exact hterm
    obtain ⟨binding, hbinding, hterm', hconfirms⟩ := bindingOf_ok hname group.preferred
    rw [hbinding]
    refine ⟨_, rfl, .bound rfl ?_ hterm' hconfirms fun c hc c' hc' => ?_⟩
    · exact hgrouped.members group List.mem_cons_self _ (preferred_mem _ _)
    · -- Both targets are the one of the only group.
      obtain ⟨g, hg, htarget⟩ := hgrouped.targets c hc
      obtain ⟨g', hg', htarget'⟩ := hgrouped.targets c' hc'
      obtain rfl := List.mem_singleton.mp hg
      obtain rfl := List.mem_singleton.mp hg'
      exact htarget.symm.trans htarget'
  · refine settles_of_refuse (ambiguityClarification_ok _ _ _) ?_
    iterate 5 apply length_append_left
    exact hlabel

theorem bindTerm_settles (hterm : 1 ≤ term.length) :
    ∃ o, bindTerm enforceTrustedPath retrieval slot term = .ok o ∧
      Settles slot (fun _ => term)
        (stableOf enforceTrustedPath retrieval (bestAddressed retrieval slot term)) o := by
  rw [bindTerm]
  split
  · refine settles_of_refuse (missingClarification_ok _ _ _) ?_
    iterate 4 apply length_append_left
    decide
  · exact governedBinding_settles hterm _

theorem timeAxisBinding_settles (query : BusinessQuery) :
    ∃ o, timeAxisBinding enforceTrustedPath retrieval query = .ok o ∧
      (truthy query.timeExpression = false ∧ o = {} ∨ Settles .timeAxis (fun candidate => candidate.name)
        (stableOf enforceTrustedPath retrieval (timeAxes retrieval)) o) := by
  simp only [timeAxisBinding]
  split
  · next hnone => exact ⟨{}, rfl, .inl ⟨hnone, rfl⟩⟩
  next htruthy =>
  have hterm : 1 ≤ (query.timeExpression.getD "").length := by
    cases htime : query.timeExpression with
    | none => exact absurd (by rw [htime]; rfl) htruthy
    | some expression =>
      rw [htime] at htruthy
      have hne : expression ≠ "" := by
        rintro rfl
        exact htruthy rfl
      have hlength : expression.length ≠ 0 := fun h => hne (String.length_eq_zero_iff.mp h)
      show 1 ≤ expression.length
      omega
  have hsettles : ∀ {x : Except String Outcome}, (∃ o, x = .ok o ∧
      Settles .timeAxis (fun candidate => candidate.name)
        (stableOf enforceTrustedPath retrieval (timeAxes retrieval)) o) →
      ∃ o, x = .ok o ∧ (truthy query.timeExpression = false ∧ o = {} ∨
        Settles .timeAxis (fun candidate => candidate.name)
          (stableOf enforceTrustedPath retrieval (timeAxes retrieval)) o) :=
    fun ⟨o, ho, h⟩ => ⟨o, ho, .inr h⟩
  apply hsettles
  split
  · refine settles_of_refuse (make_request _ ?_ ?_ ?_) ?_
    · decide
    · decide
    · iterate 2 apply length_append_left
      decide
    · iterate 2 apply length_append_left
      decide
  · exact governedBinding_settles hterm _

end Step

/-! ## Relationships -/

section Relationships

variable {enforceTrustedPath : Bool} {retrieval : SemanticRetrievalResult}
  {bindings : List GroundingBinding}

theorem mem_distinct {values : List (Option String)} {x : String} :
    x ∈ distinct values ↔ x ≠ "" ∧ some x ∈ values := by
  rw [distinct, sortedSet, (List.perm_insertionSort _ _).mem_iff, List.mem_dedup, List.mem_filterMap]
  constructor
  · rintro ⟨value, hmem, hvalue⟩
    split at hvalue
    · next htruthy =>
      subst hvalue
      exact ⟨by simpa [truthy] using htruthy, hmem⟩
    · cases hvalue
  · rintro ⟨hne, hmem⟩
    exact ⟨some x, hmem, if_pos (by simp [truthy, hne])⟩

theorem exists_of_truthy {value : Option String} (h : truthy value = true) :
    ∃ x, value = some x ∧ x ≠ "" := by
  cases value with
  | none => cases h
  | some x => exact ⟨x, rfl, by simpa [truthy] using h⟩

/-- The step binds a confirmed relationship of a datasource that is bound already, or nothing. -/
inductive Relates (enforceTrustedPath : Bool) (retrieval : SemanticRetrievalResult)
    (bindings : List GroundingBinding) (o : Outcome) : Prop where
  | idle (h : o = {})
  | refused (h : o.Refused)
  | bound {candidate : SemanticCandidate} (hbinding : o.binding = some (relationshipOf candidate))
      (hmem : candidate ∈ retrieval.candidates) (htype : candidate.assetType = .relationship)
      (htrusted : enforceTrustedPath = true → candidate.trusted = true)
      (hsource : ∃ b ∈ bindings, b.datasourceId = candidate.datasourceId)

theorem relates_of_refuse {problem : String} {clarification : Except String ClarificationRequest}
    (h : ∃ request, clarification = .ok request) (hproblem : 1 ≤ problem.length) :
    ∃ o, refuse problem clarification = .ok o ∧ Relates enforceTrustedPath retrieval bindings o := by
  obtain ⟨o, ho, hrefused⟩ := refuse_ok hproblem h
  exact ⟨o, ho, .refused hrefused⟩

theorem pairBinding_relates {a b : String} (hne : bindings ≠ [])
    (hsources : ∀ binding ∈ bindings, truthy binding.datasourceId = true) :
    ∃ o, pairBinding enforceTrustedPath retrieval bindings a b = .ok o ∧
      Relates enforceTrustedPath retrieval bindings o := by
  have hmatch : ∀ c ∈ relationshipMatches enforceTrustedPath retrieval
      (distinct (bindings.map (·.datasourceId))) a b, c ∈ retrieval.candidates ∧
        c.assetType = .relationship ∧ truthy c.relationshipId = true ∧
        (enforceTrustedPath = true → c.trusted = true) ∧
        ∃ binding ∈ bindings, binding.datasourceId = c.datasourceId := by
    intro c hc
    rw [relationshipMatches, (List.perm_insertionSort _ _).mem_iff, List.mem_filter] at hc
    obtain ⟨hmem, hc⟩ := hc
    simp only [Bool.and_eq_true, decide_eq_true_eq, Bool.or_eq_true] at hc
    obtain ⟨⟨⟨⟨htype, hid⟩, -⟩, hsource⟩, htrusted⟩ := hc
    refine ⟨hmem, htype, hid, fun henforce => ?_, ?_⟩
    · simpa [henforce] using htrusted
    · rcases hsource with hnone | hsource
      · -- Some binding names its datasource.
        obtain ⟨binding, rest, rfl⟩ := List.exists_cons_of_ne_nil hne
        obtain ⟨x, hx, hx'⟩ := exists_of_truthy (hsources binding List.mem_cons_self)
        have hmem : x ∈ distinct ((binding :: rest).map (·.datasourceId)) :=
          mem_distinct.mpr ⟨hx', List.mem_map.mpr ⟨binding, List.mem_cons_self, hx⟩⟩
        rw [hnone] at hmem
        cases hmem
      · obtain ⟨x, hx, hdistinct⟩ := (Option.any_eq_true ..).mp hsource
        obtain ⟨-, hsome⟩ := mem_distinct.mp (of_decide_eq_true hdistinct)
        obtain ⟨binding, hbinding, heq⟩ := List.mem_map.mp hsome
        exact ⟨binding, hbinding, heq.trans hx.symm⟩
  simp only [pairBinding]
  split
  · refine relates_of_refuse (make_request _ ?_ ?_ ?_) ?_
    · decide
    · decide
    · iterate 2 apply length_append_left
      decide
    · decide +kernel
  · next chosen rest hmatches =>
    rw [hmatches] at hmatch
    split
    · refine relates_of_refuse ?_ ?_
      · obtain ⟨options, hoptions⟩ : ∃ options, (chosen :: rest).mapM
            (fun candidate => ClarificationOption.make (candidate.relationshipId.getD "") candidate.name
              (evidenceBinding candidate)) = .ok options := by
          refine mapM_ok fun candidate hcandidate => make_option _ ?_ candidate.name_length
          obtain ⟨x, hx, hx'⟩ := exists_of_truthy (hmatch candidate hcandidate).2.2.1
          have hlength : x.length ≠ 0 := fun h => hx' (String.length_eq_zero_iff.mp h)
          rw [hx]
          show 1 ≤ x.length
          omega
        rw [hoptions]
        refine make_request _ ?_ ?_ ?_
        · iterate 3 apply length_append_left
          decide
        · decide
        · decide
      · decide
    · obtain ⟨hmem, htype, -, htrusted, hsource⟩ := hmatch chosen List.mem_cons_self
      exact ⟨_, rfl, .bound rfl hmem htype htrusted hsource⟩

theorem relationshipBinding_relates
    (hsources : ∀ binding ∈ bindings, truthy binding.datasourceId = true) :
    ∃ o, relationshipBinding enforceTrustedPath retrieval bindings = .ok o ∧
      Relates enforceTrustedPath retrieval bindings o := by
  rw [relationshipBinding]
  split
  · exact ⟨{}, rfl, .idle rfl⟩
  · exact ⟨{}, rfl, .idle rfl⟩
  · next a b hids =>
    refine pairBinding_relates ?_ hsources
    rintro rfl
    cases hids
  · refine relates_of_refuse (make_request _ ?_ ?_ ?_) ?_
    · decide
    · decide
    · decide
    · iterate 2 apply length_append_left
      decide

end Relationships

/-! ## What may be bound -/

section Eligible

variable {enforceTrustedPath : Bool} {retrieval : SemanticRetrievalResult} {slot : GroundingSlot}

/-- The candidate may be bound in the slot. -/
structure Eligible (enforceTrustedPath : Bool) (retrieval : SemanticRetrievalResult)
    (slot : GroundingSlot) (candidate : SemanticCandidate) : Prop where
  mem : candidate ∈ retrieval.candidates
  assetType : candidate.assetType ∈ slot.assetTypes
  requested : truthy retrieval.requestedDatasourceId = true →
    candidate.datasourceId = retrieval.requestedDatasourceId
  trusted : trustedOnly enforceTrustedPath retrieval = true → candidate.trusted = true
  physical : hasPhysicalIdentity candidate = true
  stable : candidate.migrationLookup = false

theorem eligible_of_mem {matched : List SemanticCandidate} {candidate : SemanticCandidate}
    (hmatched : ∀ c ∈ matched, c ∈ retrieval.candidates ∧ c.assetType ∈ slot.assetTypes)
    (h : candidate ∈ stableOf enforceTrustedPath retrieval matched) :
    Eligible enforceTrustedPath retrieval slot candidate := by
  obtain ⟨h, hstable⟩ := List.mem_filter.mp h
  obtain ⟨h, hphysical⟩ := List.mem_filter.mp h
  obtain ⟨h, htrusted⟩ := List.mem_filter.mp h
  obtain ⟨h, hrequested⟩ := List.mem_filter.mp h
  obtain ⟨hmem, htype⟩ := hmatched candidate h
  refine ⟨hmem, htype, fun hr => ?_, fun ht => ?_, hphysical, ?_⟩
  · simpa [inRequested, hr] using hrequested
  · simpa [ht] using htrusted
  · simpa using hstable

theorem mem_bestAddressed {term : String} {candidate : SemanticCandidate}
    (h : candidate ∈ bestAddressed retrieval slot term) :
    candidate ∈ retrieval.candidates ∧ candidate.assetType ∈ slot.assetTypes := by
  obtain ⟨⟨c, strength⟩, hmem, rfl⟩ := List.mem_map.mp h
  obtain ⟨hmem, -⟩ := List.mem_filter.mp hmem
  obtain ⟨hmem, haddressed⟩ := List.mem_filter.mp hmem
  obtain ⟨c', hc', heq⟩ := List.mem_map.mp hmem
  cases heq
  rw [Bool.and_eq_true] at haddressed
  exact ⟨hc', of_decide_eq_true haddressed.1⟩

theorem mem_timeAxes {candidate : SemanticCandidate} (h : candidate ∈ timeAxes retrieval) :
    candidate.timeAxis = true ∧ candidate ∈ retrieval.candidates ∧
      candidate.assetType ∈ GroundingSlot.timeAxis.assetTypes := by
  obtain ⟨hmem, haxis⟩ := List.mem_filter.mp h
  rw [Bool.and_eq_true] at haxis
  exact ⟨haxis.1, hmem, of_decide_eq_true haxis.2⟩

/-- What may be bound in a slot names its datasource. -/
theorem Eligible.truthy_datasource {candidate : SemanticCandidate}
    (h : Eligible enforceTrustedPath retrieval slot candidate) :
    truthy candidate.datasourceId = true := by
  have hphysical := h.physical
  have htype : candidate.assetType ≠ .relationship := by
    intro heq
    have hmem := h.assetType
    rw [heq] at hmem
    exact absurd hmem (by cases slot <;> decide)
  rw [hasPhysicalIdentity] at hphysical
  split at hphysical
  · simp only [Bool.and_eq_true] at hphysical
    exact hphysical.1.1
  · simp only [Bool.and_eq_true] at hphysical
    exact hphysical.1.1
  · simp only [Bool.and_eq_true] at hphysical
    exact hphysical.1.1
  · next hrelationship => exact absurd hrelationship htype
  · simp only [Bool.and_eq_true] at hphysical
    exact hphysical.1

end Eligible

/-! ## The loop over the terms -/

section Terms

variable {enforceTrustedPath : Bool} {retrieval : SemanticRetrievalResult}

attribute [local instance] Infra.lawfulBEq_chars

/-- The terms that are the first of their expression. -/
def firstTerms : (handled : List (List Char)) → List (GroundingSlot × String) →
    List (GroundingSlot × String)
  | _, [] => []
  | handled, (slot, term) :: terms =>
    if normalizeTerm term ∈ handled then firstTerms handled terms
    else (slot, term) :: firstTerms (normalizeTerm term :: handled) terms

/-- The best candidates of the term that survive stand for more than one asset. -/
def Ambiguous (enforceTrustedPath : Bool) (retrieval : SemanticRetrievalResult)
    (slot : GroundingSlot) (term : String) : Prop :=
  ∃ c ∈ stableOf enforceTrustedPath retrieval (bestAddressed retrieval slot term),
    ∃ c' ∈ stableOf enforceTrustedPath retrieval (bestAddressed retrieval slot term),
      physicalTarget slot c ≠ physicalTarget slot c'

theorem not_handled_of_mem {handled : List (List Char)} {terms : List (GroundingSlot × String)}
    {slot : GroundingSlot} {term : String} (h : (slot, term) ∈ firstTerms handled terms) :
    normalizeTerm term ∉ handled := by
  induction terms generalizing handled with
  | nil => cases h
  | cons p terms ih =>
    obtain ⟨slot', term'⟩ := p
    rw [firstTerms] at h
    split at h
    · exact ih h
    · next hnew =>
      rcases List.mem_cons.mp h with heq | h
      · cases heq
        exact hnew
      · exact fun hmem => ih h (List.mem_cons_of_mem _ hmem)

/-- What the loop has added for the terms. -/
structure Termed (enforceTrustedPath : Bool) (retrieval : SemanticRetrievalResult)
    (terms : List (GroundingSlot × String)) (before after : Collected)
    (slotted : List GroundingBinding) : Prop where
  bindings : after.bindings = before.bindings ++ slotted
  unresolved : ∀ problem ∈ before.unresolved, problem ∈ after.unresolved
  confirmed : ∀ binding ∈ slotted, ∃ slot candidate, (slot, binding.businessTerm) ∈ terms ∧
    Eligible enforceTrustedPath retrieval slot candidate ∧ Confirms candidate binding
  ambiguous : ∀ slot term, (slot, term) ∈ terms → Ambiguous enforceTrustedPath retrieval slot term →
    (∀ binding ∈ slotted, normalizeTerm binding.businessTerm ≠ normalizeTerm term) ∧
      after.unresolved ≠ []

theorem add_refused {collected : Collected} {o : Outcome} (h : o.Refused) :
    (collected.add o).bindings = collected.bindings ∧ (collected.add o).unresolved ≠ [] ∧
      ∀ problem ∈ collected.unresolved, problem ∈ (collected.add o).unresolved := by
  obtain ⟨hbinding, hproblem⟩ := h
  refine ⟨?_, ?_, fun problem hmem => List.mem_append_left _ hmem⟩
  · rw [Collected.add, hbinding]
    exact List.append_nil _
  · obtain ⟨x, hx, -⟩ := exists_of_truthy hproblem
    rw [Collected.add, if_pos hproblem, hx]
    exact List.append_ne_nil_of_right_ne_nil _ (List.cons_ne_nil _ _)

theorem bindTerms_termed {handled : List (List Char)} {terms : List (GroundingSlot × String)}
    (hterms : ∀ p ∈ terms, 1 ≤ p.2.length) (before : Collected) :
    ∃ after slotted, bindTerms enforceTrustedPath retrieval handled before terms = .ok after ∧
      Termed enforceTrustedPath retrieval (firstTerms handled terms) before after slotted := by
  induction terms generalizing handled before with
  | nil =>
    exact ⟨before, [], rfl, (List.append_nil _).symm, fun _ h => h, fun _ h => absurd h List.not_mem_nil,
      fun _ _ h => absurd h List.not_mem_nil⟩
  | cons p terms ih =>
    obtain ⟨slot, term⟩ := p
    have hrest : ∀ q ∈ terms, 1 ≤ q.2.length := fun q hq => hterms q (List.mem_cons_of_mem _ hq)
    rw [bindTerms, firstTerms]
    by_cases hhandled : normalizeTerm term ∈ handled
    · rw [if_pos hhandled, if_pos hhandled]
      exact ih hrest before
    rw [if_neg hhandled, if_neg hhandled]
    obtain ⟨o, ho, hsettles⟩ : ∃ o, bindTerm enforceTrustedPath retrieval slot term = .ok o ∧
        Settles slot (fun _ => term)
          (stableOf enforceTrustedPath retrieval (bestAddressed retrieval slot term)) o :=
      bindTerm_settles (hterms _ List.mem_cons_self)
    obtain ⟨after, slotted, hafter, htermed⟩ :=
      @ih (normalizeTerm term :: handled) hrest (before.addTerm o)
    have hrun : (bindTerm enforceTrustedPath retrieval slot term >>= fun outcome =>
        bindTerms enforceTrustedPath retrieval (normalizeTerm term :: handled)
          (before.addTerm outcome) terms) = .ok after := by
      rw [ho]
      exact hafter
    -- A term that comes later has another expression.
    have hother : ∀ slot' term', (slot', term') ∈ firstTerms (normalizeTerm term :: handled) terms →
        normalizeTerm term' ≠ normalizeTerm term := by
      intro slot' term' hmem heq
      refine not_handled_of_mem hmem ?_
      rw [heq]
      exact List.mem_cons_self
    have hlater : ∀ binding ∈ slotted, normalizeTerm binding.businessTerm ≠ normalizeTerm term := by
      intro binding hbinding
      obtain ⟨slot', -, hmem, -⟩ := htermed.confirmed binding hbinding
      exact hother slot' _ hmem
    cases hsettles with
    | refused hrefused =>
      have hadd : before.addTerm o = before.add o := by rw [Collected.addTerm, hrefused.1]
      obtain ⟨hbindings, hunresolved, hkept⟩ :
          (before.add o).bindings = before.bindings ∧ (before.add o).unresolved ≠ [] ∧
            ∀ problem ∈ before.unresolved, problem ∈ (before.add o).unresolved := add_refused hrefused
      rw [hadd] at htermed
      refine ⟨after, slotted, hrun, ?_, ?_, ?_, ?_⟩
      · rw [htermed.bindings, hbindings]
      · exact fun problem hmem => htermed.unresolved problem (hkept problem hmem)
      · intro binding hbinding
        obtain ⟨slot', candidate, hmem, hc⟩ := htermed.confirmed binding hbinding
        exact ⟨slot', candidate, List.mem_cons_of_mem _ hmem, hc⟩
      · intro slot' term' hmem hambiguous
        rcases List.mem_cons.mp hmem with heq | hmem
        · cases heq
          obtain ⟨problem, hproblem⟩ := List.exists_mem_of_ne_nil _ hunresolved
          exact ⟨hlater, List.ne_nil_of_mem (htermed.unresolved problem hproblem)⟩
        · exact htermed.ambiguous slot' term' hmem hambiguous
    | @bound binding candidate hbinding hmem hname hconfirms hone =>
      have hadd : before.addTerm o = { before with bindings := before.bindings ++ [binding] } := by
        rw [Collected.addTerm, hbinding]
      rw [hadd] at htermed
      have heligible : Eligible enforceTrustedPath retrieval slot candidate :=
        eligible_of_mem (fun c hc => mem_bestAddressed hc) hmem
      refine ⟨after, binding :: slotted, hrun, ?_, htermed.unresolved, ?_, ?_⟩
      · rw [htermed.bindings, List.append_assoc]
        rfl
      · intro b hb
        rcases List.mem_cons.mp hb with rfl | hb
        · refine ⟨slot, candidate, ?_, heligible, hconfirms⟩
          rw [hname]
          exact List.mem_cons_self
        · obtain ⟨slot', candidate', hmem', hc⟩ := htermed.confirmed b hb
          exact ⟨slot', candidate', List.mem_cons_of_mem _ hmem', hc⟩
      · intro slot' term' hmem' hambiguous
        rcases List.mem_cons.mp hmem' with heq | hmem'
        · -- The term is bound, so its candidates stand for one asset.
          cases heq
          obtain ⟨c, hc, c', hc', hne⟩ := hambiguous
          exact absurd (hone c hc c' hc') hne
        · obtain ⟨hnever, hunresolved⟩ := htermed.ambiguous slot' term' hmem' hambiguous
          refine ⟨fun b hb => ?_, hunresolved⟩
          rcases List.mem_cons.mp hb with rfl | hb
          · rw [hname]
            exact (hother slot' term' hmem').symm
          · exact hnever b hb

end Terms

/-! ## The last steps -/

section LastSteps

variable {reprList : List String → String} {collected : Collected}

/-- Nothing that was collected is lost, and nothing is bound. -/
structure Kept (before after : Collected) : Prop where
  bindings : after.bindings = before.bindings
  unresolved : ∀ problem ∈ before.unresolved, problem ∈ after.unresolved

theorem kept_of_refuse {problem : String} {clarification : Except String ClarificationRequest}
    (h : ∃ request, clarification = .ok request) (hproblem : 1 ≤ problem.length) :
    ∃ after, (refuse problem clarification).map collected.add = .ok after ∧ Kept collected after ∧
      after.unresolved ≠ [] := by
  obtain ⟨o, ho, hrefused⟩ := refuse_ok hproblem h
  obtain ⟨hbindings, hunresolved, hkept⟩ :
      (collected.add o).bindings = collected.bindings ∧ (collected.add o).unresolved ≠ [] ∧
        ∀ problem ∈ collected.unresolved, problem ∈ (collected.add o).unresolved := add_refused hrefused
  rw [ho]
  exact ⟨collected.add o, rfl, ⟨hbindings, hkept⟩, hunresolved⟩

/-- Two bindings are of different datasources. -/
def SpansSources (bindings : List GroundingBinding) : Prop :=
  ∃ b ∈ bindings, ∃ b' ∈ bindings, truthy b.datasourceId = true ∧ truthy b'.datasourceId = true ∧
    b.datasourceId ≠ b'.datasourceId

theorem length_of_two {x y : String} {values : List String} (hx : x ∈ values) (hy : y ∈ values)
    (hne : x ≠ y) : 1 < values.length := by
  match values with
  | [] => cases hx
  | [z] =>
    rw [List.mem_singleton] at hx hy
    exact absurd (hx.trans hy.symm) hne
  | _ :: _ :: _ => simp

theorem crossSource_kept :
    ∃ after, crossSource reprList collected = .ok after ∧ Kept collected after ∧
      (SpansSources collected.bindings → after.unresolved ≠ []) := by
  rw [crossSource]
  split
  · next hnone =>
    refine ⟨collected, rfl, ⟨rfl, fun _ h => h⟩, ?_⟩
    rintro ⟨b, hb, b', hb', htruthy, htruthy', hne⟩
    obtain ⟨x, hx, hx'⟩ := exists_of_truthy htruthy
    obtain ⟨y, hy, hy'⟩ := exists_of_truthy htruthy'
    have hmem : ∀ {z : String} {c : GroundingBinding}, c ∈ collected.bindings → c.datasourceId = some z →
        z ≠ "" → z ∈ distinct (collected.bindings.map (·.datasourceId)) := fun hc hz hz' =>
      mem_distinct.mpr ⟨hz', List.mem_map.mpr ⟨_, hc, hz⟩⟩
    have hlength := length_of_two (hmem hb hx hx') (hmem hb' hy hy') fun h => hne (by rw [hx, hy, h])
    rw [crossSourceProblem] at hnone
    simp only [hlength, if_true] at hnone
    cases hnone
  · next problem hproblem =>
    have hlength : 1 ≤ problem.length := by
      rw [crossSourceProblem] at hproblem
      split at hproblem
      · cases hproblem
        iterate 2 apply length_append_left
        decide
      · cases hproblem
    have hspans : ∀ {x : Except String Collected},
        (∃ after, x = .ok after ∧ Kept collected after ∧ after.unresolved ≠ []) →
        ∃ after, x = .ok after ∧ Kept collected after ∧
          (SpansSources collected.bindings → after.unresolved ≠ []) :=
      fun ⟨after, hafter, hkept, hunresolved⟩ => ⟨after, hafter, hkept, fun _ => hunresolved⟩
    apply hspans
    exact kept_of_refuse (make_request _ (by decide) (by decide) (by decide +kernel)) hlength

theorem noBinding_kept : ∃ after, noBinding collected = .ok after ∧ Kept collected after := by
  rw [noBinding]
  split
  · have hkept : ∀ {x : Except String Collected},
        (∃ after, x = .ok after ∧ Kept collected after ∧ after.unresolved ≠ []) →
        ∃ after, x = .ok after ∧ Kept collected after :=
      fun ⟨after, hafter, hkept, _⟩ => ⟨after, hafter, hkept⟩
    apply hkept
    exact kept_of_refuse (make_request _ (by decide) (by decide) (by decide +kernel)) (by decide)
  · exact ⟨collected, rfl, rfl, fun _ h => h⟩

theorem weakestScore_range (bindings : List GroundingBinding) :
    0 ≤ weakestScore bindings ∧ weakestScore bindings ≤ 1 := by
  cases bindings with
  | nil => decide
  | cons binding bindings =>
    rw [weakestScore]
    have hscore := binding.score_range
    generalize binding.score = least at hscore ⊢
    induction bindings generalizing least with
    | nil => exact hscore
    | cons b bindings ih =>
      have hleast : 0 ≤ (if b.score < least then b.score else least) ∧
          (if b.score < least then b.score else least) ≤ 1 := by
        split
        · exact b.score_range
        · exact hscore
      exact ih _ hleast

theorem outside_distinct {bindings : List GroundingBinding} {binding : GroundingBinding}
    (f : GroundingBinding → Option String) (h : binding ∈ bindings) :
    GroundedQuery.outside (f binding) (distinct (bindings.map f)) = false := by
  rw [GroundedQuery.outside, Bool.and_eq_false_iff]
  cases hf : f binding with
  | none => exact .inl rfl
  | some x =>
    by_cases hx : x = ""
    · subst hx
      exact .inl rfl
    · refine .inr ?_
      have hmem : x ∈ distinct (bindings.map f) :=
        mem_distinct.mpr ⟨hx, List.mem_map.mpr ⟨binding, h, hf⟩⟩
      simp [hmem]

/-- What has been collected within the requested datasource is a grounded query. -/
theorem validate_groundedQueryOf {query : BusinessQuery} {retrieval : SemanticRetrievalResult}
    (hrequested : ∀ binding ∈ collected.bindings, truthy retrieval.requestedDatasourceId = true →
      binding.datasourceId = retrieval.requestedDatasourceId) :
    (groundedQueryOf query retrieval collected).validate =
      .ok (groundedQueryOf query retrieval collected) := by
  have hworkspace : ¬(groundedQueryOf query retrieval collected).workspaceId.length < 1 :=
    Nat.not_lt.mpr retrieval.workspaceId_length
  have hconfidence : ¬¬(0 ≤ (groundedQueryOf query retrieval collected).confidence ∧
      (groundedQueryOf query retrieval collected).confidence ≤ 1) :=
    not_not.mpr (weakestScore_range collected.bindings)
  have hnone : collected.bindings.findSome? (groundedQueryOf query retrieval collected).bindingError =
      none := by
    rw [List.findSome?_eq_none_iff]
    intro binding hbinding
    rw [GroundedQuery.bindingError]
    simp only [groundedQueryOf, outside_distinct (·.datasourceId) hbinding,
      outside_distinct (·.dataObjectId) hbinding, outside_distinct (·.fieldPath) hbinding,
      outside_distinct (·.relationshipId) hbinding]
    simp only [Bool.false_eq_true, if_false]
    exact if_neg fun h => h.2 (hrequested binding hbinding h.1)
  have hvalid : (groundedQueryOf query retrieval collected).bindings.findSome?
      (groundedQueryOf query retrieval collected).bindingError = none := hnone
  rw [GroundedQuery.validate, if_neg hworkspace, if_neg hconfidence, hvalid]

end LastSteps

/-! ## A whole grounding -/

section Ground

theorem slotTerms_length {query : BusinessQuery} {p : GroundingSlot × String}
    (h : p ∈ slotTerms query) : 1 ≤ p.2.length := by
  have hblank := (List.mem_filter.mp h).2
  by_contra hlength
  have hempty : p.2 = "" := String.length_eq_zero_iff.mp (by omega)
  rw [hempty] at hblank
  exact absurd hblank (by decide)

/-- The bindings of the terms, of the relationship and of the time axis. -/
structure Parts where
  terms : List GroundingBinding
  relationship : Option GroundingBinding
  timeAxis : Option GroundingBinding

def Parts.bindings (parts : Parts) : List GroundingBinding :=
  parts.terms ++ parts.relationship.toList ++ parts.timeAxis.toList

/-- The assets in the list are those of the bindings. -/
def Allows (allowed : List String) (asset : GroundingBinding → Option String)
    (bindings : List GroundingBinding) : Prop :=
  ∀ x, x ∈ allowed ↔ x ≠ "" ∧ ∃ binding ∈ bindings, asset binding = some x

theorem distinct_allows (bindings : List GroundingBinding) (asset : GroundingBinding → Option String) :
    Allows (distinct (bindings.map asset)) asset bindings := by
  intro x
  rw [mem_distinct, List.mem_map]

theorem isExecutable_of_unresolved {query : BusinessQuery} {retrieval : SemanticRetrievalResult}
    {collected : Collected} {clarifications : List ClarificationRequest}
    (h : collected.unresolved ≠ []) :
    GroundingResult.isExecutable ⟨groundedQueryOf query retrieval collected, clarifications⟩ = false := by
  obtain ⟨problem, hproblem⟩ := List.exists_mem_of_ne_nil _ h
  have hmem : problem ∈ collected.unresolved.eraseDups := List.mem_eraseDups.mpr hproblem
  have hne : unique collected.unresolved ≠ [] := List.ne_nil_of_mem hmem
  exact decide_eq_false hne

theorem Collected.add_bindings (collected : Collected) (o : Outcome) :
    (collected.add o).bindings = collected.bindings ++ o.binding.toList := rfl

theorem Collected.mem_add {collected : Collected} {problem : String} (o : Outcome)
    (h : problem ∈ collected.unresolved) : problem ∈ (collected.add o).unresolved :=
  List.mem_append_left _ h

/-- The last steps bind nothing, and what spans datasources is reported. -/
theorem lastSteps_kept (reprList : List String → String) (collected : Collected) :
    ∃ checked after, crossSource reprList collected = .ok checked ∧ noBinding checked = .ok after ∧
      Kept collected after ∧ (SpansSources collected.bindings → after.unresolved ≠ []) := by
  obtain ⟨checked, hchecked, hkept, hspans⟩ : ∃ checked, crossSource reprList collected = .ok checked ∧
      Kept collected checked ∧ (SpansSources collected.bindings → checked.unresolved ≠ []) :=
    crossSource_kept
  obtain ⟨after, hafter, hkept'⟩ : ∃ after, noBinding checked = .ok after ∧ Kept checked after :=
    noBinding_kept
  refine ⟨checked, after, hchecked, hafter, ⟨hkept'.bindings.trans hkept.bindings, ?_⟩, ?_⟩
  · exact fun problem hmem => hkept'.unresolved problem (hkept.unresolved problem hmem)
  · intro h
    obtain ⟨problem, hproblem⟩ := List.exists_mem_of_ne_nil _ (hspans h)
    exact List.ne_nil_of_mem (hkept'.unresolved problem hproblem)

/-- A confirmed relationship of a datasource of the bindings, as its binding. -/
def Related (retrieval : SemanticRetrievalResult) (bindings : List GroundingBinding)
    (binding : GroundingBinding) : Prop :=
  ∃ candidate ∈ retrieval.candidates, candidate.assetType = .relationship ∧
    candidate.trusted = true ∧ binding = relationshipOf candidate ∧
      ∃ b ∈ bindings, b.datasourceId = binding.datasourceId

theorem Relates.related {retrieval : SemanticRetrievalResult} {bindings : List GroundingBinding}
    {o : Outcome} (h : Relates true retrieval bindings o) :
    ∀ binding ∈ o.binding, Related retrieval bindings binding := by
  intro binding hbinding
  cases h with
  | idle hidle =>
    subst hidle
    cases hbinding
  | refused hrefused =>
    rw [hrefused.1] at hbinding
    cases hbinding
  | @bound candidate hbound hmem htype htrusted hsource =>
    rw [hbound] at hbinding
    cases hbinding
    exact ⟨candidate, hmem, htype, htrusted rfl, rfl, hsource⟩

/-- A confirmed time axis, as its binding. -/
def Dated (retrieval : SemanticRetrievalResult) (binding : GroundingBinding) : Prop :=
  ∃ candidate, candidate.timeAxis = true ∧ candidate.trusted = true ∧
    Eligible true retrieval .timeAxis candidate ∧ Confirms candidate binding

theorem Settles.dated {retrieval : SemanticRetrievalResult} {o : Outcome}
    (honly : trustedOnly true retrieval = true) (h : Settles .timeAxis (fun candidate => candidate.name)
      (stableOf true retrieval (timeAxes retrieval)) o) :
    ∀ binding ∈ o.binding, Dated retrieval binding := by
  intro binding hbinding
  cases h with
  | refused hrefused =>
    rw [hrefused.1] at hbinding
    cases hbinding
  | @bound bound candidate hbound hmem _ hconfirms _ =>
    rw [hbound] at hbinding
    cases hbinding
    have heligible : Eligible true retrieval .timeAxis candidate :=
      eligible_of_mem (fun c hc => (mem_timeAxes hc).2) hmem
    obtain ⟨hmem, -⟩ := List.mem_filter.mp hmem
    obtain ⟨hmem, -⟩ := List.mem_filter.mp hmem
    obtain ⟨hmem, -⟩ := List.mem_filter.mp hmem
    obtain ⟨hmem, -⟩ := List.mem_filter.mp hmem
    exact ⟨candidate, (mem_timeAxes hmem).1, heligible.trusted honly, heligible, hconfirms⟩

/-- The candidates that may be the time axis stand for more than one asset. -/
def AmbiguousAxis (retrieval : SemanticRetrievalResult) : Prop :=
  ∃ c ∈ stableOf true retrieval (timeAxes retrieval),
    ∃ c' ∈ stableOf true retrieval (timeAxes retrieval),
      physicalTarget .timeAxis c ≠ physicalTarget .timeAxis c'

theorem Settles.refused_of_ambiguous {retrieval : SemanticRetrievalResult} {o : Outcome}
    (h : Settles .timeAxis (fun candidate => candidate.name)
      (stableOf true retrieval (timeAxes retrieval)) o) (hambiguous : AmbiguousAxis retrieval) :
    o.Refused := by
  obtain ⟨c, hc, c', hc', hne⟩ := hambiguous
  cases h with
  | refused hrefused => exact hrefused
  | bound _ _ _ _ hone => exact absurd (hone c hc c' hc') hne

/-- What is bound was confirmed, and what is not certain is not executable. -/
structure Sound (query : BusinessQuery) (retrieval : SemanticRetrievalResult)
    (result : GroundingResult) (parts : Parts) : Prop where
  bindings : result.groundedQuery.bindings = parts.bindings
  terms : ∀ binding ∈ parts.terms, ∃ slot candidate,
    (slot, binding.businessTerm) ∈ firstTerms [] (slotTerms query) ∧ candidate.trusted = true ∧
      Eligible true retrieval slot candidate ∧ Confirms candidate binding
  relationship : ∀ binding ∈ parts.relationship, Related retrieval parts.terms binding
  timeAxis : ∀ binding ∈ parts.timeAxis, Dated retrieval binding
  ambiguous : ∀ slot term, (slot, term) ∈ firstTerms [] (slotTerms query) →
    Ambiguous true retrieval slot term →
    (∀ binding ∈ parts.terms, normalizeTerm binding.businessTerm ≠ normalizeTerm term) ∧
      result.isExecutable = false
  ambiguousAxis : truthy query.timeExpression = true → AmbiguousAxis retrieval →
    parts.timeAxis = none ∧ result.isExecutable = false
  crossSource : SpansSources result.groundedQuery.bindings → result.isExecutable = false
  datasources : Allows result.groundedQuery.allowedDatasourceIds (·.datasourceId)
    result.groundedQuery.bindings
  dataObjects : Allows result.groundedQuery.allowedDataObjectIds (·.dataObjectId)
    result.groundedQuery.bindings
  fieldPaths : Allows result.groundedQuery.allowedFieldPaths (·.fieldPath)
    result.groundedQuery.bindings
  relationships : Allows result.groundedQuery.allowedRelationshipIds (·.relationshipId)
    result.groundedQuery.bindings

variable (reprList : List String → String) (query : BusinessQuery)
  (retrieval : SemanticRetrievalResult)

/-- **What a trusted grounding binds was confirmed, and what is not certain is not executable.** -/
theorem ground_sound (htrusted : retrieval.retrievalPath = .trusted) :
    ∃ result parts, ground reprList true query retrieval = .ok result ∧
      Sound query retrieval result parts := by
  have honly : trustedOnly true retrieval = true := by simp [trustedOnly, htrusted]
  obtain ⟨bound, terms, hbound, htermed⟩ :
      ∃ bound terms, bindTerms true retrieval [] {} (slotTerms query) = .ok bound ∧
        Termed true retrieval (firstTerms [] (slotTerms query)) {} bound terms :=
    bindTerms_termed (fun p hp => slotTerms_length hp) {}
  have hterms : bound.bindings = terms := by
    rw [htermed.bindings]
    exact List.nil_append _
  have hsources : ∀ binding ∈ bound.bindings, truthy binding.datasourceId = true := by
    intro binding hbinding
    rw [hterms] at hbinding
    obtain ⟨slot, candidate, -, heligible, hconfirms⟩ := htermed.confirmed binding hbinding
    rw [hconfirms.datasource]
    exact heligible.truthy_datasource
  obtain ⟨relationship, hrelationship, hrelates⟩ :
      ∃ o, relationshipBinding true retrieval bound.bindings = .ok o ∧
        Relates true retrieval bound.bindings o := relationshipBinding_relates hsources
  obtain ⟨axis, haxis, hdated⟩ :
      ∃ o, timeAxisBinding true retrieval query = .ok o ∧
        (truthy query.timeExpression = false ∧ o = {} ∨
          Settles .timeAxis (fun candidate => candidate.name)
            (stableOf true retrieval (timeAxes retrieval)) o) := timeAxisBinding_settles query
  have hsteps : ((bound.add relationship).add axis).bindings =
      Parts.bindings ⟨terms, relationship.binding, axis.binding⟩ := by
    rw [Collected.add_bindings, Collected.add_bindings, hterms]
    rfl
  obtain ⟨checked, after, hchecked, hafter, hkept, hspans⟩ :=
    lastSteps_kept reprList ((bound.add relationship).add axis)
  have hall : after.bindings = Parts.bindings ⟨terms, relationship.binding, axis.binding⟩ :=
    hkept.bindings.trans hsteps
  have hrelated : ∀ binding ∈ relationship.binding, Related retrieval terms binding := by
    rw [← hterms]
    exact hrelates.related
  have hdate : ∀ binding ∈ axis.binding, Dated retrieval binding := by
    rcases hdated with ⟨-, rfl⟩ | hdated
    · exact fun _ h => by cases h
    · exact hdated.dated honly
  -- The grounded query is valid: each binding is of the requested datasource.
  have hrequested : ∀ binding ∈ after.bindings, truthy retrieval.requestedDatasourceId = true →
      binding.datasourceId = retrieval.requestedDatasourceId := by
    intro binding hbinding hr
    have hslotted : ∀ b ∈ terms, b.datasourceId = retrieval.requestedDatasourceId := by
      intro b hb
      obtain ⟨slot, candidate, -, heligible, hconfirms⟩ := htermed.confirmed b hb
      rw [hconfirms.datasource]
      exact heligible.requested hr
    rw [hall, Parts.bindings, List.mem_append, List.mem_append] at hbinding
    rcases hbinding with (hbinding | hbinding) | hbinding
    · exact hslotted binding hbinding
    · obtain ⟨candidate, -, -, -, -, b, hb, heq⟩ := hrelated binding (Option.mem_toList.mp hbinding)
      rw [← heq]
      exact hslotted b hb
    · obtain ⟨candidate, -, -, heligible, hconfirms⟩ := hdate binding (Option.mem_toList.mp hbinding)
      rw [hconfirms.datasource]
      exact heligible.requested hr
  refine ⟨⟨groundedQueryOf query retrieval after, uniqueRequests after.clarifications⟩,
    ⟨terms, relationship.binding, axis.binding⟩, ?_, ?_⟩
  · rw [ground, hbound]
    show (relationshipBinding true retrieval bound.bindings >>= _) = _
    rw [hrelationship]
    show (timeAxisBinding true retrieval query >>= _) = _
    rw [haxis]
    show (crossSource reprList ((bound.add relationship).add axis) >>= _) = _
    rw [hchecked]
    show (noBinding checked >>= _) = _
    rw [hafter]
    show ((groundedQueryOf query retrieval after).validate >>= _) = _
    rw [validate_groundedQueryOf hrequested]
    rfl
  · refine ⟨hall, fun binding hbinding => ?_, hrelated, hdate, ?_, ?_, ?_, distinct_allows _ _,
      distinct_allows _ _, distinct_allows _ _, distinct_allows _ _⟩
    · obtain ⟨slot, candidate, hmem, heligible, hconfirms⟩ := htermed.confirmed binding hbinding
      exact ⟨slot, candidate, hmem, heligible.trusted honly, heligible, hconfirms⟩
    · intro slot term hmem hambiguous
      obtain ⟨hnever, hunresolved⟩ := htermed.ambiguous slot term hmem hambiguous
      obtain ⟨problem, hproblem⟩ := List.exists_mem_of_ne_nil _ hunresolved
      have hlast := hkept.unresolved problem
        (Collected.mem_add axis (Collected.mem_add relationship hproblem))
      exact ⟨hnever, isExecutable_of_unresolved (List.ne_nil_of_mem hlast)⟩
    · intro htime hambiguous
      rcases hdated with ⟨hnone, -⟩ | hsettles
      · exact absurd htime (by simp [hnone])
      have hrefused := hsettles.refused_of_ambiguous hambiguous
      have hunresolved : ((bound.add relationship).add axis).unresolved ≠ [] := (add_refused hrefused).2.1
      obtain ⟨problem, hproblem⟩ := List.exists_mem_of_ne_nil _ hunresolved
      exact ⟨hrefused.1,
        isExecutable_of_unresolved (List.ne_nil_of_mem (hkept.unresolved problem hproblem))⟩
    · intro h
      refine isExecutable_of_unresolved (hspans ?_)
      rw [← hkept.bindings]
      exact h

/-! ### A term of two slots -/

/-- 订单 is a metric, and it is two data objects. -/
def ordersCandidate (assetType : SemanticAssetType) (object : String)
    (h : 1 ≤ object.length) : SemanticCandidate where
  assetType := assetType
  assetId := object
  name := "订单"
  score := 1
  datasourceId := some "shop"
  dataObjectId := some object
  fieldPath := some "id"
  assetId_length := h
  name_length := by decide
  score_range := by decide

def ordersQuery : BusinessQuery where
  question := "订单"
  objective := .lookup
  metrics := ["订单"]
  entities := ["订单"]
  question_length := by decide
  ranking_required := nofun
  comparison_required := nofun

def ordersRetrieval : SemanticRetrievalResult where
  businessQuery := ordersQuery
  candidates := [ordersCandidate .metric "facts" (by decide),
    ordersCandidate .dataObject "orders" Contracts.length_orders, ordersCandidate .dataObject "archive" (by decide)]
  workspaceId_length := by decide

theorem orders_sound : ordersRetrieval.retrievalPath = .trusted ∧
    ∃ result parts, ground (fun _ => "") true ordersQuery ordersRetrieval = .ok result ∧
      Sound ordersQuery ordersRetrieval result parts :=
  ⟨rfl, ground_sound _ _ _ rfl⟩

/-- **An entity of two data objects is bound when it is a metric as well.** -/
theorem ground_bindsAmbiguous : (.entity, "订单") ∈ slotTerms ordersQuery ∧
    Ambiguous true ordersRetrieval .entity "订单" ∧
    ∃ result, ground (fun _ => "") true ordersQuery ordersRetrieval = .ok result ∧
      result.isExecutable = true ∧
      ∃ binding ∈ result.groundedQuery.bindings, binding.businessTerm = "订单" := by
  refine ⟨by decide, ?_, ?_⟩
  · refine ⟨ordersCandidate .dataObject "orders" (by decide), ?_,
      ordersCandidate .dataObject "archive" (by decide), ?_, ?_⟩
    · decide
    · decide
    · decide
  · have h : ((ground (fun _ => "") true ordersQuery ordersRetrieval).toOption.any fun result =>
        result.isExecutable && result.groundedQuery.bindings.any fun binding =>
          binding.businessTerm = "订单") = true := by decide
    cases hground : ground (fun _ => "") true ordersQuery ordersRetrieval with
    | error message =>
      rw [hground] at h
      cases h
    | ok result =>
      rw [hground] at h
      obtain ⟨hexecutable, hany⟩ := (Bool.and_eq_true ..).mp h
      obtain ⟨binding, hbinding, hterm⟩ := List.any_eq_true.mp hany
      exact ⟨result, rfl, hexecutable, binding, hbinding, of_decide_eq_true hterm⟩

end Ground

end Semantic
