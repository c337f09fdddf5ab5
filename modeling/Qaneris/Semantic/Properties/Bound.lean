import Qaneris.Semantic.Properties.Candidates

/-!
# What an executable grounding has bound

* `bindTerms_chosen` — each first term is bound to the first of its candidates
* `ground_executable` — the steps of an executable grounding
-/

namespace Semantic

open Contracts

variable {enforceTrustedPath : Bool} {retrieval : SemanticRetrievalResult} {slot : GroundingSlot}
  {term : String}

/-! ## One step -/

section Step

theorem refuse_binding {problem : String} {clarification : Except String ClarificationRequest}
    {o : Outcome} (h : refuse problem clarification = .ok o) : o.binding = none := by
  rw [refuse] at h
  cases clarification with
  | error message => cases h
  | ok request =>
    cases h
    rfl

/-- The binding is of the first of the candidates, and they all stand for the same asset. -/
structure Chosen (slot : GroundingSlot) (name : SemanticCandidate → String)
    (pool : List SemanticCandidate) (binding : GroundingBinding) : Prop where
  first : ∃ candidate, (sortCandidates pool).head? = some candidate ∧
    bindingOf (name candidate) candidate = .ok binding
  one : ∀ c ∈ pool, ∀ c' ∈ pool, physicalTarget slot c = physicalTarget slot c'

theorem targets_of_single {candidates : List SemanticCandidate} {group : PhysicalGroup}
    (h : physicalGroups slot candidates = [group]) :
    ∀ c ∈ candidates, ∀ c' ∈ candidates, physicalTarget slot c = physicalTarget slot c' := by
  have hgrouped := grouped_physicalGroups slot candidates
  rw [h] at hgrouped
  have htarget : ∀ c ∈ candidates, group.target = physicalTarget slot c := by
    intro c hc
    obtain ⟨g, hg, htarget⟩ := hgrouped.targets c hc
    obtain rfl := List.mem_singleton.mp hg
    exact htarget
  intro c hc c' hc'
  exact (htarget c hc).symm.trans (htarget c' hc')

theorem governedBinding_chosen {useCandidateName : Bool} {matched : List SemanticCandidate} {o : Outcome}
    {binding : GroundingBinding}
    (h : governedBinding enforceTrustedPath retrieval slot term useCandidateName matched = .ok o)
    (hbinding : o.binding = some binding) :
    Chosen slot (fun candidate => if useCandidateName then candidate.name else term)
      (stableOf enforceTrustedPath retrieval matched) binding := by
  have hrefuse : ∀ {problem clarification}, refuse problem clarification ≠ .ok o := by
    intro problem clarification hrefuse
    rw [refuse_binding hrefuse] at hbinding
    cases hbinding
  simp only [governedBinding] at h
  split at h
  · exact absurd h hrefuse
  split at h
  · exact absurd h hrefuse
  split at h
  · exact absurd h hrefuse
  split at h
  · exact absurd h hrefuse
  split at h
  · next group hgroups =>
    refine ⟨⟨group.preferred, physicalGroups_single hgroups, ?_⟩, targets_of_single hgroups⟩
    cases hof : bindingOf (if useCandidateName then group.preferred.name else term) group.preferred with
    | error message =>
      rw [hof] at h
      cases h
    | ok chosen =>
      rw [hof] at h
      cases h
      rw [← Option.some.inj hbinding]
  · exact absurd h hrefuse

theorem bindTerm_chosen {o : Outcome} {binding : GroundingBinding}
    (h : bindTerm enforceTrustedPath retrieval slot term = .ok o) (hbinding : o.binding = some binding) :
    Chosen slot (fun _ => term)
      (stableOf enforceTrustedPath retrieval (bestAddressed retrieval slot term)) binding := by
  rw [bindTerm] at h
  split at h
  · rw [refuse_binding h] at hbinding
    cases hbinding
  · exact governedBinding_chosen h hbinding

theorem timeAxisBinding_chosen {query : BusinessQuery} {o : Outcome} {binding : GroundingBinding}
    (h : timeAxisBinding enforceTrustedPath retrieval query = .ok o)
    (hbinding : o.binding = some binding) :
    truthy query.timeExpression = true ∧
      Chosen .timeAxis (fun candidate => candidate.name)
        (stableOf enforceTrustedPath retrieval (timeAxes retrieval)) binding := by
  simp only [timeAxisBinding] at h
  split at h
  · cases h
    cases hbinding
  · next htime =>
    refine ⟨by simpa using htime, ?_⟩
    split at h
    · rw [refuse_binding h] at hbinding
      cases hbinding
    · exact governedBinding_chosen h hbinding

/-- What a binding has of its candidate. -/
theorem bindingOf_confirms {candidate : SemanticCandidate} {binding : GroundingBinding}
    (h : bindingOf term candidate = .ok binding) :
    binding.businessTerm = term ∧ binding.assetType = candidate.assetType ∧ Confirms candidate binding := by
  rw [bindingOf] at h
  split at h
  · cases h
    exact ⟨rfl, rfl, rfl, rfl, rfl⟩
  · cases h

theorem Chosen.exists_candidate {name : SemanticCandidate → String} {pool : List SemanticCandidate}
    {binding : GroundingBinding} (h : Chosen slot name pool binding) :
    ∃ candidate ∈ pool, (sortCandidates pool).head? = some candidate ∧
      binding.businessTerm = name candidate ∧ binding.assetType = candidate.assetType ∧
      Confirms candidate binding := by
  obtain ⟨candidate, hfirst, hbinding⟩ := h.first
  obtain ⟨hname, htype, hconfirms⟩ := bindingOf_confirms hbinding
  exact ⟨candidate, mem_sortCandidates.mp (List.mem_of_mem_head? hfirst), hfirst, hname, htype, hconfirms⟩

end Step

/-! ## The terms -/

section Terms

/-- The binding is of what the term of the slot stands for. -/
def ChosenTerm (enforceTrustedPath : Bool) (retrieval : SemanticRetrievalResult)
    (p : GroundingSlot × String) (binding : GroundingBinding) : Prop :=
  Chosen p.1 (fun _ => p.2)
    (stableOf enforceTrustedPath retrieval (bestAddressed retrieval p.1 p.2)) binding

theorem mem_addTerm {collected : Collected} {problem : String} (o : Outcome)
    (h : problem ∈ collected.unresolved) : problem ∈ (collected.addTerm o).unresolved := by
  rw [Collected.addTerm]
  split
  · exact h
  · exact Collected.mem_add o h

theorem bindTerms_unresolved {handled : List (List Char)} {terms : List (GroundingSlot × String)}
    {before after : Collected}
    (h : bindTerms enforceTrustedPath retrieval handled before terms = .ok after) :
    ∀ problem ∈ before.unresolved, problem ∈ after.unresolved := by
  induction terms generalizing handled before with
  | nil =>
    cases h
    exact fun _ hmem => hmem
  | cons p terms ih =>
    rw [bindTerms] at h
    by_cases hhandled : normalizeTerm p.2 ∈ handled
    · rw [if_pos hhandled] at h
      exact ih h
    rw [if_neg hhandled] at h
    cases ho : bindTerm enforceTrustedPath retrieval p.1 p.2 with
    | error message =>
      rw [ho] at h
      cases h
    | ok o =>
      rw [ho] at h
      exact fun problem hproblem => ih h problem (mem_addTerm o hproblem)

/-- **When nothing is unresolved, each first term is bound to the first of its candidates.** -/
theorem bindTerms_chosen {handled : List (List Char)} {terms : List (GroundingSlot × String)}
    (hterms : ∀ p ∈ terms, 1 ≤ p.2.length) {before after : Collected}
    (h : bindTerms enforceTrustedPath retrieval handled before terms = .ok after)
    (hresolved : after.unresolved = []) :
    ∃ bound, after.bindings = before.bindings ++ bound ∧
      List.Forall₂ (ChosenTerm enforceTrustedPath retrieval) (firstTerms handled terms) bound := by
  induction terms generalizing handled before with
  | nil =>
    cases h
    exact ⟨[], (List.append_nil _).symm, .nil⟩
  | cons p terms ih =>
    obtain ⟨slot, term⟩ := p
    have hrest : ∀ q ∈ terms, 1 ≤ q.2.length := fun q hq => hterms q (List.mem_cons_of_mem _ hq)
    rw [bindTerms] at h
    rw [firstTerms]
    by_cases hhandled : normalizeTerm term ∈ handled
    · rw [if_pos hhandled] at h ⊢
      exact ih hrest h
    rw [if_neg hhandled] at h ⊢
    obtain ⟨o, ho, hsettles⟩ : ∃ o, bindTerm enforceTrustedPath retrieval slot term = .ok o ∧
        Settles slot (fun _ => term)
          (stableOf enforceTrustedPath retrieval (bestAddressed retrieval slot term)) o :=
      bindTerm_settles (hterms _ List.mem_cons_self)
    rw [ho] at h
    have hrun : bindTerms enforceTrustedPath retrieval (normalizeTerm term :: handled)
        (before.addTerm o) terms = .ok after := h
    cases hsettles with
    | refused hrefused =>
      have hadd : before.addTerm o = before.add o := by rw [Collected.addTerm, hrefused.1]
      have hunresolved : (before.addTerm o).unresolved ≠ [] := by
        rw [hadd]
        exact (add_refused hrefused).2.1
      -- The problem is still there at the end.
      obtain ⟨problem, hproblem⟩ := List.exists_mem_of_ne_nil _ hunresolved
      have hlast := bindTerms_unresolved hrun problem hproblem
      rw [hresolved] at hlast
      cases hlast
    | @bound binding candidate hbinding _ _ _ _ =>
      obtain ⟨bound, hbindings, hchosen⟩ := ih hrest hrun
      refine ⟨binding :: bound, ?_, .cons (bindTerm_chosen ho hbinding) hchosen⟩
      rw [hbindings, Collected.addTerm, hbinding, List.append_assoc]
      rfl

end Terms

/-! ## A whole grounding -/

section Ground

variable {reprList : List String → String} {query : BusinessQuery} {result : GroundingResult}

/-- What an executable grounding has bound, step by step. -/
structure Resolved (enforceTrustedPath : Bool) (query : BusinessQuery)
    (retrieval : SemanticRetrievalResult) (result : GroundingResult) (terms : List GroundingBinding)
    (relationship axis : Outcome) : Prop where
  chosen : List.Forall₂ (ChosenTerm enforceTrustedPath retrieval) (firstTerms [] (slotTerms query)) terms
  related : relationshipBinding enforceTrustedPath retrieval terms = .ok relationship
  dated : timeAxisBinding enforceTrustedPath retrieval query = .ok axis
  relationship_bound : ¬relationship.Refused
  axis_bound : ¬axis.Refused
  bindings : result.groundedQuery.bindings =
    terms ++ relationship.binding.toList ++ axis.binding.toList
  oneSource : ¬SpansSources result.groundedQuery.bindings
  businessQuery : result.groundedQuery.businessQuery = query

theorem eq_of_validate {g g' : GroundedQuery} (h : g.validate = .ok g') : g' = g := by
  rw [GroundedQuery.validate] at h
  split at h
  · cases h
  split at h
  · cases h
  split at h
  · cases h
  · exact (Except.ok.inj h).symm

theorem unresolved_of_executable {collected : Collected} {clarifications : List ClarificationRequest}
    (h : GroundingResult.isExecutable ⟨groundedQueryOf query retrieval collected, clarifications⟩ = true) :
    collected.unresolved = [] := by
  by_contra hne
  rw [isExecutable_of_unresolved hne] at h
  cases h

theorem Kept.unresolved_nil {before after : Collected} (h : Kept before after)
    (hresolved : after.unresolved = []) : before.unresolved = [] := by
  refine List.eq_nil_iff_forall_not_mem.mpr fun problem hproblem => ?_
  have hlast := h.unresolved problem hproblem
  rw [hresolved] at hlast
  cases hlast

theorem Collected.add_resolved {collected : Collected} {o : Outcome}
    (h : (collected.add o).unresolved = []) : collected.unresolved = [] ∧ ¬o.Refused :=
  ⟨(List.append_eq_nil_iff.mp h).1, fun hrefused => (add_refused hrefused).2.1 h⟩

theorem ground_executable (h : ground reprList enforceTrustedPath query retrieval = .ok result)
    (hexecutable : result.isExecutable = true) :
    ∃ terms relationship axis,
      Resolved enforceTrustedPath query retrieval result terms relationship axis := by
  rw [ground] at h
  cases hbound : bindTerms enforceTrustedPath retrieval [] {} (slotTerms query) with
  | error message =>
    rw [hbound] at h
    cases h
  | ok bound =>
  rw [hbound] at h
  replace h : (relationshipBinding enforceTrustedPath retrieval bound.bindings >>= _) = _ := h
  cases hrelationship : relationshipBinding enforceTrustedPath retrieval bound.bindings with
  | error message =>
    rw [hrelationship] at h
    cases h
  | ok relationship =>
  rw [hrelationship] at h
  replace h : (timeAxisBinding enforceTrustedPath retrieval query >>= _) = _ := h
  cases haxis : timeAxisBinding enforceTrustedPath retrieval query with
  | error message =>
    rw [haxis] at h
    cases h
  | ok axis =>
  rw [haxis] at h
  obtain ⟨checked, after, hchecked, hafter, hkept, hspans⟩ :=
    lastSteps_kept reprList ((bound.add relationship).add axis)
  replace h : (crossSource reprList ((bound.add relationship).add axis) >>= _) = _ := h
  rw [hchecked] at h
  replace h : (noBinding checked >>= _) = _ := h
  rw [hafter] at h
  replace h : ((groundedQueryOf query retrieval after).validate >>= _) = _ := h
  cases hvalid : (groundedQueryOf query retrieval after).validate with
  | error message =>
    rw [hvalid] at h
    cases h
  | ok groundedQuery =>
  rw [hvalid] at h
  obtain rfl := eq_of_validate hvalid
  cases h
  have hresolved := hkept.unresolved_nil (unresolved_of_executable hexecutable)
  obtain ⟨hresolved, haxisBound⟩ := Collected.add_resolved hresolved
  obtain ⟨hresolved, hrelationshipBound⟩ := Collected.add_resolved hresolved
  obtain ⟨terms, hterms, hchosen⟩ := bindTerms_chosen (fun p hp => slotTerms_length hp) hbound hresolved
  have hbindings : bound.bindings = terms := hterms.trans (List.nil_append _)
  refine ⟨terms, relationship, axis, hchosen, ?_, haxis, hrelationshipBound, haxisBound, ?_, ?_, rfl⟩
  · rw [← hbindings]
    exact hrelationship
  · show after.bindings = _
    rw [hkept.bindings, Collected.add_bindings, Collected.add_bindings, hbindings]
  · intro h
    have hafter' : SpansSources after.bindings := h
    rw [hkept.bindings] at hafter'
    exact hspans hafter' (unresolved_of_executable hexecutable)

end Ground

end Semantic
