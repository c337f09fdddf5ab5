import Mathlib.Data.List.Perm.Basic
import Qaneris.Semantic.Properties.Plannable

/-!
# Grounding and the order of the candidates

* `ground_congr` — grounding does not depend on the order of the candidates
-/

namespace Semantic

open Contracts

/-- The retrieval with its candidates in another order. -/
def SemanticRetrievalResult.reordered (retrieval : SemanticRetrievalResult)
    (candidates : List SemanticCandidate) : SemanticRetrievalResult :=
  { retrieval with candidates }

variable {enforceTrustedPath : Bool} {retrieval : SemanticRetrievalResult} {slot : GroundingSlot}
  {term : String} {candidates : List SemanticCandidate}

/-! ## The pools -/

section Pools

variable {matched matched' : List SemanticCandidate}

theorem addressed_perm (h : candidates.Perm retrieval.candidates) :
    (addressed (retrieval.reordered candidates) slot term).Perm (addressed retrieval slot term) :=
  (h.map _).filter _

theorem bestAddressed_perm (h : candidates.Perm retrieval.candidates) :
    (bestAddressed (retrieval.reordered candidates) slot term).Perm
      (bestAddressed retrieval slot term) := by
  have haddressed : (addressed (retrieval.reordered candidates) slot term).Perm
      (addressed retrieval slot term) := addressed_perm h
  have hbest : ((addressed (retrieval.reordered candidates) slot term).map Prod.snd).foldl max 0 =
      ((addressed retrieval slot term).map Prod.snd).foldl max 0 :=
    (haddressed.map _).foldl_eq 0
  simp only [bestAddressed]
  rw [hbest]
  exact (haddressed.filter _).map _

theorem bestAddressed_sublist (retrieval : SemanticRetrievalResult) (slot : GroundingSlot)
    (term : String) : (bestAddressed retrieval slot term).Sublist retrieval.candidates := by
  have haddressed : ((addressed retrieval slot term).map Prod.fst).Sublist retrieval.candidates := by
    have hsub : (addressed retrieval slot term).Sublist
        (retrieval.candidates.map fun candidate => (candidate, addressStrength candidate term)) :=
      List.filter_sublist
    have hmap := hsub.map Prod.fst
    rw [List.map_map] at hmap
    exact hmap.trans (by simp [Function.comp_def])
  exact (List.filter_sublist.map Prod.fst).trans haddressed

theorem scopedTo_perm (h : matched'.Perm matched) :
    (scopedTo (retrieval.reordered candidates) matched').Perm (scopedTo retrieval matched) :=
  h.filter _

theorem trustedOf_perm (h : matched'.Perm matched) :
    (trustedOf enforceTrustedPath (retrieval.reordered candidates) matched').Perm
      (trustedOf enforceTrustedPath retrieval matched) :=
  (scopedTo_perm h).filter _

theorem physicalOf_perm (h : matched'.Perm matched) :
    (physicalOf enforceTrustedPath (retrieval.reordered candidates) matched').Perm
      (physicalOf enforceTrustedPath retrieval matched) :=
  (trustedOf_perm h).filter _

theorem stableOf_perm (h : matched'.Perm matched) :
    (stableOf enforceTrustedPath (retrieval.reordered candidates) matched').Perm
      (stableOf enforceTrustedPath retrieval matched) :=
  (physicalOf_perm h).filter _

theorem stableOf_distinct (h : DistinctAssets matched) :
    DistinctAssets (stableOf enforceTrustedPath retrieval matched) :=
  (((h.filter _).filter _).filter _).filter _

/-- Both lists are empty, or neither. -/
theorem perm_nil_iff {α : Type} {a b : List α} (h : a.Perm b) : a = [] ↔ b = [] :=
  ⟨fun ha => (ha ▸ h).nil_eq.symm, fun hb => (hb ▸ h).eq_nil⟩

end Pools

/-! ## The steps -/

section Steps

variable {matched matched' : List SemanticCandidate}

theorem governedBinding_congr {useCandidateName : Bool} (hdistinct : DistinctAssets matched)
    (h : matched'.Perm matched) :
    governedBinding enforceTrustedPath (retrieval.reordered candidates) slot term useCandidateName
        matched' =
      governedBinding enforceTrustedPath retrieval slot term useCandidateName matched := by
  have hstable : (stableOf enforceTrustedPath (retrieval.reordered candidates) matched').Perm
      (stableOf enforceTrustedPath retrieval matched) := stableOf_perm h
  have hdistinct' : DistinctAssets
      (stableOf enforceTrustedPath (retrieval.reordered candidates) matched') :=
    ((hstable.map _).nodup_iff).mpr (stableOf_distinct hdistinct)
  have hgroups : physicalGroups slot
      (stableOf enforceTrustedPath (retrieval.reordered candidates) matched') =
      physicalGroups slot (stableOf enforceTrustedPath retrieval matched) := by
    rw [physicalGroups, physicalGroups, sortCandidates_congr hdistinct' hstable]
  simp only [governedBinding, hgroups, perm_nil_iff hstable,
    perm_nil_iff (scopedTo_perm h : (scopedTo (retrieval.reordered candidates) matched').Perm _),
    perm_nil_iff (trustedOf_perm h :
      (trustedOf enforceTrustedPath (retrieval.reordered candidates) matched').Perm _),
    perm_nil_iff (physicalOf_perm h :
      (physicalOf enforceTrustedPath (retrieval.reordered candidates) matched').Perm _)]
  rfl

theorem missingClarification_congr (h : candidates.Perm retrieval.candidates) :
    missingClarification slot term (retrieval.reordered candidates) =
      missingClarification slot term retrieval := by
  have hnames : ∀ (p : SemanticCandidate → Bool) (f : SemanticCandidate → String),
      sortedSet ((candidates.filter p).map f) = sortedSet ((retrieval.candidates.filter p).map f) :=
    fun p f => sortedSet_congr fun x => ((h.filter p).map f).mem_iff
  simp only [missingClarification, SemanticRetrievalResult.reordered, inRequested, hnames]
  -- What is left are two ways to decide that there are no names.
  congr!

theorem bindTerm_congr (hdistinct : DistinctAssets retrieval.candidates)
    (h : candidates.Perm retrieval.candidates) :
    bindTerm enforceTrustedPath (retrieval.reordered candidates) slot term =
      bindTerm enforceTrustedPath retrieval slot term := by
  have hbest : (bestAddressed (retrieval.reordered candidates) slot term).Perm
      (bestAddressed retrieval slot term) := bestAddressed_perm h
  have hdistinct' : DistinctAssets (bestAddressed retrieval slot term) :=
    hdistinct.sublist ((bestAddressed_sublist retrieval slot term).map _)
  rw [bindTerm, bindTerm, governedBinding_congr hdistinct' hbest, missingClarification_congr h]
  simp only [perm_nil_iff hbest, perm_nil_iff (addressed_perm h :
    (addressed (retrieval.reordered candidates) slot term).Perm _)]

theorem timeAxisBinding_congr {query : BusinessQuery} (hdistinct : DistinctAssets retrieval.candidates)
    (h : candidates.Perm retrieval.candidates) :
    timeAxisBinding enforceTrustedPath (retrieval.reordered candidates) query =
      timeAxisBinding enforceTrustedPath retrieval query := by
  have haxes : (timeAxes (retrieval.reordered candidates)).Perm (timeAxes retrieval) := h.filter _
  have hdistinct' : DistinctAssets (timeAxes retrieval) := hdistinct.filter _
  simp only [timeAxisBinding, perm_nil_iff haxes, governedBinding_congr hdistinct' haxes]

theorem bindTerms_congr (hdistinct : DistinctAssets retrieval.candidates)
    (h : candidates.Perm retrieval.candidates) {handled : List (List Char)} {collected : Collected}
    {terms : List (GroundingSlot × String)} :
    bindTerms enforceTrustedPath (retrieval.reordered candidates) handled collected terms =
      bindTerms enforceTrustedPath retrieval handled collected terms := by
  induction terms generalizing handled collected with
  | nil => rfl
  | cons p terms ih =>
    rw [bindTerms, bindTerms, bindTerm_congr hdistinct h, ih]
    by_cases hhandled : normalizeTerm p.2 ∈ handled
    · rw [if_pos hhandled, if_pos hhandled]
    · rw [if_neg hhandled, if_neg hhandled]
      refine bind_congr fun o => ?_
      exact ih

end Steps

/-! ## Relationships -/

section Relationships

/-- Relationships of one id and of one score are one candidate. -/
def DistinctRelationships (candidates : List SemanticCandidate) : Prop :=
  ∀ a ∈ candidates, ∀ b ∈ candidates, a.assetType = .relationship → b.assetType = .relationship →
    a.score = b.score → a.relationshipId = b.relationshipId → a = b

/-- `(-candidate.score, candidate.relationship_id or "")` -/
def relationshipKey (candidate : SemanticCandidate) : ℚᵒᵈ ×ₗ String :=
  toLex (OrderDual.toDual candidate.score, candidate.relationshipId.getD "")

theorem relationshipLe_iff {a b : SemanticCandidate} :
    relationshipLe a b = true ↔ relationshipKey a ≤ relationshipKey b := by
  rw [relationshipKey, relationshipKey, Prod.Lex.toLex_le_toLex, relationshipLe]
  by_cases hscore : a.score = b.score
  · simp [hscore]
  · simp [hscore]

instance : Std.Total fun a b : SemanticCandidate => relationshipLe a b = true :=
  ⟨fun a b => by
    rw [relationshipLe_iff, relationshipLe_iff]
    exact le_total _ _⟩

instance : IsTrans SemanticCandidate fun a b => relationshipLe a b = true :=
  ⟨fun _ _ _ hab hbc =>
    relationshipLe_iff.mpr ((relationshipLe_iff.mp hab).trans (relationshipLe_iff.mp hbc))⟩

theorem relationshipMatches_congr (hdistinct : DistinctRelationships retrieval.candidates)
    (h : candidates.Perm retrieval.candidates) (datasourceIds : List String) (a b : String) :
    relationshipMatches enforceTrustedPath (retrieval.reordered candidates) datasourceIds a b =
      relationshipMatches enforceTrustedPath retrieval datasourceIds a b := by
  refine List.Perm.eq_of_pairwise (fun c c' hc hc' hcc' hc'c => ?_) (List.pairwise_insertionSort _ _)
    (List.pairwise_insertionSort _ _) ?_
  · rw [relationshipMatches, (List.perm_insertionSort _ _).mem_iff, List.mem_filter] at hc hc'
    obtain ⟨hmem, hc⟩ := hc
    obtain ⟨hmem', hc'⟩ := hc'
    simp only [Bool.and_eq_true, decide_eq_true_eq] at hc hc'
    obtain ⟨x, hx, -⟩ := exists_of_truthy hc.1.1.1.2
    obtain ⟨x', hx', -⟩ := exists_of_truthy hc'.1.1.1.2
    have hkey := le_antisymm (relationshipLe_iff.mp hcc') (relationshipLe_iff.mp hc'c)
    have hscore : c.score = c'.score := congrArg (fun key => (ofLex key).1) hkey
    have hid : c.relationshipId.getD "" = c'.relationshipId.getD "" :=
      congrArg (fun key => (ofLex key).2) hkey
    rw [hx, hx'] at hid
    have hid' : x = x' := hid
    refine hdistinct c (h.mem_iff.mp hmem) c' hmem' hc.1.1.1.1 hc'.1.1.1.1 hscore ?_
    rw [hx, hx', hid']
  · exact ((List.perm_insertionSort _ _).trans (h.filter _)).trans (List.perm_insertionSort _ _).symm

theorem relationshipBinding_congr (hdistinct : DistinctRelationships retrieval.candidates)
    (h : candidates.Perm retrieval.candidates) (bindings : List GroundingBinding) :
    relationshipBinding enforceTrustedPath (retrieval.reordered candidates) bindings =
      relationshipBinding enforceTrustedPath retrieval bindings := by
  simp only [relationshipBinding, pairBinding, relationshipMatches_congr hdistinct h]

end Relationships

/-! ## A whole grounding -/

section Ground

/-- What grounding says of the retrieval, with its candidates in another order. -/
def GroundingResult.reordered (result : GroundingResult) (candidates : List SemanticCandidate) :
    GroundingResult :=
  { result with groundedQuery := { result.groundedQuery with candidates } }

/-- The candidates are not looked at when the grounded query is checked. -/
theorem validate_reordered (g : GroundedQuery) :
    ({ g with candidates } : GroundedQuery).validate = g.validate.map ({ · with candidates }) := by
  have herror : ({ g with candidates } : GroundedQuery).bindingError = g.bindingError := rfl
  rw [GroundedQuery.validate, GroundedQuery.validate, herror]
  split
  · rfl
  split
  · rfl
  dsimp only
  cases g.bindings.findSome? g.bindingError with
  | none => rfl
  | some message => rfl

/-- **Grounding does not depend on the order of the candidates.** -/
theorem ground_congr (reprList : List String → String) (query : BusinessQuery)
    (hassets : DistinctAssets retrieval.candidates)
    (hrelationships : DistinctRelationships retrieval.candidates)
    (h : candidates.Perm retrieval.candidates) :
    ground reprList enforceTrustedPath query (retrieval.reordered candidates) =
      (ground reprList enforceTrustedPath query retrieval).map (·.reordered candidates) := by
  rw [ground, ground]
  rw [bindTerms_congr hassets h]
  cases bindTerms enforceTrustedPath retrieval [] {} (slotTerms query) with
  | error message => rfl
  | ok bound =>
  show (relationshipBinding _ _ bound.bindings >>= _) =
    Except.map _ (relationshipBinding _ _ bound.bindings >>= _)
  rw [relationshipBinding_congr hrelationships h]
  cases relationshipBinding enforceTrustedPath retrieval bound.bindings with
  | error message => rfl
  | ok relationship =>
  show (timeAxisBinding _ _ query >>= _) = Except.map _ (timeAxisBinding _ _ query >>= _)
  rw [timeAxisBinding_congr hassets h]
  cases timeAxisBinding enforceTrustedPath retrieval query with
  | error message => rfl
  | ok axis =>
  show (crossSource reprList ((bound.add relationship).add axis) >>= _) =
    Except.map _ (crossSource reprList ((bound.add relationship).add axis) >>= _)
  cases crossSource reprList ((bound.add relationship).add axis) with
  | error message => rfl
  | ok checked =>
  show (noBinding checked >>= _) = Except.map _ (noBinding checked >>= _)
  cases noBinding checked with
  | error message => rfl
  | ok collected =>
  show (({ groundedQueryOf query retrieval collected with candidates } : GroundedQuery).validate >>= _) =
    Except.map _ ((groundedQueryOf query retrieval collected).validate >>= _)
  rw [validate_reordered]
  cases (groundedQueryOf query retrieval collected).validate with
  | error message => rfl
  | ok groundedQuery => rfl

theorem sales_reordered :
    ground (fun _ => "") true salesQuery
        ((salesRetrieval "orders").reordered [dateCandidate "orders", salesCandidate]) =
      (ground (fun _ => "") true salesQuery (salesRetrieval "orders")).map
        (·.reordered [dateCandidate "orders", salesCandidate]) := by
  have hrelationships : DistinctRelationships (salesRetrieval "orders").candidates := by
    intro a ha b hb htype
    rcases List.mem_cons.mp ha with rfl | ha
    · cases htype
    · obtain rfl := List.mem_singleton.mp ha
      cases htype
  exact ground_congr _ _ (by decide) hrelationships (.swap _ _ [])

/-! ### Two names of one relationship -/

/-- 地区 is a field of the regions. -/
def regionCandidate : SemanticCandidate where
  assetType := .dimension
  assetId := "region"
  name := "地区"
  score := 1
  datasourceId := some "shop"
  dataObjectId := some "regions"
  fieldPath := some "name"
  assetId_length := by decide
  name_length := by decide
  score_range := Contracts.fullScore_range

/-- A confirmed relationship of the orders and the regions, under the given asset. -/
def linkCandidate (assetId : String) (h : 1 ≤ assetId.length) : SemanticCandidate where
  assetType := .relationship
  assetId := assetId
  name := "RELATES_TO"
  score := 1
  datasourceId := some "shop"
  relationshipId := some "orders_regions"
  fromDataObjectId := some "orders"
  toDataObjectId := some "regions"
  assetId_length := h
  name_length := by decide
  score_range := Contracts.fullScore_range

def regionalQuery : BusinessQuery where
  question := "各地区销售额"
  objective := .lookup
  metrics := ["销售额"]
  dimensions := ["地区"]
  question_length := by decide
  ranking_required := Contracts.lookup_ranking
  comparison_required := Contracts.lookup_comparison

def linkCandidates : List SemanticCandidate :=
  [salesCandidate, regionCandidate, linkCandidate "first" (by decide),
    linkCandidate "second" (by decide)]

def regionalRetrieval : SemanticRetrievalResult where
  businessQuery := regionalQuery
  candidates := linkCandidates
  workspaceId_length := Contracts.length_default

/-- **Of two candidates of one relationship and one score, the one that comes first is bound.** -/
theorem ground_follows_order :
    DistinctAssets linkCandidates ∧ linkCandidates.reverse.Perm linkCandidates ∧
      (ground (fun _ => "") true regionalQuery (regionalRetrieval.reordered linkCandidates.reverse)
        ).toOption.map (·.groundedQuery.bindings) ≠
        (ground (fun _ => "") true regionalQuery regionalRetrieval).toOption.map
          (·.groundedQuery.bindings) :=
  ⟨by decide, List.reverse_perm _, by decide⟩

end Ground

end Semantic
