import Mathlib.Algebra.Order.Ring.Rat
import Mathlib.Data.List.Nodup
import Mathlib.Data.Prod.Lex
import Mathlib.Data.String.Basic
import Qaneris.Semantic.Properties.Grounding

/-!
# The order of candidates

* `sortCandidates_congr` — candidates of distinct assets are sorted the same way, whatever their order
* `physicalGroups_single` — the only group has the candidates in their order
-/

namespace Semantic

open Contracts

/-! ## The key of a candidate -/

section Key

/-- `_candidate_order` -/
def candidateKey (candidate : SemanticCandidate) : ℕ ×ₗ ℚᵒᵈ ×ₗ String ×ₗ String :=
  toLex (typePriority candidate.assetType, toLex (OrderDual.toDual candidate.score,
    toLex (candidate.name, candidate.assetId)))

theorem candidateLe_iff {a b : SemanticCandidate} :
    candidateLe a b = true ↔ candidateKey a ≤ candidateKey b := by
  rw [candidateKey, candidateKey, Prod.Lex.toLex_le_toLex, Prod.Lex.toLex_le_toLex,
    Prod.Lex.toLex_le_toLex, candidateLe]
  by_cases htype : typePriority a.assetType = typePriority b.assetType
  · by_cases hscore : a.score = b.score
    · by_cases hname : a.name = b.name
      · simp [htype, hscore, hname]
      · simp [htype, hscore, hname]
    · simp [htype, hscore]
  · simp [htype]

theorem candidateLe_total (a b : SemanticCandidate) :
    candidateLe a b = true ∨ candidateLe b a = true := by
  rw [candidateLe_iff, candidateLe_iff]
  exact le_total _ _

theorem candidateLe_trans {a b c : SemanticCandidate} (hab : candidateLe a b = true)
    (hbc : candidateLe b c = true) : candidateLe a c = true :=
  candidateLe_iff.mpr ((candidateLe_iff.mp hab).trans (candidateLe_iff.mp hbc))

theorem assetId_of_candidateLe {a b : SemanticCandidate} (hab : candidateLe a b = true)
    (hba : candidateLe b a = true) : a.assetId = b.assetId := by
  have hkey := le_antisymm (candidateLe_iff.mp hab) (candidateLe_iff.mp hba)
  have hlast := congrArg (fun key => (ofLex (ofLex (ofLex key).2).2).2) hkey
  exact hlast

instance : Std.Total fun a b : SemanticCandidate => candidateLe a b = true := ⟨candidateLe_total⟩

instance : IsTrans SemanticCandidate fun a b => candidateLe a b = true :=
  ⟨fun _ _ _ => candidateLe_trans⟩

end Key

/-! ## Sorting -/

section Sorting

theorem sortCandidates_pairwise (candidates : List SemanticCandidate) :
    (sortCandidates candidates).Pairwise fun a b => candidateLe a b = true :=
  List.pairwise_insertionSort _ candidates

/-- No two candidates of the list are of one asset. -/
def DistinctAssets (candidates : List SemanticCandidate) : Prop :=
  (candidates.map (·.assetId)).Nodup

instance (candidates : List SemanticCandidate) : Decidable (DistinctAssets candidates) :=
  inferInstanceAs (Decidable (candidates.map (·.assetId)).Nodup)

theorem DistinctAssets.filter {candidates : List SemanticCandidate} (h : DistinctAssets candidates)
    (p : SemanticCandidate → Bool) : DistinctAssets (candidates.filter p) :=
  h.sublist (List.filter_sublist.map _)

/-- **Candidates of distinct assets are sorted the same way, whatever their order.** -/
theorem sortCandidates_congr {a b : List SemanticCandidate} (h : DistinctAssets a) (hperm : a.Perm b) :
    sortCandidates a = sortCandidates b := by
  refine List.Perm.eq_of_pairwise (fun c c' hc hc' hcc' hc'c => ?_) (sortCandidates_pairwise a)
    (sortCandidates_pairwise b) ?_
  · have hmem : c' ∈ a := hperm.mem_iff.mpr (mem_sortCandidates.mp hc')
    exact List.inj_on_of_nodup_map h (mem_sortCandidates.mp hc) hmem (assetId_of_candidateLe hcc' hc'c)
  · have ha : (sortCandidates a).Perm a := List.perm_insertionSort _ a
    have hb : (sortCandidates b).Perm b := List.perm_insertionSort _ b
    exact (ha.trans hperm).trans hb.symm

/-- In a sorted list the first candidate is the preferred one. -/
theorem preferred_eq_first {first : SemanticCandidate} {others : List SemanticCandidate}
    (h : ∀ candidate ∈ others, candidateLe first candidate = true) : preferred first others = first := by
  rw [preferred]
  induction others with
  | nil => rfl
  | cons candidate others ih =>
    rw [List.foldl_cons, if_pos (h candidate List.mem_cons_self)]
    exact ih fun c hc => h c (List.mem_cons_of_mem _ hc)

end Sorting

/-! ## Groups -/

section Groups

variable {slot : GroundingSlot}

theorem length_addToGroup (candidate : SemanticCandidate) (groups : List PhysicalGroup) :
    groups.length ≤ (addToGroup slot candidate groups).length := by
  induction groups with
  | nil => exact Nat.zero_le _
  | cons group groups ih =>
    rw [addToGroup]
    split
    · exact Nat.le_refl _
    · rw [List.length_cons, List.length_cons]
      omega

theorem length_addAll (candidates : List SemanticCandidate) (groups : List PhysicalGroup) :
    groups.length ≤
      (candidates.foldl (fun groups candidate => addToGroup slot candidate groups) groups).length := by
  induction candidates generalizing groups with
  | nil => exact Nat.le_refl _
  | cons candidate candidates ih => exact (length_addToGroup candidate groups).trans (ih _)

/-- A group that stays the only one takes every candidate. -/
theorem addAll_single {candidates : List SemanticCandidate} {group last : PhysicalGroup}
    (h : candidates.foldl (fun groups candidate => addToGroup slot candidate groups) [group] = [last]) :
    last.first :: last.others = group.first :: group.others ++ candidates := by
  induction candidates generalizing group with
  | nil =>
    cases h
    exact (List.append_nil _).symm
  | cons candidate candidates ih =>
    rw [List.foldl_cons, addToGroup] at h
    split at h
    · rw [ih h, List.cons_append, List.cons_append, List.append_assoc]
      rfl
    · -- The candidate has opened a second group.
      have hlength := @length_addAll slot candidates (group :: addToGroup slot candidate [])
      rw [h] at hlength
      have htwo : ¬2 ≤ 1 := by omega
      exact absurd hlength htwo

/-- **The only group has the candidates in their order, and the first of them is preferred.** -/
theorem physicalGroups_single {candidates : List SemanticCandidate} {group : PhysicalGroup}
    (h : physicalGroups slot candidates = [group]) :
    (sortCandidates candidates).head? = some group.preferred := by
  rw [physicalGroups] at h
  have hsorted := sortCandidates_pairwise candidates
  cases hcandidates : sortCandidates candidates with
  | nil =>
    rw [hcandidates] at h
    cases h
  | cons first others =>
    rw [hcandidates] at h hsorted
    have hgroup : group.first :: group.others = first :: others := addAll_single h
    obtain ⟨hfirst, hothers⟩ := List.cons.inj hgroup
    have hleast : ∀ candidate ∈ others, candidateLe first candidate = true :=
      (List.pairwise_cons.mp hsorted).1
    rw [List.head?_cons, PhysicalGroup.preferred, hfirst, hothers, preferred_eq_first hleast]

end Groups

end Semantic
