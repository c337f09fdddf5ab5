import Qaneris.Infra.Except
import Qaneris.Semantic.Merge

/-!
# What a merge keeps

* `merge_policy_iff` — for which rules and queries of a model the merge keeps its policy
-/

namespace Semantic.BusinessQueryMergePolicy

open Contracts
open Infra (Json)

/-! ## Equal filters -/

section Same

variable {a b c : BusinessFilter}

theorem sameFilter_iff : sameFilter a b = true ↔
    a.subject = b.subject ∧ a.operator = b.operator ∧ a.value.canonical = b.value.canonical := by
  unfold sameFilter
  rw [Bool.and_eq_true, Bool.and_eq_true, decide_eq_true_iff, decide_eq_true_iff, Json.same_iff, and_assoc]

theorem sameFilter_self (a : BusinessFilter) : sameFilter a a = true := sameFilter_iff.mpr ⟨rfl, rfl, rfl⟩

theorem sameFilter_comm (h : sameFilter a b = true) : sameFilter b a = true := by
  obtain ⟨hsubject, hoperator, hvalue⟩ := sameFilter_iff.mp h
  exact sameFilter_iff.mpr ⟨hsubject.symm, hoperator.symm, hvalue.symm⟩

theorem sameFilter_trans (hab : sameFilter a b = true) (hbc : sameFilter b c = true) :
    sameFilter a c = true := by
  obtain ⟨hsubject, hoperator, hvalue⟩ := sameFilter_iff.mp hab
  obtain ⟨hsubject', hoperator', hvalue'⟩ := sameFilter_iff.mp hbc
  exact sameFilter_iff.mpr ⟨hsubject.trans hsubject', hoperator.trans hoperator', hvalue.trans hvalue'⟩

end Same

/-! ## Filters -/

section Filters

variable {fold : String → String} {safe deterministic inferred : List BusinessFilter}
  {item rule : BusinessFilter}

theorem ruleFilter_none : ruleFilter fold safe item = none ↔
    ∀ rule ∈ safe, fold rule.subject ≠ fold item.subject := by
  unfold ruleFilter
  rw [List.getLast?_eq_none_iff, List.filter_eq_nil_iff]
  simp only [decide_eq_true_eq]

theorem ruleFilter_some (h : ruleFilter fold safe item = some rule) :
    rule ∈ safe ∧ fold rule.subject = fold item.subject := by
  obtain ⟨hmem, hsubject⟩ := List.mem_filter.mp (List.mem_of_getLast? h)
  exact ⟨hmem, of_decide_eq_true hsubject⟩

/-- Filters of one subject are all equal. -/
def Alike (fold : String → String) (filters : List BusinessFilter) : Prop :=
  ∀ a ∈ filters, ∀ b ∈ filters, fold a.subject = fold b.subject → sameFilter a b = true

instance (filters : List BusinessFilter) : Decidable (Alike fold filters) :=
  inferInstanceAs (Decidable (∀ a ∈ filters, ∀ b ∈ filters, _))

/-- The item is of the subject of a rule and equal to no rule. -/
def Contradicts (fold : String → String) (safe : List BusinessFilter) (item : BusinessFilter) : Bool :=
  safe.any (fun rule => fold rule.subject = fold item.subject) && safe.all fun rule => !sameFilter rule item

/-- With equal filters, it makes no difference which of a subject is compared. -/
theorem contradicts_iff (halike : Alike fold safe) :
    Contradicts fold safe item = true ↔ ∃ rule, ruleFilter fold safe item = some rule ∧ sameFilter rule item = false := by
  unfold Contradicts
  rw [Bool.and_eq_true, List.any_eq_true, List.all_eq_true]
  constructor
  · rintro ⟨⟨rule, hrule, hsubject⟩, hall⟩
    cases hlast : ruleFilter fold safe item with
    | none => exact absurd (of_decide_eq_true hsubject) (ruleFilter_none.mp hlast rule hrule)
    | some last =>
      exact ⟨last, rfl, by simpa using hall last (ruleFilter_some hlast).1⟩
  · rintro ⟨last, hlast, hdiffers⟩
    obtain ⟨hmem, hsubject⟩ := ruleFilter_some hlast
    refine ⟨⟨last, hmem, decide_eq_true hsubject⟩, fun rule hrule => ?_⟩
    by_contra hequal
    have hsame : sameFilter rule item = true := by simpa using hequal
    have hrules : sameFilter last rule = true := by
      refine halike last hmem rule hrule ?_
      rw [hsubject, (sameFilter_iff.mp hsame).1]
    rw [sameFilter_trans hrules hsame] at hdiffers
    cases hdiffers

/-- The filters of a model whose subject no rule has. -/
def others (fold : String → String) (safe inferred : List BusinessFilter) : List BusinessFilter :=
  inferred.filter fun item => safe.all fun rule => fold rule.subject ≠ fold item.subject

theorem mergeFilters_fst : (mergeFilters fold deterministic inferred).1 =
    safeFilters deterministic ++ others fold (safeFilters deterministic) inferred := by
  unfold mergeFilters others
  refine congrArg _ (List.filter_congr fun item _ => ?_)
  rw [Bool.eq_iff_iff, Option.isNone_iff_eq_none, ruleFilter_none, List.all_eq_true]
  simp only [decide_eq_true_eq]

/-- The filter that a conflict is about. -/
def IntentConflict.filter? (conflict : IntentConflict) : Option BusinessFilter :=
  match conflict.modelValue with
  | .filter item => some item
  | _ => none

theorem filterMap_filter? : (mergeFilters fold deterministic inferred).2.filterMap IntentConflict.filter? =
    inferred.filter fun item => (ruleFilter fold (safeFilters deterministic) item).any fun rule =>
      !sameFilter rule item := by
  rw [← List.filterMap_eq_filter]
  unfold mergeFilters
  rw [List.filterMap_filterMap]
  refine congrArg (List.filterMap · inferred) (funext fun item => ?_)
  cases hrule : ruleFilter fold (safeFilters deterministic) item with
  | none => simp [Option.guard, hrule]
  | some rule =>
    by_cases hsame : sameFilter rule item = true
    · simp [Option.guard, hrule, hsame]
    · simp [Option.guard, hrule, hsame, IntentConflict.filter?, filterConflict]

end Filters

/-! ## Facts -/

section Override

variable {α : Type} [DecidableEq α] {fact : α → Fact} {field : String} {modelValue deterministic : Option α}

theorem override_fst : (override fact field modelValue deterministic).1 = deterministic.or modelValue := by
  unfold override
  cases deterministic <;> cases modelValue <;> rfl

/-- What the rules have said already is no conflict. -/
theorem override_again : override fact field (deterministic.or modelValue) deterministic =
    (deterministic.or modelValue, []) := by
  unfold override
  cases deterministic <;> simp

theorem mem_override {conflict : IntentConflict}
    (h : conflict ∈ (override fact field modelValue deterministic).2) :
    ∃ value, conflict.modelValue = fact value := by
  unfold override at h
  split at h
  · cases h
  · cases h
  · split_ifs at h with heq
    · cases h
    · rw [List.mem_singleton.mp h]
      exact ⟨_, rfl⟩

end Override

theorem completeComparison_again (rule model : Option ComparisonSpec) :
    completeComparison rule ((completeComparison rule model).or model) = completeComparison rule model := by
  cases rule with
  | none => cases model <;> rfl
  | some rule =>
    cases model with
    | none => simp [completeComparison]
    | some model =>
      obtain ⟨kind, baseline⟩ := rule
      cases baseline <;> simp [completeComparison]

theorem completeRanking_again (rule model : Option RankingSpec) :
    completeRanking rule ((completeRanking rule model).or model) = completeRanking rule model := by
  cases rule with
  | none => cases model <;> rfl
  | some rule =>
    cases model with
    | none => simp [completeRanking]
    | some model =>
      obtain ⟨direction, limit, metric, hlimit⟩ := rule
      cases metric <;> simp [completeRanking]

/-! ## Texts -/

theorem mem_fromKeys {texts : List String} {text : String} : text ∈ fromKeys texts ↔ text ∈ texts := by
  induction texts with
  | nil => rfl
  | cons first texts ih =>
    rw [fromKeys, List.mem_cons, List.mem_cons, List.mem_filter, ih]
    by_cases h : text = first <;> simp [h]

theorem fromKeys_of_nodup {texts : List String} (h : texts.Nodup) : fromKeys texts = texts := by
  induction texts with
  | nil => rfl
  | cons first texts ih =>
    obtain ⟨hnot, hrest⟩ := List.nodup_cons.mp h
    rw [fromKeys, ih hrest, List.filter_eq_self.mpr]
    intro text htext
    simp only [ne_eq, decide_eq_true_eq]
    rintro rfl
    exact hnot htext

theorem nodup_fromKeys (texts : List String) : (fromKeys texts).Nodup := by
  induction texts with
  | nil => exact List.nodup_nil
  | cons first texts ih =>
    rw [fromKeys, List.nodup_cons]
    exact ⟨fun h => by simpa using (List.mem_filter.mp h).2, ih.filter _⟩

theorem fromKeys_append (texts known : List String) :
    fromKeys (texts ++ known) = fromKeys texts ++ (fromKeys known).filter (· ∉ texts) := by
  induction texts with
  | nil => simp [fromKeys]
  | cons first texts ih =>
    rw [List.cons_append, fromKeys, fromKeys, ih, List.filter_append, List.filter_filter, List.cons_append]
    refine congrArg (first :: ·) (congrArg _ (List.filter_congr fun text _ => ?_))
    by_cases h : text = first <;> simp [h]

/-- Texts that are there already are not added again. -/
theorem fromKeys_again (texts known : List String) :
    fromKeys (fromKeys (texts ++ known) ++ known) = fromKeys (texts ++ known) := by
  rw [fromKeys_append (fromKeys (texts ++ known)), fromKeys_of_nodup (nodup_fromKeys _),
    List.filter_eq_nil_iff.mpr, List.append_nil]
  intro text htext
  have hmem : text ∈ fromKeys (texts ++ known) :=
    mem_fromKeys.mpr (List.mem_append_right _ (mem_fromKeys.mp htext))
  simpa using hmem

/-! ## The merge -/

section Merge

variable {fold : String → String} {question : String} {rules : RuleExtraction} {inferred merged : Inferred}
  {conflicts : List IntentConflict}

/-- The objective that is merged has the details that it asks for. -/
structure Detailed (question : String) (rules : RuleExtraction) (inferred : Inferred) : Prop where
  question : 1 ≤ question.length
  ranking : rules.objectiveHint = some .ranking → rules.ranking ≠ none ∨ inferred.query.ranking ≠ none
  comparison : rules.objectiveHint = some .comparison →
    rules.comparison ≠ none ∨ inferred.query.comparison ≠ none

/-- The conflicts of the facts other than filters. -/
def factConflicts (rules : RuleExtraction) (model : BusinessQuery) : List IntentConflict :=
  (override .objective "objective" (some model.objective) rules.objectiveHint).2 ++
    (override .timeExpression "time_expression" model.timeExpression rules.timeExpression).2 ++
    (override .comparison "comparison" model.comparison
      (completeComparison rules.comparison model.comparison)).2 ++
    (override .ranking "ranking" model.ranking (completeRanking rules.ranking model.ranking)).2

/-- What a merge returns. -/
structure Merged (fold : String → String) (question : String) (rules : RuleExtraction) (inferred merged : Inferred)
    (conflicts : List IntentConflict) : Prop where
  recorded : conflicts = factConflicts rules inferred.query ++
    (mergeFilters fold rules.filters inferred.query.filters).2
  question : merged.query.question = question
  objective : merged.query.objective = rules.objectiveHint.getD inferred.query.objective
  timeExpression : merged.query.timeExpression = rules.timeExpression.or inferred.query.timeExpression
  comparison : merged.query.comparison =
    (completeComparison rules.comparison inferred.query.comparison).or inferred.query.comparison
  ranking : merged.query.ranking =
    (completeRanking rules.ranking inferred.query.ranking).or inferred.query.ranking
  filters : merged.query.filters = safeFilters rules.filters ++
    others fold (safeFilters rules.filters) inferred.query.filters
  ambiguities : merged.query.ambiguities = ambiguitiesOf rules inferred
  requestedOutput : merged.query.requestedOutput = requestedOutputOf rules inferred
  entities : merged.query.entities = inferred.query.entities
  metrics : merged.query.metrics = inferred.query.metrics
  dimensions : merged.query.dimensions = inferred.query.dimensions
  derivations : merged.query.derivations = inferred.query.derivations
  confidence : merged.confidence = confidenceOf inferred conflicts

theorem merge_ok (h : merge fold question rules inferred = .ok (merged, conflicts)) :
    Merged fold question rules inferred merged conflicts := by
  unfold merge at h
  dsimp only at h
  split_ifs at h with hquestion hranking hcomparison
  obtain ⟨rfl, rfl⟩ := Prod.mk.inj (Except.ok.inj h)
  refine ⟨rfl, rfl, ?_, override_fst, override_fst, override_fst, mergeFilters_fst, rfl, rfl, rfl, rfl, rfl,
    rfl, rfl⟩
  dsimp only
  rw [override_fst]
  cases rules.objectiveHint <;> rfl

theorem detailed_iff : Detailed question rules inferred ↔ 1 ≤ question.length ∧
    (rules.objectiveHint.getD inferred.query.objective = .ranking →
      (completeRanking rules.ranking inferred.query.ranking).or inferred.query.ranking ≠ none) ∧
    (rules.objectiveHint.getD inferred.query.objective = .comparison →
      (completeComparison rules.comparison inferred.query.comparison).or inferred.query.comparison ≠ none) := by
  have hranking : (completeRanking rules.ranking inferred.query.ranking).or inferred.query.ranking ≠ none ↔
      rules.ranking ≠ none ∨ inferred.query.ranking ≠ none := by
    cases rules.ranking <;> cases inferred.query.ranking <;> simp [completeRanking]
  have hcomparison : (completeComparison rules.comparison inferred.query.comparison).or
      inferred.query.comparison ≠ none ↔ rules.comparison ≠ none ∨ inferred.query.comparison ≠ none := by
    cases rules.comparison <;> cases inferred.query.comparison <;> simp [completeComparison]
  rw [hranking, hcomparison]
  cases hhint : rules.objectiveHint with
  | none =>
    refine ⟨fun h => ⟨h.question, fun h => ?_, fun h => ?_⟩, fun h => ⟨h.1, ?_, ?_⟩⟩
    · exact Or.inr (inferred.query.ranking_required h)
    · exact Or.inr (inferred.query.comparison_required h)
    · rw [hhint]
      exact fun h => nomatch h
    · rw [hhint]
      exact fun h => nomatch h
  | some objective =>
    refine ⟨fun h => ⟨h.question, fun he => ?_, fun he => ?_⟩, fun h => ⟨h.1, ?_, ?_⟩⟩
    · exact h.ranking (hhint.trans (congrArg some he))
    · exact h.comparison (hhint.trans (congrArg some he))
    · rw [hhint]
      exact fun he => h.2.1 (Option.some.inj he)
    · rw [hhint]
      exact fun he => h.2.2 (Option.some.inj he)

theorem merge_returns_iff : (∃ merged conflicts, merge fold question rules inferred = .ok (merged, conflicts)) ↔
    Detailed question rules inferred := by
  rw [detailed_iff]
  unfold merge
  dsimp only
  have hobjective : (rules.objectiveHint.or (some inferred.query.objective)).getD inferred.query.objective =
      rules.objectiveHint.getD inferred.query.objective := by
    cases rules.objectiveHint <;> rfl
  simp only [override_fst, hobjective]
  split_ifs with hquestion hranking hcomparison
  · exact iff_of_true ⟨_, _, rfl⟩ ⟨hquestion, hranking, hcomparison⟩
  · exact iff_of_false (fun ⟨_, _, h⟩ => nomatch h) fun h => hcomparison h.2.2
  · exact iff_of_false (fun ⟨_, _, h⟩ => nomatch h) fun h => hranking h.2.1
  · exact iff_of_false (fun ⟨_, _, h⟩ => nomatch h) fun h => hquestion h.1

/-! ### Merging again -/

theorem others_again {safe filters : List BusinessFilter} :
    others fold safe (safe ++ others fold safe filters) = others fold safe filters := by
  unfold others
  rw [List.filter_append, List.filter_filter, List.filter_eq_nil_iff.mpr, List.nil_append]
  · exact List.filter_congr fun item _ => Bool.and_self _
  · intro item hitem hall
    exact of_decide_eq_true (List.all_eq_true.mp hall item hitem) rfl

theorem Merged.fact_again (h : Merged fold question rules inferred merged conflicts) :
    factConflicts rules merged.query = [] := by
  have hobjective : some merged.query.objective = rules.objectiveHint.or (some inferred.query.objective) := by
    rw [h.objective]
    cases rules.objectiveHint <;> rfl
  unfold factConflicts
  rw [hobjective, h.timeExpression, h.comparison, h.ranking, completeComparison_again, completeRanking_again,
    override_again, override_again, override_again, override_again]
  rfl

theorem mergeFilters_none_iff {deterministic filters : List BusinessFilter} :
    (mergeFilters fold deterministic filters).2 = [] ↔ ∀ item ∈ filters, ∀ rule,
      ruleFilter fold (safeFilters deterministic) item = some rule → sameFilter rule item = true := by
  unfold mergeFilters
  rw [List.filterMap_eq_nil_iff]
  refine forall₂_congr fun item _ => ?_
  cases hrule : ruleFilter fold (safeFilters deterministic) item with
  | none => simp
  | some rule =>
    by_cases hsame : sameFilter rule item = true
    · simp [hsame]
    · simp [hsame]

/-- Nothing is recorded when the merged filters are merged again, if and only if filters of one subject are
equal. -/
theorem mergeFilters_again_iff {deterministic filters : List BusinessFilter} :
    (mergeFilters fold deterministic
      (safeFilters deterministic ++ others fold (safeFilters deterministic) filters)).2 = [] ↔
        Alike fold (safeFilters deterministic) := by
  rw [mergeFilters_none_iff]
  constructor
  · intro h a ha b hb hsubject
    have hlast : ∃ last, ruleFilter fold (safeFilters deterministic) a = some last := by
      rw [← Option.ne_none_iff_exists']
      exact fun hnone => ruleFilter_none.mp hnone a ha rfl
    obtain ⟨last, hlast⟩ := hlast
    have hlast' : ruleFilter fold (safeFilters deterministic) b = some last := by
      unfold ruleFilter at hlast ⊢
      rwa [← hsubject]
    have hsamea := h a (List.mem_append_left _ ha) last hlast
    have hsameb := h b (List.mem_append_left _ hb) last hlast'
    exact sameFilter_trans (sameFilter_comm hsamea) hsameb
  · intro halike item hitem rule hrule
    obtain ⟨hmem, hsubject⟩ := ruleFilter_some hrule
    rcases List.mem_append.mp hitem with hsafe | hother
    · exact halike rule hmem item hsafe hsubject
    · have hapart := (List.mem_filter.mp hother).2
      exact absurd hsubject (of_decide_eq_true (List.all_eq_true.mp hapart rule hmem))

theorem Merged.unique {merged' : Inferred} {conflicts' : List IntentConflict}
    (h : Merged fold question rules inferred merged conflicts)
    (h' : Merged fold question rules inferred merged' conflicts') : merged = merged' := by
  have hconflicts : conflicts = conflicts' := h.recorded.trans h'.recorded.symm
  have hquery : merged.query = merged'.query := by
    obtain ⟨query, _, _⟩ := merged
    obtain ⟨query', _, _⟩ := merged'
    cases query
    cases query'
    simp only [BusinessQuery.mk.injEq]
    exact ⟨h.question.trans h'.question.symm, h.objective.trans h'.objective.symm,
      h.entities.trans h'.entities.symm, h.metrics.trans h'.metrics.symm,
      h.dimensions.trans h'.dimensions.symm, h.filters.trans h'.filters.symm,
      h.timeExpression.trans h'.timeExpression.symm, h.comparison.trans h'.comparison.symm,
      h.derivations.trans h'.derivations.symm, h.ranking.trans h'.ranking.symm,
      h.requestedOutput.trans h'.requestedOutput.symm, h.ambiguities.trans h'.ambiguities.symm⟩
  have hconfidence : merged.confidence = merged'.confidence := by
    rw [h.confidence, h'.confidence, hconflicts]
  obtain ⟨query, confidence, hrange⟩ := merged
  obtain ⟨query', confidence', hrange'⟩ := merged'
  simp only at hquery hconfidence
  subst hquery hconfidence
  rfl

theorem Merged.ambiguities_again (h : Merged fold question rules inferred merged conflicts) :
    ambiguitiesOf rules merged = merged.query.ambiguities := by
  have hfirst := h.ambiguities
  unfold ambiguitiesOf at hfirst ⊢
  split_ifs at hfirst ⊢ with hnone
  · rfl
  · rw [hfirst, fromKeys_again]

theorem Merged.requestedOutput_again (h : Merged fold question rules inferred merged conflicts) :
    requestedOutputOf rules merged = merged.query.requestedOutput := by
  have hfirst := h.requestedOutput
  unfold requestedOutputOf at hfirst ⊢
  split_ifs with htable
  · split_ifs at hfirst with hempty
    · rw [hfirst] at htable
      cases htable.2
    · rw [hfirst] at htable
      exact absurd htable hempty
  · rfl

/-- With equal filters, merging again with the same rules makes the same query of it. -/
theorem Merged.again (h : Merged fold question rules inferred merged conflicts)
    (halike : Alike fold (safeFilters rules.filters)) : Merged fold question rules merged merged [] := by
  have hfilters : (mergeFilters fold rules.filters merged.query.filters).2 = [] := by
    rw [h.filters]
    exact mergeFilters_again_iff.mpr halike
  refine ⟨?_, h.question, ?_, ?_, ?_, ?_, ?_, h.ambiguities_again.symm, h.requestedOutput_again.symm, rfl, rfl,
    rfl, rfl, rfl⟩
  · rw [h.fact_again, hfilters]
    rfl
  · rw [h.objective]
    cases rules.objectiveHint <;> rfl
  · rw [h.timeExpression]
    cases rules.timeExpression <;> simp
  · rw [h.comparison, completeComparison_again]
    cases completeComparison rules.comparison inferred.query.comparison <;> simp
  · rw [h.ranking, completeRanking_again]
    cases completeRanking rules.ranking inferred.query.ranking <;> simp
  · rw [h.filters, others_again]

/-! ### The policy -/

/-- What a merge promises of its result. -/
structure Promised (fold : String → String) (rules : RuleExtraction) (inferred merged : Inferred)
    (conflicts : List IntentConflict) : Prop where
  filters : merged.query.filters = safeFilters rules.filters ++
    others fold (safeFilters rules.filters) inferred.query.filters
  objective : ∀ objective ∈ rules.objectiveHint, merged.query.objective = objective
  timeExpression : ∀ expression ∈ rules.timeExpression, merged.query.timeExpression = some expression
  comparison : ∀ comparison ∈ rules.comparison, merged.query.comparison = some { comparison with
    baseline := comparison.baseline.or (inferred.query.comparison.bind ComparisonSpec.baseline) }
  ranking : ∀ ranking ∈ rules.ranking, merged.query.ranking = some { ranking with
    metric := ranking.metric.or (inferred.query.ranking.bind RankingSpec.metric) }
  conflicts : conflicts.filterMap IntentConflict.filter? =
    inferred.query.filters.filter (Contradicts fold (safeFilters rules.filters))

/-- The merge returns what it promises, and merging that again changes nothing. -/
def KeepsPolicy (fold : String → String) (question : String) (rules : RuleExtraction) (inferred : Inferred) :
    Prop :=
  ∃ merged conflicts, merge fold question rules inferred = .ok (merged, conflicts) ∧
    Promised fold rules inferred merged conflicts ∧ merge fold question rules merged = .ok (merged, [])

theorem factConflicts_filter? (rules : RuleExtraction) (model : BusinessQuery) :
    (factConflicts rules model).filterMap IntentConflict.filter? = [] := by
  rw [List.filterMap_eq_nil_iff]
  intro conflict hconflict
  unfold factConflicts at hconflict
  simp only [List.mem_append] at hconflict
  have hvalue : ∀ {value : Fact}, conflict.modelValue = value → (∀ item, value ≠ .filter item) →
      IntentConflict.filter? conflict = none := by
    intro value hvalue hno
    unfold IntentConflict.filter?
    rw [hvalue]
    cases value <;> first | rfl | exact absurd rfl (hno _)
  rcases hconflict with ((hobjective | htime) | hcomparison) | hranking
  · obtain ⟨value, hmodel⟩ := mem_override hobjective
    exact hvalue hmodel nofun
  · obtain ⟨value, hmodel⟩ := mem_override htime
    exact hvalue hmodel nofun
  · obtain ⟨value, hmodel⟩ := mem_override hcomparison
    exact hvalue hmodel nofun
  · obtain ⟨value, hmodel⟩ := mem_override hranking
    exact hvalue hmodel nofun

theorem Merged.promised (h : Merged fold question rules inferred merged conflicts)
    (halike : Alike fold (safeFilters rules.filters)) : Promised fold rules inferred merged conflicts := by
  refine ⟨h.filters, fun objective hobjective => ?_, fun expression hexpression => ?_,
    fun comparison hcomparison => ?_, fun ranking hranking => ?_, ?_⟩
  · rw [h.objective, Option.mem_def.mp hobjective]
    rfl
  · rw [h.timeExpression, Option.mem_def.mp hexpression]
    rfl
  · rw [h.comparison, Option.mem_def.mp hcomparison]
    obtain ⟨kind, baseline⟩ := comparison
    cases inferred.query.comparison <;> cases baseline <;> simp [completeComparison]
  · rw [h.ranking, Option.mem_def.mp hranking]
    obtain ⟨direction, limit, metric, hlimit⟩ := ranking
    cases inferred.query.ranking <;> cases metric <;> simp [completeRanking]
  · rw [h.recorded, List.filterMap_append, factConflicts_filter?, List.nil_append, filterMap_filter?]
    refine List.filter_congr fun item _ => ?_
    rw [Bool.eq_iff_iff, contradicts_iff halike]
    cases ruleFilter fold (safeFilters rules.filters) item <;> simp

theorem alike_of_again (h : Merged fold question rules inferred merged conflicts)
    (hagain : merge fold question rules merged = .ok (merged, [])) :
    Alike fold (safeFilters rules.filters) := by
  have hrecorded := (merge_ok hagain).recorded
  rw [h.fact_again, List.nil_append, h.filters] at hrecorded
  exact mergeFilters_again_iff.mp hrecorded.symm

/-- **The merge keeps its policy if and only if filters of the rules that have one subject are equal, and the
merged objective has its details.** -/
theorem merge_policy_iff (fold : String → String) (question : String) (rules : RuleExtraction)
    (inferred : Inferred) : KeepsPolicy fold question rules inferred ↔
      Alike fold (safeFilters rules.filters) ∧ Detailed question rules inferred := by
  constructor
  · rintro ⟨merged, conflicts, hmerge, -, hagain⟩
    exact ⟨alike_of_again (merge_ok hmerge) hagain, merge_returns_iff.mp ⟨merged, conflicts, hmerge⟩⟩
  · rintro ⟨halike, hdetailed⟩
    have hreturns : ∃ merged conflicts, merge fold question rules inferred = .ok (merged, conflicts) :=
      merge_returns_iff.mpr hdetailed
    obtain ⟨merged, conflicts, hmerge⟩ := hreturns
    have h := merge_ok hmerge
    have hagain := h.again halike
    refine ⟨merged, conflicts, hmerge, h.promised halike, ?_⟩
    have hdetailed' : Detailed question rules merged := by
      refine detailed_iff.mpr ⟨hdetailed.question, fun he => ?_, fun he => ?_⟩
      · rw [← hagain.ranking]
        exact merged.query.ranking_required (hagain.objective.trans he)
      · rw [← hagain.comparison]
        exact merged.query.comparison_required (hagain.objective.trans he)
    have hreturns : ∃ again conflicts', merge fold question rules merged = .ok (again, conflicts') :=
      merge_returns_iff.mpr hdetailed'
    obtain ⟨merged', conflicts', hmerge'⟩ := hreturns
    have h' := merge_ok hmerge'
    rw [hmerge', h'.unique hagain, h'.recorded, ← hagain.recorded]

/-! ### Two filters of one subject -/

/-- An amount of at least, or at most, so much. -/
def amountFilter (operator : String) (value : Int) (h : 1 ≤ operator.length) : BusinessFilter where
  subject := "金额"
  operator := operator
  value := .int value
  subject_length := by decide
  operator_length := h

def betweenFilters : List BusinessFilter :=
  [amountFilter ">=" 100 (by decide), amountFilter "<=" 200 (by decide)]

def betweenRules : RuleExtraction where
  question := "金额>=100，金额<=200的订单"
  filters := betweenFilters
  question_length := by decide

/-- The model finds the same filters. -/
def betweenInferred : Inferred where
  query :=
    { question := "金额>=100，金额<=200的订单"
      objective := .lookup
      filters := betweenFilters
      question_length := by decide
      ranking_required := Contracts.lookup_ranking
      comparison_required := Contracts.lookup_comparison }
  confidence := 1
  confidence_range := Contracts.fullScore_range

/-- The filter that equals the first of two rules is reported as a conflict with the second. -/
theorem equal_filter_conflicts :
    ¬∀ fold question rules inferred, KeepsPolicy fold question rules inferred := by
  intro h
  obtain ⟨merged, conflicts, hmerge, -, hagain⟩ :=
    h id betweenRules.question betweenRules betweenInferred
  have halike := alike_of_again (merge_ok hmerge) hagain
  exact absurd halike (by decide)

end Merge

end Semantic.BusinessQueryMergePolicy
