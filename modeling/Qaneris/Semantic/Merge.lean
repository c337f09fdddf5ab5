import Qaneris.Infra.Canonical
import Qaneris.Infra.Unicode
import Qaneris.Semantic.Models

/-!
# The merge of rules and model

`BusinessQueryMergePolicy`: what the rules extract from a question goes before what a model infers. The
folding of cases is a parameter.
-/

namespace Semantic.BusinessQueryMergePolicy

open Contracts
open Infra (Json isAsciiDigit isAsciiLower isAsciiUpper)

/-- The query of a model, with how sure the model is of it. -/
@[ext] structure Inferred where
  query : BusinessQuery
  confidence : Rat
  confidence_range : 0 ≤ confidence ∧ confidence ≤ 1

instance : DecidableEq Inferred := fun _ _ => decidable_of_iff' _ Inferred.ext_iff

/-! ## Filters -/

/-- `[A-Za-z_][A-Za-z0-9_]*` -/
def isIdentifier : List Char → Bool
  | [] => false
  | c :: text => (isAsciiLower c || isAsciiUpper c || c = '_') &&
      text.all fun c => isAsciiLower c || isAsciiUpper c || isAsciiDigit c || c = '_'

/-- `_QUALIFIED_IDENTIFIER`: two identifiers with a dot between them. -/
def qualifiedIdentifier (text : String) : Bool :=
  match text.toList.dropWhile (· ≠ '.') with
  | [] => false
  | _ :: path => isIdentifier (text.toList.takeWhile (· ≠ '.')) && isIdentifier path

/-- `a == b` -/
def sameFilter (a b : BusinessFilter) : Bool :=
  a.subject = b.subject && a.operator = b.operator && Json.same a.value b.value

/-- The filters of the rules that are about business terms. -/
def safeFilters (deterministic : List BusinessFilter) : List BusinessFilter :=
  deterministic.filter fun item => !qualifiedIdentifier item.subject

section Filters

variable (fold : String → String)

/-- `deterministic_by_subject.get(…)`: the last filter of the subject. -/
def ruleFilter (safe : List BusinessFilter) (item : BusinessFilter) : Option BusinessFilter :=
  (safe.filter fun rule => fold rule.subject = fold item.subject).getLast?

def filterConflict (rule item : BusinessFilter) : IntentConflict where
  field := "filters." ++ item.subject
  deterministicValue := .filter rule
  modelValue := .filter item

/-- `_merge_filters` -/
def mergeFilters (deterministic inferred : List BusinessFilter) :
    List BusinessFilter × List IntentConflict :=
  let safe := safeFilters deterministic
  (safe ++ inferred.filter fun item => (ruleFilter fold safe item).isNone,
    inferred.filterMap fun item =>
      match ruleFilter fold safe item with
      | none => none
      | some rule => if sameFilter rule item then none else some (filterConflict rule item))

end Filters

/-! ## The other facts -/

section Override

variable {α : Type} [DecidableEq α]

/-- `_override`: what the rules say, and a conflict when the model says something else. -/
def override (fact : α → Fact) (field : String) (modelValue deterministic : Option α) :
    Option α × List IntentConflict :=
  match deterministic, modelValue with
  | none, _ => (modelValue, [])
  | some value, none => (some value, [])
  | some value, some inferred =>
    (some value, if inferred = value then [] else
      [{ field, deterministicValue := fact value, modelValue := fact inferred }])

end Override

/-- A comparison without a baseline is completed from the model. -/
def completeComparison (rule model : Option ComparisonSpec) : Option ComparisonSpec :=
  match rule, model with
  | some rule, some model =>
    if rule.baseline = none then some { rule with baseline := model.baseline } else some rule
  | rule, _ => rule

/-- A ranking without a metric is completed from the model. -/
def completeRanking (rule model : Option RankingSpec) : Option RankingSpec :=
  match rule, model with
  | some rule, some model => if rule.metric = none then some { rule with metric := model.metric } else some rule
  | rule, _ => rule

/-- `rule_ambiguities` -/
def ruleAmbiguities (rules : RuleExtraction) : List String :=
  (rules.filters.filter fun item => qualifiedIdentifier item.subject).map fun item =>
    "物理字段表达 " ++ item.subject ++ " 需转换为业务过滤条件"

/-- `list(dict.fromkeys(…))`: of equal texts, the first. -/
def fromKeys : List String → List String
  | [] => []
  | text :: texts => text :: (fromKeys texts).filter (· ≠ text)

/-! ## The merge -/

section Merge

variable (fold : String → String) (question : String) (rules : RuleExtraction) (inferred : Inferred)

def ambiguitiesOf : List String :=
  if ruleAmbiguities rules = [] then inferred.query.ambiguities
  else fromKeys (inferred.query.ambiguities ++ ruleAmbiguities rules)

def requestedOutputOf : List RequestedOutput :=
  if rules.ranking.isSome ∧ inferred.query.requestedOutput = [] then [.table]
  else inferred.query.requestedOutput

/-- `0.8` -/
def conflictConfidence : Rat where
  num := 4
  den := 5
  den_nz := by decide
  reduced := by decide

/-- `min(confidence, 0.8)` where there is a conflict. -/
def confidenceOf (conflicts : List IntentConflict) : Rat :=
  if conflicts ≠ [] ∧ conflictConfidence < inferred.confidence then conflictConfidence
  else inferred.confidence

theorem confidenceOf_range (conflicts : List IntentConflict) :
    0 ≤ confidenceOf inferred conflicts ∧ confidenceOf inferred conflicts ≤ 1 := by
  unfold confidenceOf
  split
  · decide
  · exact inferred.confidence_range

/-- `merge` -/
def merge : Except String (Inferred × List IntentConflict) :=
  let model := inferred.query
  let hint := override .objective "objective" (some model.objective) rules.objectiveHint
  let objective := hint.1.getD model.objective
  let time := override .timeExpression "time_expression" model.timeExpression rules.timeExpression
  let comparison := override .comparison "comparison" model.comparison
    (completeComparison rules.comparison model.comparison)
  let ranking := override .ranking "ranking" model.ranking (completeRanking rules.ranking model.ranking)
  let filters := mergeFilters fold rules.filters model.filters
  let conflicts := hint.2 ++ time.2 ++ comparison.2 ++ ranking.2 ++ filters.2
  if hquestion : 1 ≤ question.length then
    if hranking : objective = .ranking → ranking.1 ≠ none then
      if hcomparison : objective = .comparison → comparison.1 ≠ none then
        .ok ({ query :=
                { model with
                  question, objective
                  filters := filters.1
                  timeExpression := time.1
                  comparison := comparison.1
                  ranking := ranking.1
                  ambiguities := ambiguitiesOf rules inferred
                  requestedOutput := requestedOutputOf rules inferred
                  question_length := hquestion
                  ranking_required := hranking
                  comparison_required := hcomparison }
               confidence := confidenceOf inferred conflicts
               confidence_range := confidenceOf_range inferred conflicts }, conflicts)
      else .error "comparison objective requires comparison details"
    else .error "ranking objective requires ranking details"
  else .error "question: String should have at least 1 character"

end Merge

end Semantic.BusinessQueryMergePolicy
