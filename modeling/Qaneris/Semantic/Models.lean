import Qaneris.Contracts.Grounding

/-!
# Rule extractions, retrieval results and clarifications
-/

namespace Semantic

open Contracts
open Infra (Json)

/-- What the rules extract from a question. -/
@[ext] structure RuleExtraction where
  question : String
  objectiveHint : Option BusinessObjective := none
  /-- Days, counted from 1 January of the year 1. -/
  explicitDates : List Nat := []
  timeExpression : Option String := none
  filters : List BusinessFilter := []
  comparison : Option ComparisonSpec := none
  ranking : Option RankingSpec := none
  numericValues : List Json := []
  requestedDatasourceId : Option String := none
  question_length : 1 ≤ question.length
  deriving Repr

instance : DecidableEq RuleExtraction := fun _ _ => decidable_of_iff' _ RuleExtraction.ext_iff

/-- What the rules or a model say of one part of a query. -/
inductive Fact where
  | objective (value : BusinessObjective)
  | timeExpression (value : String)
  | comparison (value : ComparisonSpec)
  | ranking (value : RankingSpec)
  | filter (value : BusinessFilter)
  deriving DecidableEq, Repr

structure IntentConflict where
  field : String
  deterministicValue : Fact
  modelValue : Fact
  resolution : String := "rule"
  deriving DecidableEq, Repr

inductive SemanticRetrievalPath where
  | trusted
  | exploratory
  deriving DecidableEq, Repr

@[ext] structure SemanticRetrievalResult where
  businessQuery : BusinessQuery
  candidates : List SemanticCandidate := []
  workspaceId : String := "default"
  requestedDatasourceId : Option String := none
  retrievalPath : SemanticRetrievalPath := .trusted
  scanVersion : Option Int := none
  workspaceId_length : 1 ≤ workspaceId.length
  deriving Repr

instance : DecidableEq SemanticRetrievalResult := fun _ _ => decidable_of_iff' _ SemanticRetrievalResult.ext_iff

@[ext] structure ClarificationOption where
  optionId : String
  label : String
  description : Option String := none
  optionId_length : 1 ≤ optionId.length
  label_length : 1 ≤ label.length
  deriving Repr

instance : DecidableEq ClarificationOption := fun _ _ => decidable_of_iff' _ ClarificationOption.ext_iff

@[ext] structure ClarificationRequest where
  clarificationId : String
  field : String
  question : String
  options : List ClarificationOption := []
  required : Bool := true
  clarificationId_length : 1 ≤ clarificationId.length
  field_length : 1 ≤ field.length
  question_length : 1 ≤ question.length
  deriving Repr

instance : DecidableEq ClarificationRequest := fun _ _ => decidable_of_iff' _ ClarificationRequest.ext_iff

/-- `ClarificationRequest(…)` -/
def ClarificationRequest.make (clarificationId field question : String)
    (options : List ClarificationOption) : Except String ClarificationRequest :=
  if h : 1 ≤ clarificationId.length ∧ 1 ≤ field.length ∧ 1 ≤ question.length then
    .ok { clarificationId, field, question, options, clarificationId_length := h.1,
          field_length := h.2.1, question_length := h.2.2 }
  else .error "String should have at least 1 character"

/-- `ClarificationOption(…)` -/
def ClarificationOption.make (optionId label : String) (description : Option String) :
    Except String ClarificationOption :=
  if h : 1 ≤ optionId.length ∧ 1 ≤ label.length then
    .ok { optionId, label, description, optionId_length := h.1, label_length := h.2 }
  else .error "String should have at least 1 character"

end Semantic
