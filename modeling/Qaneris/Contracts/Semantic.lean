import Qaneris.Infra.Json

/-!
# Semantic contracts

The business query that intent understanding makes of a question. A constraint of a field is a field
here, so a query that breaks one cannot be built.
-/

namespace Contracts

open Infra (Json)

inductive AggregateFunction where
  | count
  | sum
  | average
  | minimum
  | maximum
  deriving DecidableEq, Repr

inductive BusinessObjective where
  | lookup
  | comparison
  | trend
  | ranking
  | diagnosis
  deriving DecidableEq, Repr

inductive RequestedOutput where
  | scalar
  | table
  | trend
  | explanation
  deriving DecidableEq, Repr

inductive ComparisonType where
  | yearOverYear
  | periodOverPeriod
  | group
  | baseline
  deriving DecidableEq, Repr

inductive RankingDirection where
  | top
  | bottom
  deriving DecidableEq, Repr

inductive SemanticAssetType where
  | businessTerm
  | metric
  | dimension
  | datasource
  | dataObject
  | field
  | relationship
  | historicalQuery
  deriving DecidableEq, Repr

structure BusinessFilter where
  subject : String
  operator : String
  value : Json
  subject_length : 1 ≤ subject.length
  operator_length : 1 ≤ operator.length
  deriving DecidableEq, Repr

structure ComparisonSpec where
  comparisonType : ComparisonType
  baseline : Option String := none
  deriving DecidableEq, Repr

structure DerivationSpec where
  operation : String
  metric : Option String := none
  parameters : List (String × Json) := []
  operation_length : 1 ≤ operation.length
  deriving DecidableEq, Repr

structure RankingSpec where
  direction : RankingDirection
  limit : Nat
  metric : Option String := none
  limit_range : 1 ≤ limit ∧ limit ≤ 1000
  deriving DecidableEq, Repr

structure BusinessQuery where
  question : String
  objective : BusinessObjective
  entities : List String := []
  metrics : List String := []
  dimensions : List String := []
  filters : List BusinessFilter := []
  timeExpression : Option String := none
  comparison : Option ComparisonSpec := none
  derivations : List DerivationSpec := []
  ranking : Option RankingSpec := none
  requestedOutput : List RequestedOutput := []
  ambiguities : List String := []
  question_length : 1 ≤ question.length
  ranking_required : objective = .ranking → ranking ≠ none
  comparison_required : objective = .comparison → comparison ≠ none
  deriving DecidableEq, Repr

/-! ## Constants within the bounds -/

/-- A lookup needs no ranking. -/
theorem lookup_ranking : BusinessObjective.lookup = .ranking → (none : Option RankingSpec) ≠ none :=
  fun h => by cases h

theorem lookup_comparison : BusinessObjective.lookup = .comparison → (none : Option ComparisonSpec) ≠ none :=
  fun h => by cases h

theorem fullScore_range : 0 ≤ (1 : Rat) ∧ (1 : Rat) ≤ 1 := by decide

/-- The default of a limit is one. -/
theorem defaultLimit_range : 1 ≤ (200 : Int) ∧ (200 : Int) ≤ 1000 := by decide

theorem defaultMaxRows_range : 1 ≤ 200 ∧ 200 ≤ 1000 := by decide

theorem firstSequence_range : 1 ≤ 1 := by decide

theorem oneId_length (id : String) : 1 ≤ [id].length := Nat.le_refl 1

theorem oneId_unique (id : String) : [id].Nodup := List.pairwise_singleton _ id

theorem length_default : 1 ≤ "default".length := by decide
theorem length_plan : 1 ≤ "plan".length := by decide
theorem length_orders : 1 ≤ "orders".length := by decide
theorem length_customers : 1 ≤ "customers".length := by decide
theorem length_customerId : 1 ≤ "customer_id".length := by decide
theorem length_id : 1 ≤ "id".length := by decide
theorem length_amount : 1 ≤ "amount".length := by decide
theorem length_value : 1 ≤ "value".length := by decide
theorem length_count : 1 ≤ "count".length := by decide
theorem length_ds1 : 1 ≤ "ds_1".length := by decide
theorem length_ask1 : 1 ≤ "ask-1".length := by decide
theorem length_sales : 1 ≤ "销售额".length := by decide

end Contracts
