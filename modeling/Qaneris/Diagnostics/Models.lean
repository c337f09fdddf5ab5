import Qaneris.Runtime.Models

/-!
# Diagnostic contracts

The budget of a diagnosis, what its model decides, and the durable state of its evidence tasks. A
constraint of a field is a field here.
-/

namespace Diagnostics

open Contracts (AskResponse Instant Row)
open Infra (Json)

structure DiagnosticBudget where
  maxEvidenceQuestions : Int := 5
  maxAdaptiveRounds : Int := 2
  maxQuestionsPerRound : Int := 3
  maxObservationRows : Nat := 50
  deriving DecidableEq, Repr

@[ext] structure EvidenceQuestion where
  question : String
  purpose : String
  priority : Int := 1
  question_length : 1 ≤ question.length ∧ question.length ≤ 1000
  purpose_length : 1 ≤ purpose.length ∧ purpose.length ≤ 200
  priority_pos : 1 ≤ priority
  deriving Repr

instance : DecidableEq EvidenceQuestion := fun _ _ => decidable_of_iff' _ EvidenceQuestion.ext_iff

/-- A decision of the model; each action has what it needs. -/
inductive DiagnosticDecision where
  | query (questions : List EvidenceQuestion) (clarification : Option String) (h : questions ≠ [])
  | clarify (clarification : String) (h : clarification ≠ "")
  | stop (clarification : Option String)
  deriving DecidableEq, Repr

inductive TaskStatus where
  | planned
  | running
  | completed
  | waitingUser
  | failed
  | skipped
  deriving DecidableEq, Repr

structure DiagnosticTask where
  id : String
  runId : String
  round : Int
  ordinal : Nat
  question : String
  purpose : String
  status : TaskStatus := .planned
  attempt : Nat := 0
  askResponseJson : Option AskResponse := none
  evidenceRef : Option String := none
  failureCode : Option String := none
  failureMessage : Option String := none
  retryable : Bool := false
  revision : Nat := 0
  completedAt : Option Instant := none
  deriving DecidableEq, Repr

structure DiagnosticCheckpoint where
  runId : String
  currentRound : Int := 0
  questionsPlanned : Nat := 0
  questionsCompleted : Nat := 0
  remainingBudget : Int := 0
  diagnosticDatasourceId : Option String := none
  pendingTaskId : Option String := none
  verifiedObservationRefs : List String := []
  revision : Nat := 0
  deriving DecidableEq, Repr

/-- What a completed task has shown: rows that were verified, or the reason why there are none. -/
structure DiagnosticObservation where
  observationId : String
  taskId : String
  question : String
  purpose : String
  verified : Bool
  reason : Option String := none
  safeAnswer : String := ""
  resultShape : Option Conversations.ResultShape := none
  boundedRows : List Row := []
  evidenceRef : Option String := none
  datasourceId : Option String := none
  scanVersion : Option Int := none
  observedAt : Instant
  deriving DecidableEq, Repr

structure DiagnosticPlanningContext where
  question : String
  semanticMemory : Conversations.SemanticMemory
  observations : List DiagnosticObservation
  round : Int
  remainingBudget : Int
  deriving DecidableEq, Repr

structure DiagnosticSynthesisContext where
  question : String
  observations : List DiagnosticObservation
  unavailable : List DiagnosticObservation := []
  deriving DecidableEq, Repr

end Diagnostics
