import Qaneris.Contracts.Query

/-!
# The Ask contract

What one question to one source is given and what it answers: the request, the response, and the
public events in between. Times are counted in microseconds.
-/

namespace Contracts

open Infra (Json)

abbrev Instant := Int

/-- One row of a result: its values by column. -/
abbrev Row := List (String × Json)

inductive AskStatus where
  | completed
  | clarificationRequired
  | failed
  deriving DecidableEq, Repr

@[ext] structure AskClarification where
  question : String
  options : List String := []
  actionable : Bool := true
  question_length : 1 ≤ question.length
  deriving Repr

instance : DecidableEq AskClarification := fun _ _ => decidable_of_iff' _ AskClarification.ext_iff

def AskClarification.make (question : String) (options : List String) : Option AskClarification :=
  if h : 1 ≤ question.length then some { question, options, question_length := h } else none

structure ErrorDetail where
  code : String
  message : String
  deriving DecidableEq, Repr

/-- A result with the datasource it is from: the `datasource_id` of a grounded result, the `source` of
a normalized one. -/
structure AskResult where
  columns : List String
  rows : List Row
  rowCount : Nat
  truncated : Bool := false
  source : Option String := none
  deriving DecidableEq, Repr

structure ExecutionEvidence where
  datasourceId : String
  scanVersion : Option Int := none
  deriving DecidableEq, Repr

structure QueryPlanStep where
  id : String
  datasourceId : String
  dataset : String
  purpose : String
  query : String
  queryLanguage : String := "sql"
  deriving DecidableEq, Repr

/-- `GroundedQueryPlan | list[QueryPlanStep]` -/
inductive AskPlan where
  | grounded (plan : GroundedQueryPlan)
  | steps (steps : List QueryPlanStep)
  deriving DecidableEq, Repr

structure AskResponse where
  question : String
  status : AskStatus := .completed
  answer : String := ""
  businessQuery : Option BusinessQuery := none
  clarification : List AskClarification := []
  plan : Option AskPlan := none
  result : Option AskResult := none
  evidence : Option ExecutionEvidence := none
  error : Option ErrorDetail := none
  analysis : List (String × Json) := []
  deriving DecidableEq, Repr

/-- `response.clarification[0].question if response.clarification else response.answer` -/
def AskResponse.clarificationText (response : AskResponse) : String :=
  match response.clarification.head? with
  | some item => item.question
  | none => response.answer

@[ext] structure AskRequest where
  question : String
  workspaceId : String := "default"
  datasourceId : Option String := none
  sql : Option String := none
  maxRows : Int := 200
  question_length : 1 ≤ question.length
  maxRows_range : 1 ≤ maxRows ∧ maxRows ≤ 1000
  deriving Repr

instance : DecidableEq AskRequest := fun _ _ => decidable_of_iff' _ AskRequest.ext_iff

/-- `AskRequest(…)`; `none` where the contract refuses the values. -/
def AskRequest.make (question workspaceId : String) (datasourceId : Option String) (maxRows : Int) :
    Option AskRequest :=
  if h : 1 ≤ question.length ∧ 1 ≤ maxRows ∧ maxRows ≤ 1000 then
    some { question, workspaceId, datasourceId, maxRows
           question_length := h.1, maxRows_range := h.2 }
  else none

inductive AskEventType where
  | accepted
  | intentReady
  | retrievalReady
  | groundingReady
  | clarificationRequired
  | planReady
  | queryReady
  | executionStarted
  | resultReady
  | error
  | done
  deriving DecidableEq, Repr

/-- The name an event carries on the wire. -/
def AskEventType.value : AskEventType → String
  | .accepted => "accepted"
  | .intentReady => "intent_ready"
  | .retrievalReady => "retrieval_ready"
  | .groundingReady => "grounding_ready"
  | .clarificationRequired => "clarification_required"
  | .planReady => "plan_ready"
  | .queryReady => "query_ready"
  | .executionStarted => "execution_started"
  | .resultReady => "result_ready"
  | .error => "error"
  | .done => "done"

abbrev CorrelationId := { id : String // 1 ≤ id.length }

structure AskEvent where
  eventType : AskEventType
  sequence : Nat
  payload : Json
  correlationId : CorrelationId
  sequence_range : 1 ≤ sequence
  deriving DecidableEq, Repr

end Contracts
