import Qaneris.Contracts.Ask

/-!
# Conversation contracts

A conversation, its messages, and what it remembers of the questions that were answered in it.
-/

namespace Conversations

open Contracts (AskResponse BusinessFilter BusinessQuery)

abbrev Instant := Contracts.Instant

structure Conversation where
  conversationId : String
  workspaceId : String := "default"
  datasourceScope : List String := []
  status : String := "active"
  deriving DecidableEq, Repr

inductive Role where
  | user
  | assistant
  deriving DecidableEq, Repr

inductive MessageKind where
  | normal
  | clarification
  deriving DecidableEq, Repr

structure Message where
  messageId : String
  conversationId : String
  role : Role
  content : String
  runId : Option String := none
  messageKind : MessageKind := .normal
  createdAt : Instant
  deriving DecidableEq, Repr

/-- A finding of a diagnosis as the memory keeps it. -/
@[ext] structure DiagnosticFinding where
  findingId : String
  runId : String
  targetSummary : String
  statement : String
  metric : List String := []
  dimensions : List String := []
  filters : List BusinessFilter := []
  evidenceRefs : List String
  datasourceId : String
  scanVersion : Option Int := none
  observedAt : Instant
  evidenceRefs_length : 1 ≤ evidenceRefs.length
  deriving Repr

instance : DecidableEq DiagnosticFinding := fun _ _ => decidable_of_iff' _ DiagnosticFinding.ext_iff

structure ResultShape where
  columns : List String
  rowCount : Nat
  truncated : Bool
  deriving DecidableEq, Repr

structure SemanticMemory where
  confirmedBusinessQuery : Option BusinessQuery := none
  selectedDatasourceIds : List String := []
  activeMetrics : List String := []
  activeDimensions : List String := []
  activeTimeExpression : Option String := none
  activeFilters : List BusinessFilter := []
  requestedOutput : List Contracts.RequestedOutput := []
  lastRunId : Option String := none
  lastResultShape : Option ResultShape := none
  evidenceRefs : List String := []
  diagnosticFindings : List DiagnosticFinding := []
  updatedAt : Instant
  deriving DecidableEq, Repr

/-- `confirmed_memory(response, run_id, previous)` for a response with the business query `query`. -/
def confirmedMemory (response : AskResponse) (query : BusinessQuery) (runId : String)
    (previous : SemanticMemory) (now : Instant) : SemanticMemory :=
  { confirmedBusinessQuery := some query
    selectedDatasourceIds := (response.evidence.map Contracts.ExecutionEvidence.datasourceId).toList
    activeMetrics := query.metrics
    activeDimensions := query.dimensions
    activeTimeExpression := query.timeExpression
    activeFilters := query.filters
    requestedOutput := query.requestedOutput
    lastRunId := some runId
    lastResultShape := response.result.map fun result =>
      { columns := result.columns, rowCount := result.rowCount, truncated := result.truncated }
    evidenceRefs := if response.evidence.isSome then ["evidence:" ++ runId] else []
    diagnosticFindings := previous.diagnosticFindings
    updatedAt := now }

end Conversations
