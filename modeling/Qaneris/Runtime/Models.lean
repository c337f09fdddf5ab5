import Qaneris.Conversation.Repository
import Qaneris.Federation.Models

/-!
# Runs

The durable checkpoint of one question asked in a conversation, the public events of a run, and what
the code around it raises.
-/

namespace Runtime

open Contracts (AskResponse AskStatus Instant)
open Infra (Json)

inductive RunStatus where
  | created
  | contextualizing
  | discovering
  | planning
  | executing
  | answering
  | waitingUser
  | completed
  | failed
  | cancelled
  | blocked
  deriving DecidableEq, Repr

def RunStatus.value : RunStatus → String
  | .created => "CREATED"
  | .contextualizing => "CONTEXTUALIZING"
  | .discovering => "DISCOVERING"
  | .planning => "PLANNING"
  | .executing => "EXECUTING"
  | .answering => "ANSWERING"
  | .waitingUser => "WAITING_USER"
  | .completed => "COMPLETED"
  | .failed => "FAILED"
  | .cancelled => "CANCELLED"
  | .blocked => "BLOCKED"

/-- `status.value.lower()` -/
def RunStatus.stage : RunStatus → String
  | .created => "created"
  | .contextualizing => "contextualizing"
  | .discovering => "discovering"
  | .planning => "planning"
  | .executing => "executing"
  | .answering => "answering"
  | .waitingUser => "waiting_user"
  | .completed => "completed"
  | .failed => "failed"
  | .cancelled => "cancelled"
  | .blocked => "blocked"

inductive RunKind where
  | normal
  | diagnostic
  | federated
  deriving DecidableEq, Repr

/-! ## Failures -/

/-- The classes that an `except` clause or an `isinstance` of the runtime tells apart. A
`QanerisError` is a `ValueError` too. -/
inductive FailureClass where
  | valueError
  | qanerisError
  | diagnosticFailure
  | federationFailure
  | other
  deriving DecidableEq, Repr

/-- `_drive` and the resolver name these failures by their text. -/
def contextCodes : List String :=
  ["conversation_context_model_unavailable", "context_rule_preservation_failed",
   "invalid_context_resolution", "multi_source_scope_requires_iq05"]

def blockedCodes : List String :=
  ["conversation_context_model_unavailable", "multi_source_scope_requires_iq05"]

def retryableCodes : List String :=
  ["model_invocation_failed", "graph_unavailable", "datasource_unavailable", "timeout",
   "temporary_unavailable", "rate_limited", "transient_network"]

/-- An exception: `text` is `str(error)` and `code` its attribute of that name, if it has one. -/
structure RawFailure where
  typeName : String
  text : String
  cls : FailureClass := .other
  code : Option String := none
  blocked : Bool := false
  retryable : Bool := false
  deriving DecidableEq, Repr

namespace RawFailure

def failureCode (e : RawFailure) : String :=
  if e.text ∈ contextCodes then e.text else e.code.getD "run_failed"

/-- `isinstance(error, (DiagnosticFailure, FederationFailure))` -/
def isCoordinatorFailure (e : RawFailure) : Bool :=
  e.cls = .diagnosticFailure ∨ e.cls = .federationFailure

def blocks (e : RawFailure) : Bool :=
  e.failureCode ∈ blockedCodes ∨ (e.isCoordinatorFailure ∧ e.blocked)

def retries (e : RawFailure) : Bool :=
  e.failureCode ∈ retryableCodes ∨ (e.isCoordinatorFailure ∧ e.retryable)

/-- The failure blocks its run or lets it be retried, not both. -/
def OneWay (e : RawFailure) : Prop := ¬ (e.blocks ∧ e.retries)

theorem blockedCodes_not_retryable {code : String} (h : code ∈ blockedCodes) :
    code ∉ retryableCodes := by
  revert h
  simp only [blockedCodes, List.mem_cons, List.not_mem_nil, or_false]
  rintro (rfl | rfl) <;> decide

/-- A failure whose flags say nothing goes by its code. -/
theorem oneWay_of_flags {e : RawFailure} (hb : e.blocked = false) (hr : e.retryable = false) :
    e.OneWay := by
  rintro ⟨hblocks, hretries⟩
  simp only [blocks, retries, hb, hr, Bool.false_eq_true, and_false, or_false,
    decide_eq_true_eq] at hblocks hretries
  exact blockedCodes_not_retryable hblocks hretries

/-- The failures of other classes have no such flags. -/
theorem oneWay_of_cls {e : RawFailure} (h : e.isCoordinatorFailure = false) : e.OneWay := by
  rintro ⟨hblocks, hretries⟩
  simp only [blocks, retries, h, Bool.false_eq_true, false_and, or_false,
    decide_eq_true_eq] at hblocks hretries
  exact blockedCodes_not_retryable hblocks hretries

/-- A failure that only blocks, of a code that nobody retries. -/
theorem oneWay_of_blocked {e : RawFailure} (hr : e.retryable = false)
    (hc : e.failureCode ∉ retryableCodes) : e.OneWay := by
  rintro ⟨-, hretries⟩
  simp only [retries, hr, Bool.false_eq_true, and_false, or_false, decide_eq_true_eq] at hretries
  exact hc hretries

/-- A failure that may be retried, of a code that does not block. -/
theorem oneWay_of_retryable {e : RawFailure} (hb : e.blocked = false)
    (hc : e.retryable = true → e.failureCode ∉ blockedCodes) : e.OneWay := by
  rintro ⟨hblocks, hretries⟩
  simp only [blocks, retries, hb, Bool.false_eq_true, and_false, or_false,
    decide_eq_true_eq] at hblocks hretries
  rcases hretries with hcode | ⟨-, hr⟩
  · exact blockedCodes_not_retryable hblocks hcode
  · exact hc hr hblocks

end RawFailure

/-- What is raised around a run: no `raise` gives a failure that blocks the run a code or a flag by
which it can be retried. -/
structure Failure extends RawFailure where
  oneWay : toRawFailure.OneWay
  deriving DecidableEq, Repr

namespace Failure

def value (text : String) : Failure :=
  ⟨⟨"ValueError", text, .valueError, none, false, false⟩, RawFailure.oneWay_of_flags rfl rfl⟩

/-- What pydantic raises for a value that a contract refuses. -/
def validation : Failure :=
  ⟨⟨"ValidationError", "", .valueError, none, false, false⟩, RawFailure.oneWay_of_flags rfl rfl⟩

def runtime (text : String) : Failure :=
  ⟨⟨"RuntimeError", text, .other, none, false, false⟩, RawFailure.oneWay_of_flags rfl rfl⟩

def key (key : String) : Failure :=
  ⟨⟨"KeyError", "'" ++ key ++ "'", .other, none, false, false⟩, RawFailure.oneWay_of_flags rfl rfl⟩

def integrity : Failure :=
  ⟨⟨"IntegrityError", "", .other, none, false, false⟩, RawFailure.oneWay_of_flags rfl rfl⟩

def stopIteration : Failure :=
  ⟨⟨"StopIteration", "", .other, none, false, false⟩, RawFailure.oneWay_of_flags rfl rfl⟩

/-- An attribute or an item of `None`. -/
def missing : Failure :=
  ⟨⟨"AttributeError", "", .other, none, false, false⟩, RawFailure.oneWay_of_flags rfl rfl⟩

/-- `sqlite3.OperationalError` -/
def operational : Failure :=
  ⟨⟨"OperationalError", "", .other, none, false, false⟩, RawFailure.oneWay_of_flags rfl rfl⟩

/-- The two failures of the coordinators: `DiagnosticFailure` and `FederationFailure`. -/
def coordinator (cls : FailureClass) (code : String) (blocked retryable : Bool) : RawFailure :=
  ⟨if cls = .diagnosticFailure then "DiagnosticFailure" else "FederationFailure", code, cls,
    some code, blocked, retryable⟩

theorem coordinator_failureCode (cls : FailureClass) (code : String) (blocked retryable : Bool) :
    (coordinator cls code blocked retryable).failureCode = code := by
  show (if code ∈ contextCodes then code else code) = code
  exact ite_self code

/-- `DiagnosticFailure(code)` -/
def diagnostic (code : String) : Failure :=
  ⟨coordinator .diagnosticFailure code false false, RawFailure.oneWay_of_flags rfl rfl⟩

/-- `DiagnosticFailure(code, blocked=True)` -/
def diagnosticBlocked (code : String) (h : code ∉ retryableCodes := by decide) : Failure :=
  ⟨coordinator .diagnosticFailure code true false,
    RawFailure.oneWay_of_blocked rfl (by rwa [coordinator_failureCode])⟩

/-- `DiagnosticFailure(code, retryable=code in transient)` -/
def diagnosticTransient (code : String) (transient : List String)
    (h : ∀ c ∈ blockedCodes, c ∉ transient := by decide) : Failure :=
  ⟨coordinator .diagnosticFailure code false (decide (code ∈ transient)),
    RawFailure.oneWay_of_retryable rfl fun hr hb => by
      rw [coordinator_failureCode] at hb
      exact h code hb (of_decide_eq_true hr)⟩

/-- `FederationFailure(code)` -/
def federation (code : String) : Failure :=
  ⟨coordinator .federationFailure code false false, RawFailure.oneWay_of_flags rfl rfl⟩

/-- `FederationFailure(code, blocked=True)` -/
def federationBlocked (code : String) (h : code ∉ retryableCodes := by decide) : Failure :=
  ⟨coordinator .federationFailure code true false,
    RawFailure.oneWay_of_blocked rfl (by rwa [coordinator_failureCode])⟩

/-- `FederationFailure(code, retryable=code in transient)` -/
def federationTransient (code : String) (transient : List String)
    (h : ∀ c ∈ blockedCodes, c ∉ transient := by decide) : Failure :=
  ⟨coordinator .federationFailure code false (decide (code ∈ transient)),
    RawFailure.oneWay_of_retryable rfl fun hr hb => by
      rw [coordinator_failureCode] at hb
      exact h code hb (of_decide_eq_true hr)⟩

/-- `except ValueError` catches it. -/
def isValueError (e : Failure) : Bool :=
  e.cls = .valueError ∨ e.cls = .qanerisError

def ofConversation : Conversations.Failure → Failure
  | .keyError k => key k
  | .conflict => value "semantic memory revision conflict"

/-- The validator and the store raise no blocking failure that could be retried. -/
def ofFederation : Federation.Failure → Failure
  | .federation code true _ =>
    if h : code ∉ retryableCodes then federationBlocked code h else federation code
  | .federation code false _ => federation code
  | .valueError message => value message
  | .keyError k => key k
  | .integrityError => integrity

end Failure

/-! ## Responses of a run -/

/-- One source task as the answer of a federated run reports it. -/
structure SourceTaskSummary where
  taskId : String
  datasourceId : String
  status : Federation.SourceTaskStatus
  attempt : Nat
  deriving DecidableEq, Repr

structure FederatedAnswer where
  question : String
  answer : String
  answerSource : String
  planId : String
  operation : Federation.MergeOperation
  datasourceIds : List String
  sourceTasks : List SourceTaskSummary
  mergedResult : Federation.MergedResult
  federatedEvidence : Federation.FederatedEvidence
  deriving DecidableEq, Repr

/-- The three documents that are written into `response_json`. -/
inductive ResponseJson where
  | ask (response : AskResponse)
  | clarification (text sourceTaskId : String)
  | federated (answer : FederatedAnswer)
  deriving DecidableEq, Repr

namespace ResponseJson

/-- `AskResponse.model_validate(document)`. A federated clarification has no `question`; a federated
answer is read with the defaults of the fields it lacks. -/
def asAskResponse : ResponseJson → Except Failure AskResponse
  | .ask response => .ok response
  | .clarification _ _ => .error .validation
  | .federated answer => .ok { question := answer.question, answer := answer.answer }

/-- `document["answer"]` as the content of a message. -/
def answerText : ResponseJson → Except Failure String
  | .ask response => .ok response.answer
  | .clarification _ _ => .error (.key "answer")
  | .federated answer => .ok answer.answer

/-- `document["clarification"]` as the content of a message: a response has a list there, which no
message accepts. -/
def clarificationText : ResponseJson → Except Failure String
  | .ask _ => .error .validation
  | .clarification text _ => .ok text
  | .federated _ => .error (.key "clarification")

/-- `MergedResult.model_validate(document["merged_result"])` -/
def mergedResult : ResponseJson → Except Failure Federation.MergedResult
  | .ask _ | .clarification _ _ => .error (.key "merged_result")
  | .federated answer => .ok answer.mergedResult

end ResponseJson

/-! ## Runs and their events -/

structure Run where
  runId : String
  conversationId : String
  userMessageId : String
  workspaceId : String
  status : RunStatus := .created
  runKind : RunKind := .normal
  currentStage : String := "created"
  revision : Nat := 0
  attempt : Nat := 1
  cancelRequested : Bool := false
  resolvedQuestion : Option String := none
  responseJson : Option ResponseJson := none
  failureCode : Option String := none
  failureMessage : Option String := none
  retryable : Bool := false
  maxRows : Int := 200
  clientRequestId : Option String := none
  createdAt : Instant
  updatedAt : Instant
  completedAt : Option Instant := none
  deriving DecidableEq, Repr

inductive RunEventType where
  | runStarted
  | runCancelled
  | runCompleted
  | runBlocked
  | runFailed
  | contextReady
  | clarificationRequired
  | askProgress
  | federationDiscoveryStarted
  | federatedPlanReady
  | sourceTaskStarted
  | sourceTaskFailed
  | sourceTaskCompleted
  | mergeStarted
  | mergeCompleted
  | diagnosisStarted
  | diagnosticRoundStarted
  | evidenceQuestionPlanned
  | evidenceQueryStarted
  | evidenceQueryFailed
  | evidenceQueryUnavailable
  | evidenceQueryCompleted
  | diagnosticSynthesisStarted
  | diagnosisCompleted
  deriving DecidableEq, Repr

structure RunEvent where
  runId : String
  sequence : Nat
  eventType : RunEventType
  occurredAt : Instant
  publicPayload : List (String × Json) := []
  deriving DecidableEq, Repr

end Runtime
