import Qaneris.Infra.JsonText
import Qaneris.Runtime.Models

/-!
# The frames of a run stream

What `stream_run` writes for an event of a run: three lines and a blank one.
-/

namespace Runtime

open Infra (Json)

/-- The text of an event type. -/
def RunEventType.value : RunEventType → String
  | .runStarted => "RUN_STARTED"
  | .runCancelled => "RUN_CANCELLED"
  | .runCompleted => "RUN_COMPLETED"
  | .runBlocked => "RUN_BLOCKED"
  | .runFailed => "RUN_FAILED"
  | .contextReady => "CONTEXT_READY"
  | .clarificationRequired => "CLARIFICATION_REQUIRED"
  | .askProgress => "ASK_PROGRESS"
  | .federationDiscoveryStarted => "FEDERATION_DISCOVERY_STARTED"
  | .federatedPlanReady => "FEDERATED_PLAN_READY"
  | .sourceTaskStarted => "SOURCE_TASK_STARTED"
  | .sourceTaskFailed => "SOURCE_TASK_FAILED"
  | .sourceTaskCompleted => "SOURCE_TASK_COMPLETED"
  | .mergeStarted => "MERGE_STARTED"
  | .mergeCompleted => "MERGE_COMPLETED"
  | .diagnosisStarted => "DIAGNOSIS_STARTED"
  | .diagnosticRoundStarted => "DIAGNOSTIC_ROUND_STARTED"
  | .evidenceQuestionPlanned => "EVIDENCE_QUESTION_PLANNED"
  | .evidenceQueryStarted => "EVIDENCE_QUERY_STARTED"
  | .evidenceQueryFailed => "EVIDENCE_QUERY_FAILED"
  | .evidenceQueryUnavailable => "EVIDENCE_QUERY_UNAVAILABLE"
  | .evidenceQueryCompleted => "EVIDENCE_QUERY_COMPLETED"
  | .diagnosticSynthesisStarted => "DIAGNOSTIC_SYNTHESIS_STARTED"
  | .diagnosisCompleted => "DIAGNOSIS_COMPLETED"

/-- `event.model_dump(mode="json")` -/
def RunEvent.modelDump (isoformat : Contracts.Instant → String) (event : RunEvent) : Json :=
  .obj [("run_id", .str event.runId),
    ("sequence", .int event.sequence),
    ("event_type", .str event.eventType.value),
    ("occurred_at", .str (isoformat event.occurredAt)),
    ("public_payload", .obj event.publicPayload)]

end Runtime

namespace Interfaces

open Infra (Json)
open Runtime (RunEvent)

/-- How a float and a time are written. -/
structure Texts where
  reprFloat : Rat → List Char
  isoformat : Contracts.Instant → String

/-- The JSON text of an event. -/
def Texts.dumps (texts : Texts) (event : RunEvent) : List Char :=
  (event.modelDump texts.isoformat).dumps texts.reprFloat

/-- The string that `observe` yields for an event. -/
def Texts.frame (texts : Texts) (event : RunEvent) : List Char :=
  "id: ".toList ++ (toString event.sequence).toList ++ "\nevent: ".toList
    ++ event.eventType.value.toList ++ "\ndata: ".toList ++ texts.dumps event ++ "\n\n".toList

end Interfaces
