import Qaneris.Runtime.Orchestrator

/-!
# What a restart recovers

When the process is killed, the stores are what is left, and the next `RunOrchestrator` recovers from
them. `Secured` says that a run is not lost then, and `Resumable` which runs are not. `Fits` says that
what is stored of the runs can be read by the two recoveries.
-/

namespace Runtime

open Infra (Json)

/-- What is left when the process is killed: all but what its scheduler was given. -/
def World.killed (w : World) : World := { w with submitted := [] }

/-! ## Runs that are not lost -/

/-- The identifier of the message by which a waiting run asks its user. -/
def promptId (self : Orchestrator) (run : Run) : String :=
  self.uuid5 ("clarification:" ++ run.runId ++ ":" ++ Nat.repr run.revision)

def Prompted (self : Orchestrator) (w : World) (run : Run) : Prop :=
  ∃ m ∈ w.conversations.messages, m.messageId = promptId self run

instance (self : Orchestrator) (w : World) (run : Run) : Decidable (Prompted self w run) :=
  inferInstanceAs (Decidable (∃ m ∈ w.conversations.messages, _))

/-- The run is not lost: it has ended, or it waits for a user who was asked, or a worker will have
it. -/
def Secured (self : Orchestrator) (w : World) (run : Run) : Prop :=
  run.status ∈ [.completed, .failed, .blocked, .cancelled] ∨
    (run.status = .waitingUser ∧ Prompted self w run) ∨ run.runId ∈ w.submitted

instance (self : Orchestrator) (w : World) (run : Run) : Decidable (Secured self w run) :=
  inferInstanceAs (Decidable (_ ∨ _))

/-- The last event of the run is not the request for a clarification. -/
def Unasked (w : World) (runId : String) : Prop :=
  (w.runs.lastEvent runId).any fun e => e.eventType ≠ .clarificationRequired

instance (w : World) (runId : String) : Decidable (Unasked w runId) :=
  inferInstanceAs (Decidable (_ = true))

/-- The run has been begun, and if it waits it is queued, or its user was asked, or its last event shows
that the user is still to be asked. -/
structure Resumable (o : Orchestrator) (w : World) (run : Run) : Prop where
  begun : run.status ≠ .created
  waiting : run.status = .waitingUser → run.currentStage = "resume_queued" ∨ Prompted o w run ∨
    run.currentStage = "waiting_user" ∧ run.responseJson.isSome ∧ Unasked w run.runId

instance (self : Orchestrator) (w : World) (run : Run) : Decidable (Resumable self w run) :=
  decidable_of_iff
    (run.status ≠ .created ∧ (run.status = .waitingUser → run.currentStage = "resume_queued" ∨
      Prompted self w run ∨
      run.currentStage = "waiting_user" ∧ run.responseJson.isSome ∧ Unasked w run.runId))
    ⟨fun ⟨a, b⟩ => ⟨a, b⟩, fun ⟨a, b⟩ => ⟨a, b⟩⟩

/-! ## Runs that can be read -/

/-- The response is one that the path of the run's kind leaves when it completes the run. -/
def Answering (run : Run) : ResponseJson → Prop
  | .ask _ => run.runKind ≠ .federated
  | .clarification _ _ => False
  | .federated _ => run.runKind = .federated

/-- The response is one that the path of the run's kind leaves when the run waits for its user. -/
def Prompting (run : Run) : ResponseJson → Prop
  | .ask _ => run.runKind ≠ .federated
  | .clarification _ _ => run.runKind = .federated
  | .federated _ => False

instance (run : Run) : DecidablePred (Prompting run)
  | .ask _ => inferInstanceAs (Decidable (run.runKind ≠ .federated))
  | .clarification _ _ => inferInstanceAs (Decidable (run.runKind = .federated))
  | .federated _ => inferInstanceAs (Decidable False)

theorem Answering.federated {run : Run} {response : ResponseJson} (h : Answering run response)
    (hkind : run.runKind = .federated) : ∃ answer, response = .federated answer := by
  cases response with
  | ask response => exact absurd hkind h
  | clarification text sourceTaskId => cases h
  | federated answer => exact ⟨answer, rfl⟩

theorem Answering.ask {run : Run} {response : ResponseJson} (h : Answering run response)
    (hkind : run.runKind ≠ .federated) : ∃ answer, response = .ask answer := by
  cases response with
  | ask response => exact ⟨response, rfl⟩
  | clarification text sourceTaskId => cases h
  | federated answer => exact absurd h hkind

/-- What the memory takes of a diagnosis has evidence. -/
def FindingFits (self : Orchestrator) (w : World) (runId : String) : Prop :=
  ∀ task ∈ w.diagnostics.tasksOf runId, ∀ now item, Diagnostics.observe self task now = some item →
    item.verified → item.evidenceRef.isSome

/-- The response of a completed run is of its kind, and what the memory takes of the run is there. -/
structure CompletionFits (o : Orchestrator) (w : World) (run : Run) : Prop where
  response : ∀ response, run.responseJson = some response → Answering run response
  memory : (w.conversations.memoryRow run.conversationId).isOk
  plan : ∀ plan, w.federation.plan run.runId = some plan → plan.businessQuery.isSome
  finding : run.runKind = .diagnostic → FindingFits o w run.runId

/-- The response of a waiting run is of its kind. -/
def ClarificationFits (run : Run) : Prop :=
  ∀ response, run.responseJson = some response → Prompting run response

instance (run : Run) : Decidable (ClarificationFits run) :=
  inferInstanceAs (Decidable (∀ response ∈ run.responseJson, Prompting run response))

theorem ClarificationFits.isOk {run : Run} {response : ResponseJson} (h : ClarificationFits run)
    (hresponse : run.responseJson = some response) :
    (Orchestrator.clarificationOf run response).isOk := by
  have hprompt := h response hresponse
  unfold Orchestrator.clarificationOf
  cases response with
  | ask response =>
    have hkind : run.runKind ≠ .federated := hprompt
    rw [if_neg hkind]
    rfl
  | clarification text sourceTaskId =>
    have hkind : run.runKind = .federated := hprompt
    rw [if_pos hkind]
    rfl
  | federated answer => cases hprompt

/-- All that the two recoveries read can be read. -/
structure Fits (o : Orchestrator) (w : World) : Prop where
  completions : ∀ run ∈ w.runs.incompleteCompletions, CompletionFits o w run
  clarifications : ∀ run ∈ w.runs.incompleteClarifications, ClarificationFits run

namespace Orchestrator

/-- `_recover_completions` followed by `_recover_clarifications`. -/
def recoverBoth (self : Orchestrator) : Prog Unit := do
  recoverCompletions self
  recoverClarifications self

end Orchestrator

end Runtime
