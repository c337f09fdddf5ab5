import Qaneris.Runtime.Properties.Steps

/-!
# The operations of the orchestrator

What users, workers and the process do with runs, and that they take no steps but those of `Allows`.

* `operation_within` — every operation of the orchestrator is within what it is allowed
-/

namespace Runtime

open Infra (Program)
open Infra.Program (Within within_ask within_atomic within_ofExcept within_pure within_throw)

/-- The program without its answer. -/
def discard {α : Type} (p : Prog α) : Prog Unit :=
  p >>= fun _ => pure ()

/-- What can be done with runs: a user acts, a worker executes a run, the process starts. -/
inductive IsOperation (self : Orchestrator) : Prog Unit → Prop where
  | start : IsOperation self self.start
  | execute (runId : String) : IsOperation self (self.execute runId)
  | create (conversationId question : String) (maxRows : Int) (clientRequestId : Option String) :
      IsOperation self (discard (self.create conversationId question maxRows clientRequestId))
  | clarify (runId answer : String) : IsOperation self (discard (self.clarify runId answer))
  | cancel (runId : String) : IsOperation self (discard (self.cancel runId))
  | retry (runId : String) : IsOperation self (discard (Orchestrator.retry runId))

section Runs

variable {g : World → World → Prop} {self : Orchestrator}

theorem plain_attempted {runId : String} : Plain [.attempted runId] := by simp [Plain]
theorem plain_cancelled {runId : String} : Plain [.cancelled runId] := by simp [Plain]
theorem plain_looked {runId : String} : Plain [.looked runId] := by simp [Plain]
theorem plain_passedOver {runId : String} : Plain [.passedOver runId] := by simp [Plain]

theorem plain_nothing (w : World) : Plain (nothing w) := plain_nil

theorem plain_unrecorded (runId : String) (w : World) : Plain (unrecorded runId w) := by
  unfold unrecorded
  split
  · exact plain_nil
  · simp [Plain]

namespace Orchestrator

/-! ## Checkpoints -/

theorem getNoting_within {lost : World → List Mark} {seen : List Mark} {runId : String}
    {acts : World → List Act} (hg : Allows self g) (hlost : ∀ w, Plain (lost w))
    (hseen : Plain seen) : Within g (getNoting lost seen runId acts) := by
  refine within_storeCallNoting hg.toQuiet (fun w => hg.note w _ _ (hlost w)) ?_
  intro w w' a h
  obtain ⟨w₁, h₁, rfl⟩ := marked_ok h
  obtain ⟨s, hs, rfl⟩ := onRuns_ok h₁
  obtain ⟨rfl, -⟩ := reading_ok hs
  exact hg.note w seen _ hseen

/-- Reading a run, with what the history says of it. -/
theorem read_within {runId : String} {acts : World → List Act} (hg : Allows self g) :
    Within g (getNoting nothing [] runId acts) :=
  getNoting_within hg plain_nothing plain_nil

theorem get_within {runId : String} (hg : Allows self g) : Within g (get runId) :=
  read_within hg

theorem saveNoting_within {lost : World → List Mark} {done : List Mark} {run : Run}
    {acts : List Act} (hg : Allows self g) (hlost : ∀ w, Plain (lost w)) (hdone : Plain done) :
    Within g (saveNoting lost done run acts) := by
  refine within_ask.bind fun now => ?_
  refine within_storeCallNoting hg.toQuiet (fun w => hg.note w _ _ (hlost w)) ?_
  intro w w' a h
  obtain ⟨w₁, h₁, rfl⟩ := marked_ok h
  obtain ⟨s, hs, rfl⟩ := onRuns_ok h₁
  exact hg.save w s run a run.revision now done acts hs hdone

theorem save_within {run : Run} (hg : Allows self g) : Within g (save run) :=
  saveNoting_within hg plain_nothing plain_nil

theorem saveMovedNoting_within {lost : World → List Mark} {run : Run} {target : RunStatus}
    {changes : Run → Run} {acts : List Act} (hg : Allows self g) (hlost : ∀ w, Plain (lost w)) :
    Within g (saveMovedNoting lost run target changes acts) :=
  within_ofExcept.bind fun _ => saveNoting_within hg hlost plain_nil

theorem saveMoved_within {run : Run} {target : RunStatus} {changes : Run → Run} {acts : List Act}
    (hg : Allows self g) : Within g (saveMoved run target changes acts) :=
  saveMovedNoting_within hg plain_nothing

theorem saveStages_within {run : Run} {stages : List RunStatus} (hg : Allows self g) :
    Within g (saveStages run stages) := by
  induction stages generalizing run with
  | nil => exact within_pure
  | cons stage stages ih => exact (saveMoved_within hg).bind fun _ => ih

theorem advance_within {run : Run} {target : RunStatus} (hg : Allows self g) :
    Within g (advance run target) := by
  unfold advance
  split
  · exact within_pure
  · exact saveStages_within hg

theorem advanceBy_within {run : Run} {eventType : Contracts.AskEventType} (hg : Allows self g) :
    Within g (advanceBy run eventType) := by
  unfold advanceBy
  split
  · exact advance_within hg
  · exact advance_within hg
  · exact advance_within hg
  · exact within_pure

theorem cancelIfRequestedNoting_within {lost : World → List Mark} {seen : List Mark} {run : Run}
    {acts : World → List Act} (hg : Allows self g) (hlost : ∀ w, Plain (lost w))
    (hseen : Plain seen) : Within g (self.cancelIfRequestedNoting lost seen run acts) := by
  refine (getNoting_within hg hlost hseen).bind fun latest => ?_
  show Within g (if _ then _ else _)
  split
  · exact within_pure
  · split
    · exact within_pure
    · refine within_ask.bind fun now => (saveMovedNoting_within hg hlost).bind fun cancelled => ?_
      exact (appendEvent_within hg.toQuiet (by decide)).bind fun _ => within_pure

theorem unlessCancelled_within {α : Type} {run : Run} {cancelled : α} {rest : Prog α}
    (hg : Allows self g) (h : Within g rest) :
    Within g (self.unlessCancelled run cancelled rest) := by
  refine (cancelIfRequestedNoting_within hg plain_nothing plain_nil).bind fun found => ?_
  cases found with
  | none => exact h
  | some run => exact within_pure

theorem beforeInvoking_within {α : Type} {run : Run} {cancelled : α} {rest : Prog α}
    (hg : Allows self g) (h : Within g rest) :
    Within g (self.beforeInvoking run cancelled rest) := by
  refine (cancelIfRequestedNoting_within hg plain_nothing plain_nil).bind fun found => ?_
  cases found with
  | none => exact h
  | some run => exact within_pure

theorem did_within {act : Act} (hg : Allows self g) :
    Within g (Infra.Program.atomic (did act) : Prog Unit) := by
  refine within_atomic hg.refl ?_
  intro w w' a h
  obtain ⟨rfl, -⟩ := Prod.mk.inj (Except.ok.inj h)
  exact hg.note w [] [act] plain_nil

theorem invoke_within {runId : String} {taskId : Option String} {request : Contracts.AskRequest}
    (hg : Allows self g) : Within g (invoke runId taskId request) :=
  (did_within hg).bind fun _ => within_ask

theorem waitForUser_within {run : Run} {response : ResponseJson} {message : String}
    {payload : List (String × Infra.Json)} {taskId : Option String} (hg : Allows self g) :
    Within g (self.waitForUser run response message payload taskId) := by
  refine (saveMoved_within hg).bind fun run => ?_
  exact (assistantMessage_within hg.toQuiet).bind fun _ => appendEvent_within hg.toQuiet (by decide)

end Orchestrator

end Runs

end Runtime

/-! ## The federated path -/

namespace Federation

open Infra.Program (Within within_ask within_atomic within_ofExcept within_pure within_throw)
open Runtime Runtime.Orchestrator

variable {g : World → World → Prop} {self : Orchestrator}

theorem consume_within {run : Run} {task : SourceTask} {raised : Option Runtime.Failure}
    {response : Option Contracts.AskResponse} {failure : Option Runtime.Failure}
    {records : List AskEventRecord} (hg : Allows self g) :
    Within g (consume self run task raised response failure records) := by
  induction records generalizing response failure with
  | nil =>
    cases raised with
    | some e => exact within_throw
    | none => exact unlessCancelled_within hg within_pure
  | cons record records ih =>
    exact (appendEvent_within hg.toQuiet (by decide)).bind fun _ => unlessCancelled_within hg ih

theorem invokeAndConsume_within {run : Run} {task : SourceTask} {request : Contracts.AskRequest}
    (hg : Allows self g) : Within g (invokeAndConsume self run task request) :=
  beforeInvoking_within hg ((invoke_within hg).bind fun _ => consume_within hg)

theorem settleTask_within {run : Run} {task : SourceTask} {scope : ExecutionScope}
    {response : Contracts.AskResponse} (hg : Allows self g) :
    Within g (settleTask self run task scope response) := by
  unfold settleTask
  split
  · refine (within_onFederation hg.toQuiet).bind fun _ => (get_within hg).bind fun current => ?_
    exact waitForUser_within hg
  · split
    · split
      · exact failTask_within hg.toQuiet
      · exact completeTask_within hg.toQuiet
    · exact failTask_within hg.toQuiet

theorem executeTask_within {run : Run} {task : SourceTask} {scope : ExecutionScope}
    {clarification : Option String} (hg : Allows self g) :
    Within g (executeTask self run task scope clarification) := by
  refine within_ask.bind fun started => (within_onFederation hg.toQuiet).bind fun task => ?_
  refine (appendEvent_within hg.toQuiet (by decide)).bind fun _ => ?_
  refine askRequest_within.bind fun request => ?_
  refine (invokeAndConsume_within hg).bind fun outcome => ?_
  split
  · exact skipTask_within hg.toQuiet
  · exact settleTask_within hg
  · exact failTask_within hg.toQuiet

theorem runTasks_within {run : Run} {scope : ExecutionScope} {clarifications : List String}
    {tasks : List SourceTask} (hg : Allows self g) :
    Within g (runTasks self run scope clarifications tasks) := by
  induction tasks with
  | nil => exact within_pure
  | cons task tasks ih =>
    refine unlessCancelled_within hg (within_ask.bind fun now => ?_)
    show Within g (if _ then _ else _)
    split
    · exact within_throw
    · split
      · exact ih
      · split
        · refine (within_atomic hg.refl ?_).bind fun _ => within_pure
          intro w w' a h
          obtain ⟨rfl, -⟩ := Prod.mk.inj (Except.ok.inj h)
          exact hg.note w _ _ plain_passedOver
        · split
          · exact within_throw
          · refine (executeTask_within hg).bind fun _ => (read_within hg).bind fun current => ?_
            show Within g (if _ then _ else _)
            split
            · exact within_pure
            · exact ih

theorem mergeAndAnswer_within {run : Run} {question : String}
    {memory : Conversations.SemanticMemory} {plan : FederatedPlan} {tasks : List SourceTask}
    (hg : Allows self g) : Within g (mergeAndAnswer self run question memory plan tasks) := by
  refine within_ofExcept.bind fun responses => (mappingOf_within hg.toQuiet).bind fun mapping => ?_
  refine (appendEvent_within hg.toQuiet (by decide)).bind fun _ => ?_
  refine (within_askOk rfl).bind fun merged => within_ofExcept.bind fun sources => ?_
  refine (appendEvent_within hg.toQuiet (by decide)).bind fun _ => ?_
  refine (advance_within hg).bind fun run => (within_askOk rfl).bind fun answer => ?_
  refine within_ask.bind fun now => (saveMoved_within hg).bind fun run => ?_
  refine (assistantMessage_within hg.toQuiet).bind fun _ => ?_
  exact (recordMemory_within hg.toLenient).bind fun _ => completed_within hg.toLenient

theorem drive_within {run : Run} {question : String} {memory : Conversations.SemanticMemory}
    {allowed : List String} {decision : RoutingDecision} {clarifications : List String}
    (hg : Allows self g) :
    Within g (drive self run question memory allowed decision clarifications) := by
  refine (planOf_within hg.toQuiet).bind fun plan => (advance_within hg).bind fun run => ?_
  refine (advance_within hg).bind fun run => (within_onFederation hg.toQuiet).bind fun tasks => ?_
  refine (runTasks_within hg).bind fun done => ?_
  cases done with
  | false => exact within_pure
  | true =>
    refine unlessCancelled_within hg ((within_onFederation hg.toQuiet).bind fun tasks => ?_)
    show Within g (if _ then _ else _)
    split
    · exact within_throw
    · exact mergeAndAnswer_within hg

end Federation

/-! ## The diagnostic path -/

namespace Diagnostics

open Infra.Program (Within within_ask within_ofExcept within_pure within_throw)
open Runtime Runtime.Orchestrator

variable {g : World → World → Prop} {self : Orchestrator}

theorem consume_within {task : DiagnosticTask} {raised : Option Failure} {run : Run}
    {response : Option Contracts.AskResponse} {failure : Option Failure}
    {records : List AskEventRecord} (hg : Allows self g) :
    Within g (consume self task raised run response failure records) := by
  induction records generalizing run response failure with
  | nil =>
    cases raised with
    | some e => exact within_pure
    | none => exact unlessCancelled_within hg within_pure
  | cons record records ih =>
    refine (advanceBy_within hg).bind fun run => ?_
    refine (appendEvent_within hg.toQuiet (by decide)).bind fun _ => ?_
    exact unlessCancelled_within hg ih

theorem invokeAndConsume_within {run : Run} {task : DiagnosticTask}
    {request : Contracts.AskRequest} (hg : Allows self g) :
    Within g (invokeAndConsume self run task request) :=
  beforeInvoking_within hg ((invoke_within hg).bind fun _ => consume_within hg)

theorem clarifyTask_within {run : Run} {task : DiagnosticTask} {checkpoint : DiagnosticCheckpoint}
    {response : Contracts.AskResponse} (hg : Allows self g) :
    Within g (clarifyTask self run task checkpoint response) := by
  show Within g (if _ then _ else _)
  split
  · refine within_ask.bind fun now => (within_onDiagnostics hg.toQuiet).bind fun task => ?_
    refine (within_onDiagnostics hg.toQuiet).bind fun checkpoint => ?_
    exact (appendEvent_within hg.toQuiet (by decide)).bind fun _ => within_pure
  · refine (within_onDiagnostics hg.toQuiet).bind fun task => (get_within hg).bind fun current => ?_
    exact (waitForUser_within hg).bind fun _ => within_pure

theorem settleTask_within {run : Run} {task : DiagnosticTask} {checkpoint : DiagnosticCheckpoint}
    {response : Contracts.AskResponse} {failure : Option Failure} (hg : Allows self g) :
    Within g (settleTask self run task checkpoint response failure) := by
  unfold settleTask
  split
  · exact clarifyTask_within hg
  · split
    · exact failTask_within hg.toQuiet
    · split
      · split
        · exact failTask_within hg.toQuiet
        · exact completeTask_within hg.toQuiet
      · exact failTask_within hg.toQuiet

theorem askTask_within {run : Run} {task : DiagnosticTask} {workspaceId : String}
    {checkpoint : DiagnosticCheckpoint} {clarification : Option String} (hg : Allows self g) :
    Within g (askTask self run task workspaceId checkpoint clarification) := by
  refine askRequest_within.bind fun request => (invokeAndConsume_within hg).bind fun outcome => ?_
  split
  · exact (within_onDiagnostics hg.toQuiet).bind fun _ => within_pure
  · exact failTask_within hg.toQuiet
  · exact (within_onDiagnostics hg.toQuiet).bind fun _ => within_throw
  · exact settleTask_within hg

theorem executeTask_within {run : Run} {task : DiagnosticTask}
    {conversation : Conversations.Conversation} {checkpoint : DiagnosticCheckpoint}
    {clarification : Option String} (hg : Allows self g) :
    Within g (executeTask self run task conversation checkpoint clarification) := by
  refine (get_within hg).bind fun run => unlessCancelled_within hg ?_
  refine (within_onDiagnostics hg.toQuiet).bind fun task => ?_
  refine (within_onDiagnostics hg.toQuiet).bind fun checkpoint => ?_
  exact (appendEvent_within hg.toQuiet (by decide)).bind fun _ => askTask_within hg

theorem runTasks_within {run : Run} {conversation : Conversations.Conversation}
    {clarifications : List String} {checkpoint : DiagnosticCheckpoint}
    {tasks : List DiagnosticTask} (hg : Allows self g) :
    Within g (runTasks self run conversation clarifications checkpoint tasks) := by
  induction tasks generalizing checkpoint with
  | nil => exact within_pure
  | cons task tasks ih =>
    refine unlessCancelled_within hg ?_
    split
    · exact ih
    · split
      · exact within_throw
      · refine (executeTask_within hg).bind fun checkpoint => (read_within hg).bind fun current => ?_
        show Within g (if _ then _ else _)
        split
        · exact within_pure
        · exact ih

theorem waitForClarification_within {run : Run} {question message : String} (hg : Allows self g) :
    Within g (waitForClarification self run question message) :=
  within_ofExcept.bind fun _ => (get_within hg).bind fun _ => waitForUser_within hg

theorem planRound_within {run : Run} {question : String} {memory : Conversations.SemanticMemory}
    {checkpoint : DiagnosticCheckpoint} (hg : Allows self g) :
    Within g (planRound self run question memory checkpoint) := by
  refine (observations_within hg.toQuiet).bind fun observed => ?_
  refine (propose_within hg.toQuiet).attempt.bind fun proposed => ?_
  split
  · split
    · exact within_pure
    · exact within_throw
  · exact (waitForClarification_within hg).bind fun _ => within_pure
  · exact openRound_within hg.toQuiet

theorem nextTasks_within {run : Run} {question : String} {memory : Conversations.SemanticMemory}
    {checkpoint : DiagnosticCheckpoint} (hg : Allows self g) :
    Within g (nextTasks self run question memory checkpoint) := by
  refine (within_onDiagnostics hg.toQuiet).bind fun tasks => ?_
  split
  · split
    · exact within_pure
    · exact planRound_within hg
  · exact within_pure

theorem rounds_within {run : Run} {conversation : Conversations.Conversation} {question : String}
    {memory : Conversations.SemanticMemory} {clarifications : List String} {fuel : Nat}
    {checkpoint : DiagnosticCheckpoint} (hg : Allows self g) :
    Within g (rounds self run conversation question memory clarifications fuel checkpoint) := by
  induction fuel generalizing checkpoint with
  | zero => exact within_hang
  | succ fuel ih =>
    unfold rounds
    split
    · exact within_pure
    · refine unlessCancelled_within hg ((nextTasks_within hg).bind fun planned => ?_)
      split
      · exact within_pure
      · exact within_pure
      · refine (runTasks_within hg).bind fun result => ?_
        cases result with
        | none => exact within_pure
        | some checkpoint =>
          show Within g (if _ then _ else _)
          split
          · exact within_pure
          · exact ih

theorem answerRun_within {run : Run} {question answer source : String}
    {memory : Conversations.SemanticMemory} {verified : List DiagnosticObservation}
    (hg : Allows self g) : Within g (answerRun self run question answer source memory verified) := by
  refine (read_within hg).bind fun current => (advance_within hg).bind fun current => ?_
  refine within_ask.bind fun now => (saveMoved_within hg).bind fun current => ?_
  refine (assistantMessage_within hg.toQuiet).bind fun _ => ?_
  refine (recordMemory_within hg.toLenient).bind fun _ => ?_
  exact (appendEvent_within hg.toQuiet (by decide)).bind fun _ => completed_within hg.toLenient

theorem finish_within {run : Run} {question : String} {memory : Conversations.SemanticMemory}
    {planningFailed : Bool} (hg : Allows self g) :
    Within g (finish self run question memory planningFailed) := by
  refine (observations_within hg.toQuiet).bind fun observed => ?_
  show Within g (if _ then _ else _)
  split
  · exact within_throw
  · refine unlessCancelled_within hg ((appendEvent_within hg.toQuiet (by decide)).bind fun _ => ?_)
    exact compose_within.bind fun answer => unlessCancelled_within hg (answerRun_within hg)

theorem drive_within {run : Run} {conversation : Conversations.Conversation} {question : String}
    {memory : Conversations.SemanticMemory} {clarifications : List String} (hg : Allows self g) :
    Within g (drive self run conversation question memory clarifications) := by
  refine (reconcile_within hg.toQuiet).bind fun checkpoint => ?_
  refine (begin_within hg.toQuiet).bind fun checkpoint => ?_
  show Within g (if _ then _ else _)
  split
  · exact within_throw
  · refine needsBaseline_within.bind fun needed => ?_
    cases needed with
    | true => exact waitForClarification_within hg
    | false =>
      refine within_ask.bind fun fuel => (rounds_within hg).bind fun ended => ?_
      cases ended with
      | stopped => exact within_pure
      | done planningFailed => exact finish_within hg

end Diagnostics

/-! ## The worker -/

namespace Runtime

open Infra.Program (Within within_ask within_atomic within_ofExcept within_pure within_throw)

variable {g : World → World → Prop} {self : Orchestrator}

namespace Orchestrator

theorem complete_within {run : Run} {response : Contracts.AskResponse} (hg : Allows self g) :
    Within g (complete self run response) := by
  refine (advance_within hg).bind fun run => within_ask.bind fun now => ?_
  refine (saveMoved_within hg).bind fun run => (assistantMessage_within hg.toQuiet).bind fun _ => ?_
  split
  · exact completed_within hg.toLenient
  · refine (memory_within hg.toQuiet).bind fun memory => within_ask.bind fun now => ?_
    exact (putMemory_within hg.toLenient).bind fun _ => completed_within hg.toLenient

theorem clarifyOrBlock_within {run : Run} {response : Contracts.AskResponse}
    {previous : Option String} (hg : Allows self g) :
    Within g (clarifyOrBlock self run response previous) := by
  unfold clarifyOrBlock
  split
  · refine within_ask.bind fun now => (saveMoved_within hg).bind fun _ => ?_
    exact appendEvent_within hg.toQuiet (by decide)
  · exact waitForUser_within hg

theorem settle_within {run : Run} {response : Contracts.AskResponse} {previous : Option String}
    (hg : Allows self g) : Within g (settle self run response previous) := by
  unfold settle
  split
  · exact clarifyOrBlock_within hg
  · split
    · exact within_throw
    · exact complete_within hg

theorem consume_within {raised : Option Failure} {run : Run}
    {response : Option Contracts.AskResponse} {failure : Option Failure}
    {records : List AskEventRecord} (hg : Allows self g) :
    Within g (consume self raised run response failure records) := by
  induction records generalizing run response failure with
  | nil =>
    cases raised with
    | some e => exact within_throw
    | none => exact unlessCancelled_within hg within_pure
  | cons record records ih =>
    refine unlessCancelled_within hg ((advanceBy_within hg).bind fun run => ?_)
    exact (appendEvent_within hg.toQuiet (by decide)).bind fun _ => unlessCancelled_within hg ih

theorem invokeAndConsume_within {run : Run} {request : Contracts.AskRequest} (hg : Allows self g) :
    Within g (invokeAndConsume self run request) :=
  beforeInvoking_within hg ((invoke_within hg).bind fun _ => consume_within hg)

theorem askOnce_within {run : Run} {resolved : String} {datasourceId previous : Option String}
    (hg : Allows self g) : Within g (askOnce self run resolved datasourceId previous) := by
  refine askRequest_within.bind fun request => (invokeAndConsume_within hg).bind fun outcome => ?_
  split
  · exact within_pure
  · exact within_throw
  · exact within_throw
  · exact settle_within hg

theorem askForSource_within {run : Run} {resolved workspaceId : String} {allowed : List String}
    {previous : Option String} (hg : Allows self g) :
    Within g (askForSource self run resolved workspaceId allowed previous) := by
  unfold askForSource
  split
  · exact within_throw
  · refine (within_askOk rfl).bind fun sources => within_ofExcept.bind fun item => ?_
    exact waitForUser_within hg

theorem driveQuestion_within {run : Run} {conversation : Conversations.Conversation}
    {resolved : String} {memory : Conversations.SemanticMemory} {clarifications : List String}
    {previous : Option String} (hg : Allows self g) :
    Within g (driveQuestion self run conversation resolved memory clarifications previous) := by
  refine isWorkspaceInventory_within.bind fun inventory => ?_
  show Within g (if _ then _ else _)
  split
  · refine readyScope_within.bind fun allowed => (route_within hg.toQuiet).bind fun decision => ?_
    cases decision with
    | none => exact askForSource_within hg
    | some decision =>
      show Within g (if _ then _ else _)
      split
      · exact (save_within hg).bind fun run => Federation.drive_within hg
      · exact askOnce_within hg
  · split
    · exact within_throw
    · exact askOnce_within hg

theorem readInput_within {run : Run} (hg : Allows self g) : Within g (readInput self run) := by
  refine (within_readConversations hg.toQuiet).bind fun conversation => ?_
  refine (within_storeCall hg.toQuiet ?_).bind fun messages => ?_
  · intro w w' a h
    obtain ⟨rfl, -⟩ := Prod.mk.inj (Except.ok.inj h)
    exact hg.messages w run
  · split
    · exact within_throw
    · exact (memory_within hg.toQuiet).bind fun memory => within_pure

theorem drive_within {run : Run} {previous : Option String} (hg : Allows self g) :
    Within g (drive self run previous) := by
  refine unlessCancelled_within hg ((readInput_within hg).bind fun input => ?_)
  refine (within_askOk rfl).bind fun resolved => isDiagnostic_within.bind fun diagnostic => ?_
  refine (save_within hg).bind fun run => (appendEvent_within hg.toQuiet (by decide)).bind fun _ => ?_
  refine unlessCancelled_within hg ((saveMoved_within hg).bind fun run => ?_)
  cases diagnostic with
  | true =>
    show Within g (if _ then _ else _)
    split
    · exact within_throw
    · exact Diagnostics.drive_within hg
  | false => exact driveQuestion_within hg

theorem giveUp_within {current : Run} {e : Failure} (hg : Allows self g) :
    Within g (giveUp self current e) := by
  refine within_ask.bind fun now => within_ofExcept.bind fun moved => ?_
  refine (saveNoting_within hg (plain_unrecorded _) plain_nil).bind fun _ => ?_
  exact appendEvent_within hg.toQuiet (by split <;> decide)

theorem handleFailure_within {runId : String} {e : Failure} (hg : Allows self g) :
    Within g (handleFailure self runId e) := by
  refine (getNoting_within hg (plain_unrecorded _) plain_nil).bind fun current => ?_
  show Within g (if _ then _ else _)
  split
  · exact recoverCompletions_within hg.toLenient
  · split
    · exact recoverClarifications_within hg.toQuiet
    · refine (cancelIfRequestedNoting_within hg (plain_unrecorded _) plain_looked).bind fun found => ?_
      cases found with
      | some run => exact within_pure
      | none =>
        show Within g (if _ then _ else _)
        split
        · exact within_pure
        · exact giveUp_within hg

theorem execute_within {runId : String} (hg : Allows self g) : Within g (execute self runId) := by
  refine (get_within hg).bind fun run => within_ofExcept.bind fun previous => ?_
  show Within g (if _ then _ else _)
  split
  · exact within_pure
  · have hwin : Within g (win run) :=
      within_ofExcept.bind fun _ => saveNoting_within hg plain_nothing plain_attempted
    refine hwin.attempt.bind fun won => ?_
    cases won with
    | error e =>
      show Within g (if _ then _ else _)
      split
      · exact within_pure
      · exact within_throw
    | ok run =>
      refine Within.bind ?_ fun _ => (drive_within hg).attempt.bind fun outcome => ?_
      · exact appendEventNoting_within hg.toQuiet (fun w => hg.note w _ _ (plain_unrecorded _ w))
          fun w now => hg.event w run.runId .runStarted _ now (by decide)
      · cases outcome with
        | ok u => exact within_pure
        | error e => exact handleFailure_within hg

/-! ## The other operations -/

theorem submit_within {runId : String} (hg : Allows self g) : Within g (submit runId) := by
  refine within_atomic hg.refl ?_
  intro w w' a h
  obtain ⟨rfl, -⟩ := Prod.mk.inj (Except.ok.inj h)
  exact hg.submit w runId

theorem userMessage_within {messageId conversationId content runId : String}
    {messageKind : Conversations.MessageKind} {acts : List Act} (hg : Allows self g) :
    Within g (self.userMessage messageId conversationId content runId messageKind acts) := by
  refine within_ask.bind fun now => within_storeCall hg.toQuiet ?_
  intro w w' a h
  obtain ⟨w₁, h₁, rfl⟩ := marked_ok h
  obtain ⟨s, hs, rfl⟩ := onConversations_ok h₁
  obtain ⟨rfl, -⟩ := Prod.mk.inj (Except.ok.inj hs)
  exact hg.answer w _ acts

theorem create_within {conversationId question : String} {maxRows : Int}
    {clientRequestId : Option String} (hg : Allows self g) :
    Within g (create self conversationId question maxRows clientRequestId) := by
  refine (within_readConversations hg.toQuiet).bind fun conversation => ?_
  show Within g (if _ then _ else _)
  split
  · exact within_throw
  · split
    · exact within_throw
    · refine within_ask.bind fun runId => within_ask.bind fun userMessageId => ?_
      refine within_ask.bind fun now => (within_storeCall hg.toQuiet ?_).bind fun created => ?_
      · intro w w' a h
        obtain ⟨w₁, h₁, rfl⟩ := marked_ok h
        obtain ⟨s, hs, rfl⟩ := onRuns_ok h₁
        exact hg.create w s _ a _ hs
      · show Within g (if _ then _ else _)
        split
        · refine (userMessage_within hg).bind fun _ => ?_
          exact (submit_within hg).bind fun _ => within_pure
        · exact within_pure

theorem clarify_within {runId answer : String} (hg : Allows self g) :
    Within g (clarify self runId answer) := by
  unfold clarify
  split
  · exact within_throw
  · refine (get_within hg).bind fun run => ?_
    show Within g (if _ then _ else _)
    split
    · exact within_throw
    · refine (saveNoting_within hg plain_nothing plain_nil).bind fun queued => ?_
      refine within_ask.bind fun messageId => (userMessage_within hg).bind fun _ => ?_
      exact (submit_within hg).bind fun _ => within_pure

theorem cancel_within {runId : String} (hg : Allows self g) : Within g (cancel self runId) := by
  refine (read_within hg).bind fun run => ?_
  show Within g (if _ then _ else _)
  split
  · refine within_ask.bind fun now => within_ofExcept.bind fun moved => ?_
    refine (saveNoting_within hg plain_nothing plain_cancelled).bind fun cancelled => ?_
    exact (appendEvent_within hg.toQuiet (by decide)).bind fun _ => within_pure
  · split
    · exact within_pure
    · exact saveNoting_within hg plain_nothing plain_cancelled

theorem retry_within {runId : String} (hg : Allows self g) : Within g (retry runId) := by
  refine (get_within hg).bind fun run => ?_
  show Within g (if _ then _ else _)
  split
  · exact within_throw
  · refine (saveNoting_within hg plain_nothing plain_nil).bind fun queued => ?_
    exact (submit_within hg).bind fun _ => within_pure

theorem interrupt_within {runId : String} (hg : Allows self g) :
    Within g (interrupt self runId) := by
  refine (get_within hg).bind fun current => ?_
  refine Within.bind (Within.attempt ?_) fun interrupted => ?_
  · exact (saveMoved_within hg).bind fun _ => appendEvent_within hg.toQuiet (by decide)
  · cases interrupted with
    | ok u => exact within_pure
    | error e =>
      show Within g (if _ then _ else _)
      split
      · exact within_pure
      · exact within_throw

theorem recoverDiagnosticTasks_within (hg : Quiet g) : Within g recoverDiagnosticTasks := by
  refine (within_onDiagnostics hg).bind fun tasks => forEach_within fun task => ?_
  exact (within_onDiagnostics hg).bind fun _ => within_pure

theorem recoverSourceTasks_within (hg : Quiet g) : Within g recoverSourceTasks := by
  refine (within_onFederation hg).bind fun tasks => forEach_within fun task => ?_
  exact (within_onFederation hg).bind fun _ => within_pure

theorem start_within (hg : Allows self g) : Within g (start self) := by
  refine (recoverDiagnosticTasks_within hg.toQuiet).bind fun _ => ?_
  refine (recoverSourceTasks_within hg.toQuiet).bind fun _ => Within.bind ?_ fun _ => ?_
  · exact (within_readRuns hg.toQuiet).bind fun runs => forEach_within fun run =>
      interrupt_within hg
  · refine (recoverCompletions_within hg.toLenient).bind fun _ => ?_
    refine (recoverClarifications_within hg.toQuiet).bind fun _ => ?_
    exact (within_readRuns hg.toQuiet).bind fun queued => forEach_within fun runId =>
      submit_within hg

end Orchestrator

/-- **Every operation takes only the steps that `Allows` lists.** -/
theorem operation_within {p : Prog Unit} (hg : Allows self g) (hp : IsOperation self p) :
    Within g p := by
  cases hp with
  | start => exact Orchestrator.start_within hg
  | execute runId => exact Orchestrator.execute_within hg
  | create => exact (Orchestrator.create_within hg).bind fun _ => within_pure
  | clarify => exact (Orchestrator.clarify_within hg).bind fun _ => within_pure
  | cancel => exact (Orchestrator.cancel_within hg).bind fun _ => within_pure
  | retry => exact (Orchestrator.retry_within hg).bind fun _ => within_pure

end Runtime
