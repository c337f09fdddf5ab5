import Qaneris.Runtime.Properties.Checkpoints

/-!
# Attempts

What a worker does with a run that it has won, along each of its paths. The paths are gone through once
for every purpose: a `Logic` says what is followed along them, and what each kind of checkpoint does to
it.

* `Logic.drive_triple` — an attempt that ends without an error has come to an end of the logic
-/

namespace Runtime

open Infra (Json Program Transaction)
open Infra.Program (Contract Triple Within attempt ofExcept atomic within_ask within_ofExcept
  within_pure within_throw wp_bind wp_keep wp_mono wp_ofExcept)

/-! ## Logics -/

/-- What is followed of a worker while it drives its run. -/
structure Logic where
  contract : Contract World Question
  /-- A step that does not concern the runs. -/
  still : World → World → Prop
  /-- The worker goes on with its run. -/
  going : World → Prop
  /-- The worker is about to begin an Ask invocation. -/
  ready : World → Prop
  /-- After a task: the worker goes on, or the run has stopped. -/
  paused : World → Prop
  stopped : World → Prop
  ended : World → Prop
  /-- The worker has a copy of its run. -/
  copy : Run → World → Prop
  /-- The worker has a copy of its run in which there was no request to cancel it. -/
  clean : Run → World → Prop

namespace Logic

variable (l : Logic)

/-- The worker goes on with the run it holds. -/
def holding (run : Run) (w : World) : Prop := l.going w ∧ l.clean run w

/-- It is left true by the others and by what does not concern the runs. -/
structure Steady (inv : World → Prop) : Prop where
  rely : ∀ w w', l.contract.rely w w' → inv w → inv w'
  still : ∀ w w', l.still w w' → inv w → inv w'

/-- It is left true by everything. -/
structure Lasting (inv : World → Prop) : Prop where
  rely : ∀ w w', l.contract.rely w w' → inv w → inv w'
  guar : ∀ w w', l.contract.guar w w' → inv w → inv w'

/-- What each kind of checkpoint does for the worker of `runId`. -/
structure Sound (o : Orchestrator) (runId : String) : Prop where
  mild : Mild l.contract
  lenient : Lenient l.still
  guar : ∀ w w', l.still w w' → l.contract.guar w w'
  going : l.Steady l.going
  stopped : l.Steady l.stopped
  clean : ∀ run, l.Lasting (l.clean run)
  named : ∀ run w, l.copy run w → run.runId = runId
  copy_of_clean : ∀ run w, l.clean run w → l.copy run w
  paused_of_going : ∀ w, l.going w → l.paused w
  paused_of_stopped : ∀ w, l.stopped w → l.paused w
  ended_of_stopped : ∀ w, l.stopped w → l.ended w
  get : Triple l.contract l.going (Orchestrator.get runId) fun run w => l.going w ∧ l.copy run w
  reread : Triple l.contract l.paused
    (Orchestrator.getNoting nothing [] runId (Orchestrator.overran runId)) fun run w =>
      (run.status = .waitingUser → l.stopped w) ∧ (run.status ≠ .waitingUser → l.going w)
  reopen : Triple l.contract l.going
    (Orchestrator.getNoting nothing [] runId (Orchestrator.overlooked runId)) l.holding
  poll : ∀ run, Triple l.contract (fun w => l.going w ∧ l.copy run w) (o.cancelIfRequested run)
    fun found w => (found = none → l.holding run w) ∧ (found ≠ none → l.stopped w)
  save : ∀ run changed, Edit run changed [] → changed.status.Active →
    Triple l.contract (l.holding run) (Orchestrator.save changed) fun saved w =>
      l.holding saved w ∧ Saved changed saved
  wait : ∀ run changed taskId, Edit run changed [.prompted run.runId taskId] →
    Triple l.contract (fun w => l.going w ∧ l.copy run w)
      (Orchestrator.saveNoting nothing [] changed [.prompted run.runId taskId]) fun _ => l.stopped
  complete : ∀ run changed, Edit run changed [.completed run.runId] →
    Triple l.contract (l.holding run)
      (Orchestrator.saveNoting nothing [] changed [.completed run.runId]) fun _ => l.stopped
  block : ∀ run changed, Edit run changed [] → changed.status = .blocked →
    Triple l.contract (l.holding run) (Orchestrator.save changed) fun _ => l.stopped
  clear : ∀ run, Triple l.contract (fun w => l.going w ∧ l.copy run w)
    (o.cancelIfRequestedNoting nothing [] run (Orchestrator.cleared run.runId)) fun found w =>
      (found = none → l.ready w ∧ l.clean run w) ∧ (found ≠ none → l.stopped w)
  invoke : ∀ taskId request, Triple l.contract l.ready
    (Orchestrator.invoke runId taskId request) fun _ => l.going
  passOver : Triple l.contract l.going
    (atomic (note fun _ => [.passedOver runId]) : Prog Unit) fun _ => l.ended
  messages : ∀ run : Run, run.runId = runId → Triple l.contract l.going
    (storeCall (Orchestrator.readMessages o run)) fun _ => l.going

variable {l} {self : Orchestrator} {runId : String} {run : Run} {α : Type}

section Rules

variable (hl : l.Sound self runId)
include hl

/-- A program that does not concern the runs. -/
theorem Sound.quiet {p : Prog α} {inv : World → Prop} (hinv : l.Steady inv)
    (hp : Within l.still p) : Triple l.contract inv p fun _ => inv :=
  hp.triple hl.guar hl.mild.may hinv.rely hinv.still

theorem Sound.steady : l.Steady (l.holding run) where
  rely _ _ h hw := ⟨hl.going.rely _ _ h hw.1, (hl.clean run).rely _ _ h hw.2⟩
  still _ _ h hw := ⟨hl.going.still _ _ h hw.1, (hl.clean run).guar _ _ (hl.guar _ _ h) hw.2⟩

theorem Sound.quiet_holding {p : Prog α} (hp : Within l.still p) :
    Triple l.contract (l.holding run) p fun _ => l.holding run :=
  hl.quiet hl.steady hp

theorem Sound.quiet_going {p : Prog α} (hp : Within l.still p) :
    Triple l.contract l.going p fun _ => l.going :=
  hl.quiet hl.going hp

theorem Sound.quiet_stopped {p : Prog α} (hp : Within l.still p) :
    Triple l.contract l.stopped p fun _ => l.stopped :=
  hl.quiet hl.stopped hp

/-- The worker still holds its run after what it does with another copy. -/
theorem Sound.keeping {p : Prog α} {pre : World → Prop} {post : α → World → Prop}
    (h : Triple l.contract pre p post) (hpre : ∀ w, l.holding run w → pre w) :
    Triple l.contract (l.holding run) p fun a w => post a w ∧ l.clean run w :=
  (h.frame (hl.clean run).rely (hl.clean run).guar).conseq (fun w hw => ⟨hpre w hw, hw.2⟩)
    fun _ _ h => h

/-- The run that is held is the worker's. -/
theorem Sound.naming {p : Prog α} {pre : World → Prop} {post : α → World → Prop}
    (hpre : ∀ w, pre w → l.copy run w) (h : run.runId = runId → Triple l.contract pre p post) :
    Triple l.contract pre p post :=
  .knowing (fun w hw => hl.named run w (hpre w hw)) h

theorem Sound.holding_naming {p : Prog α} {post : α → World → Prop}
    (h : run.runId = runId → Triple l.contract (l.holding run) p post) :
    Triple l.contract (l.holding run) p post :=
  hl.naming (fun w hw => hl.copy_of_clean run w hw.2) h

/-! ## Checkpoints -/

theorem Sound.saveStages {stages : List RunStatus} (ha : run.status.Active)
    (hs : ∀ stage ∈ stages, stage.Active) :
    Triple l.contract (l.holding run) (Orchestrator.saveStages run stages) l.holding := by
  induction stages generalizing run with
  | nil => exact Triple.pure fun _ hw => hw
  | cons stage stages ih =>
    have hstage : stage.Active := hs stage (by simp)
    refine Triple.bind (m := fun saved w => l.holding saved w ∧ saved.status.Active) ?_ fun saved =>
      Triple.assuming fun ha => ih ha fun s hm => hs s (by simp [hm])
    intro w hw
    refine wp_bind (wp_ofExcept (fun moved hm => ?_) fun _ _ => trivial)
    have hmoved : moved.status = stage := by
      rw [(transition_ok hm).1]
      rfl
    refine wp_mono (fun saved w' h => ⟨h.1, ?_⟩) (fun _ _ h => h)
      (hl.save run moved (.advance ha hstage hm) (by rwa [hmoved]) w hw)
    rw [h.2.status, hmoved]
    exact hstage

omit hl in
theorem stagesBetween_active {current target stage : RunStatus}
    (h : stage ∈ Orchestrator.stagesBetween current target) : stage.Active :=
  List.mem_of_mem_take (List.mem_of_mem_drop h)

theorem Sound.advance {target : RunStatus} :
    Triple l.contract (l.holding run) (Orchestrator.advance run target) l.holding := by
  unfold Orchestrator.advance
  split
  · exact Triple.pure fun _ hw => hw
  · next h =>
    push Not at h
    exact hl.saveStages h.2.1 fun _ => stagesBetween_active

theorem Sound.advanceBy {eventType : Contracts.AskEventType} :
    Triple l.contract (l.holding run) (Orchestrator.advanceBy run eventType) l.holding := by
  unfold Orchestrator.advanceBy
  split
  · exact hl.advance
  · exact hl.advance
  · exact hl.advance
  · exact Triple.pure fun _ hw => hw

theorem Sound.unlessCancelled_copy {cancelled : α} {rest : Prog α} {post : α → World → Prop}
    (hstop : ∀ w, l.stopped w → post cancelled w)
    (hrest : Triple l.contract (l.holding run) rest post) :
    Triple l.contract (fun w => l.going w ∧ l.copy run w)
      (self.unlessCancelled run cancelled rest) post := by
  refine (hl.poll run).bind fun found => ?_
  rintro w ⟨hnone, hsome⟩
  cases found with
  | none => exact hrest w (hnone rfl)
  | some run => exact hstop w (hsome (by simp))

theorem Sound.unlessCancelled {cancelled : α} {rest : Prog α} {post : α → World → Prop}
    (hstop : ∀ w, l.stopped w → post cancelled w)
    (hrest : Triple l.contract (l.holding run) rest post) :
    Triple l.contract (l.holding run) (self.unlessCancelled run cancelled rest) post :=
  (hl.unlessCancelled_copy hstop hrest).conseq
    (fun w hw => ⟨hw.1, hl.copy_of_clean run w hw.2⟩) fun _ _ h => h

/-- An Ask invocation for the run that is held, unless the run is cancelled. -/
theorem Sound.invoking {cancelled : α} {taskId : Option String} {request : Contracts.AskRequest}
    {k : AskStream → Prog α} {post : α → World → Prop} (hstop : ∀ w, l.stopped w → post cancelled w)
    (hk : ∀ stream, Triple l.contract (l.holding run) (k stream) post) :
    Triple l.contract (l.holding run) (self.beforeInvoking run cancelled
      (Orchestrator.invoke run.runId taskId request >>= k)) post := by
  refine hl.holding_naming fun hid => ?_
  refine Triple.bind ((hl.clear run).conseq (fun w hw => ⟨hw.1, hl.copy_of_clean run w hw.2⟩)
    fun _ _ h => h) fun found => ?_
  rintro w ⟨hnone, hsome⟩
  cases found with
  | some run => exact hstop w (hsome (by simp))
  | none =>
    rw [← hid] at hl
    have hinvoke := (hl.invoke taskId request).frame (hl.clean run).rely (hl.clean run).guar
    exact hinvoke.bind hk w (hnone rfl)

theorem Sound.waitForUser {response : ResponseJson} {message : String}
    {payload : List (String × Json)} {taskId : Option String} :
    Triple l.contract (fun w => l.going w ∧ l.copy run w)
      (self.waitForUser run response message payload taskId) fun _ => l.stopped := by
  refine Triple.bind (m := fun _ => l.stopped) ?_ fun saved => hl.quiet_stopped ?_
  · intro w hw
    refine wp_bind (wp_ofExcept (fun moved hm => ?_) fun _ _ => trivial)
    exact hl.wait run _ taskId (.wait hm response taskId) w hw
  · exact (assistantMessage_within hl.lenient.toQuiet).bind fun _ =>
      appendEvent_within hl.lenient.toQuiet (by decide)

theorem Sound.waitHolding {response : ResponseJson} {message : String}
    {payload : List (String × Json)} {taskId : Option String} :
    Triple l.contract (l.holding run) (self.waitForUser run response message payload taskId)
      fun _ => l.stopped :=
  hl.waitForUser.conseq (fun w hw => ⟨hw.1, hl.copy_of_clean run w hw.2⟩) fun _ _ h => h

/-- A run that is completed, and what is done after it. -/
theorem Sound.completing {response : ResponseJson} {now : Contracts.Instant} {k : Run → Prog α}
    (hk : ∀ saved, Within l.still (k saved)) :
    Triple l.contract (l.holding run)
      (Orchestrator.saveMoved run .completed (fun run => { run with
        responseJson := some response, completedAt := some now }) [.completed run.runId] >>= k)
      fun _ => l.stopped := by
  refine Triple.bind (m := fun _ => l.stopped) ?_ fun saved => hl.quiet_stopped (hk saved)
  intro w hw
  refine wp_bind (wp_ofExcept (fun moved hm => ?_) fun _ _ => trivial)
  exact hl.complete run _ (.complete hm response now) w hw

end Rules

end Logic

end Runtime

/-! ## The federated path -/

namespace Federation

open Infra.Program (Triple within_ask within_ofExcept within_pure)
open Runtime

variable {l : Logic} {self : Orchestrator} {runId : String} {run : Run}
  (hl : l.Sound self runId)
include hl

theorem failTask_triple {α : Type} {task : SourceTask} {code : String} {post : α → World → Prop} :
    Triple l.contract (l.holding run) (failTask self run task code : Prog α) post := by
  refine (hl.quiet_holding (within_onFederation hl.lenient.toQuiet)).bind fun _ => ?_
  refine (hl.quiet_holding (appendEvent_within hl.lenient.toQuiet (by decide))).bind fun _ => ?_
  exact Triple.throw

theorem consume_triple {task : SourceTask} {raised : Option Runtime.Failure}
    {response : Option Contracts.AskResponse} {failure : Option Runtime.Failure}
    {records : List AskEventRecord} :
    Triple l.contract (l.holding run) (consume self run task raised response failure records)
      fun outcome w => (outcome = none → l.stopped w) ∧ (outcome ≠ none → l.holding run w) := by
  induction records generalizing response failure with
  | nil =>
    cases raised with
    | some e => exact Triple.throw
    | none =>
      refine hl.unlessCancelled (fun w hw => ⟨fun _ => hw, fun h => absurd rfl h⟩) ?_
      exact Triple.pure fun w hw => ⟨nofun, fun _ => hw⟩
  | cons record records ih =>
    refine (hl.quiet_holding (appendEvent_within hl.lenient.toQuiet (by decide))).bind fun _ => ?_
    exact hl.unlessCancelled (fun w hw => ⟨fun _ => hw, fun h => absurd rfl h⟩) ih

theorem invokeAndConsume_triple {task : SourceTask} {request : Contracts.AskRequest} :
    Triple l.contract (l.holding run) (invokeAndConsume self run task request)
      fun outcome w => (outcome = none → l.stopped w) ∧ (outcome ≠ none → l.holding run w) := by
  exact hl.invoking (fun w hw => ⟨fun _ => hw, fun h => absurd rfl h⟩) fun stream => consume_triple hl

theorem settleTask_triple {task : SourceTask} {scope : ExecutionScope}
    {response : Contracts.AskResponse} :
    Triple l.contract (l.holding run) (settleTask self run task scope response)
      fun _ => l.paused := by
  have hpaused : ∀ w, l.holding run w → l.paused w := fun w hw => hl.paused_of_going w hw.1
  unfold settleTask
  split
  · refine (hl.quiet_holding (within_onFederation hl.lenient.toQuiet)).bind fun _ => ?_
    refine hl.holding_naming fun hid => ?_
    rw [hid]
    refine Triple.bind (hl.get.conseq (fun w hw => hw.1) fun _ _ h => h) fun current => ?_
    exact hl.waitForUser.conseq (fun _ h => h) fun _ w h => hl.paused_of_stopped w h
  · split
    · split
      · exact failTask_triple hl
      · exact (hl.quiet_holding (completeTask_within hl.lenient.toQuiet)).conseq (fun _ h => h)
          fun _ => hpaused
    · exact failTask_triple hl

theorem executeTask_triple {task : SourceTask} {scope : ExecutionScope}
    {clarification : Option String} :
    Triple l.contract (l.holding run) (executeTask self run task scope clarification)
      fun _ => l.paused := by
  refine (hl.quiet_holding within_ask).bind fun started => ?_
  refine (hl.quiet_holding (within_onFederation hl.lenient.toQuiet)).bind fun task => ?_
  refine (hl.quiet_holding (appendEvent_within hl.lenient.toQuiet (by decide))).bind fun _ => ?_
  refine (hl.quiet_holding askRequest_within).bind fun request => ?_
  refine (invokeAndConsume_triple hl).bind fun outcome => ?_
  split
  · exact (hl.quiet_stopped (skipTask_within hl.lenient.toQuiet)).conseq (fun w hw => hw.1 rfl)
      fun _ w hw => hl.paused_of_stopped w hw
  · exact (settleTask_triple hl).conseq (fun w hw => hw.2 (by simp)) fun _ _ h => h
  · exact (failTask_triple hl).conseq (fun w hw => hw.2 (by simp)) fun _ _ h => h

/-- The tasks are gone through to their end, or the attempt ends at one of them. -/
theorem runTasks_triple {scope : ExecutionScope} {clarifications : List String}
    {tasks : List SourceTask} :
    Triple l.contract (l.holding run) (runTasks self run scope clarifications tasks)
      fun finished w => (finished = true → l.holding run w) ∧ (finished = false → l.ended w) := by
  induction tasks with
  | nil => exact Triple.pure fun w hw => ⟨fun _ => hw, nofun⟩
  | cons task tasks ih =>
    refine hl.unlessCancelled (fun w hw => ⟨nofun, fun _ => hl.ended_of_stopped w hw⟩) ?_
    refine (hl.quiet_holding within_ask).bind fun now => ?_
    show Triple _ _ (if _ then _ else _) _
    split
    · exact Triple.throw
    · split
      · exact ih
      · split
        · refine hl.holding_naming fun hid => ?_
          rw [hid]
          refine Triple.bind (hl.passOver.conseq (fun w hw => hw.1) fun _ _ h => h) fun _ => ?_
          exact Triple.pure fun w hw => ⟨nofun, fun _ => hw⟩
        · split
          · exact Triple.throw
          · refine hl.holding_naming fun hid => ?_
            refine (hl.keeping (executeTask_triple hl) fun _ hw => hw).bind fun _ => ?_
            rw [hid]
            refine Triple.bind (hl.reread.frame (hl.clean run).rely (hl.clean run).guar)
              fun current => ?_
            rintro w ⟨⟨hwaiting, hgoing⟩, hclean⟩
            show (if _ then _ else _ : Prog Bool).wp _ _ _ _
            split
            · next h => exact ⟨nofun, fun _ => hl.ended_of_stopped w (hwaiting h)⟩
            · next h => exact ih w ⟨hgoing h, hclean⟩

theorem mergeAndAnswer_triple {question : String} {memory : Conversations.SemanticMemory}
    {plan : FederatedPlan} {tasks : List SourceTask} :
    Triple l.contract (l.holding run) (mergeAndAnswer self run question memory plan tasks)
      fun _ => l.stopped := by
  refine (hl.quiet_holding within_ofExcept).bind fun responses => ?_
  refine (hl.quiet_holding (mappingOf_within hl.lenient.toQuiet)).bind fun mapping => ?_
  refine (hl.quiet_holding (appendEvent_within hl.lenient.toQuiet (by decide))).bind fun _ => ?_
  refine (hl.quiet_holding (within_askOk rfl)).bind fun merged => ?_
  refine (hl.quiet_holding within_ofExcept).bind fun sources => ?_
  refine (hl.quiet_holding (appendEvent_within hl.lenient.toQuiet (by decide))).bind fun _ => ?_
  refine hl.advance.bind fun run => ?_
  refine (hl.quiet_holding (within_askOk rfl)).bind fun answer => ?_
  refine (hl.quiet_holding within_ask).bind fun now => ?_
  refine hl.completing fun run => (assistantMessage_within hl.lenient.toQuiet).bind fun _ => ?_
  exact (recordMemory_within hl.lenient).bind fun _ => completed_within hl.lenient

theorem finish_triple {question : String} {memory : Conversations.SemanticMemory}
    {plan : FederatedPlan} :
    Triple l.contract (l.holding run) (finish self run question memory plan)
      fun _ => l.stopped := by
  refine hl.unlessCancelled (fun _ h => h) ?_
  refine (hl.quiet_holding (within_onFederation hl.lenient.toQuiet)).bind fun tasks => ?_
  show Triple _ _ (if _ then _ else _) _
  split
  · exact Triple.throw
  · exact mergeAndAnswer_triple hl

theorem drive_triple {question : String} {memory : Conversations.SemanticMemory}
    {allowed : List String} {decision : RoutingDecision} {clarifications : List String} :
    Triple l.contract (l.holding run)
      (drive self run question memory allowed decision clarifications) fun _ => l.ended := by
  refine (hl.quiet_holding (planOf_within hl.lenient.toQuiet)).bind fun plan => ?_
  refine hl.advance.bind fun run => hl.advance.bind fun run => ?_
  refine (hl.quiet_holding (within_onFederation hl.lenient.toQuiet)).bind fun tasks => ?_
  refine (runTasks_triple hl).bind fun finished => ?_
  rintro w ⟨hholding, hended⟩
  cases finished with
  | false => exact hended rfl
  | true =>
    exact (finish_triple hl).conseq (fun _ h => h) (fun _ w h => hl.ended_of_stopped w h) w
      (hholding rfl)

end Federation

/-! ## The diagnostic path -/

namespace Diagnostics

open Infra.Program (Triple within_ask within_ofExcept within_pure)
open Runtime

variable {l : Logic} {self : Orchestrator} {runId : String} {run : Run}

/-- What an invocation leaves the worker with. -/
def Outcome.Holds (l : Logic) : Outcome → World → Prop
  | .cancelled, w => l.stopped w
  | .raised run _, w | .ended run _ _, w => l.holding run w

variable (hl : l.Sound self runId)
include hl

theorem failTask_triple {task : DiagnosticTask} {code : String} {retryable : Bool}
    {failure : Failure} {post : DiagnosticCheckpoint → World → Prop} :
    Triple l.contract (l.holding run) (failTask self run task code retryable failure) post := by
  refine (hl.quiet_holding (within_onDiagnostics hl.lenient.toQuiet)).bind fun _ => ?_
  refine (hl.quiet_holding (appendEvent_within hl.lenient.toQuiet (by decide))).bind fun _ => ?_
  exact Triple.throw

theorem consume_triple {task : DiagnosticTask} {raised : Option Failure}
    {response : Option Contracts.AskResponse} {failure : Option Failure}
    {records : List AskEventRecord} :
    Triple l.contract (l.holding run) (consume self task raised run response failure records)
      fun outcome => outcome.Holds l := by
  induction records generalizing run response failure with
  | nil =>
    cases raised with
    | some e => exact Triple.pure fun w hw => hw
    | none => exact hl.unlessCancelled (fun w hw => hw) (Triple.pure fun w hw => hw)
  | cons record records ih =>
    refine hl.advanceBy.bind fun run => ?_
    refine (hl.quiet_holding (appendEvent_within hl.lenient.toQuiet (by decide))).bind fun _ => ?_
    exact hl.unlessCancelled (fun w hw => hw) ih

theorem invokeAndConsume_triple {task : DiagnosticTask} {request : Contracts.AskRequest} :
    Triple l.contract (l.holding run) (invokeAndConsume self run task request)
      fun outcome => outcome.Holds l := by
  exact hl.invoking (fun w hw => hw) fun stream => consume_triple hl

theorem clarifyTask_triple {task : DiagnosticTask} {checkpoint : DiagnosticCheckpoint}
    {response : Contracts.AskResponse} :
    Triple l.contract (l.holding run) (clarifyTask self run task checkpoint response)
      fun _ => l.paused := by
  show Triple _ _ (if _ then _ else _) _
  split
  · refine (hl.quiet_holding (within_ask.bind fun now => ?_)).conseq (fun _ h => h)
      fun _ w hw => hl.paused_of_going w hw.1
    refine (within_onDiagnostics hl.lenient.toQuiet).bind fun task => ?_
    refine (within_onDiagnostics hl.lenient.toQuiet).bind fun checkpoint => ?_
    exact (appendEvent_within hl.lenient.toQuiet (by decide)).bind fun _ => within_pure
  · refine (hl.quiet_holding (within_onDiagnostics hl.lenient.toQuiet)).bind fun task => ?_
    refine hl.holding_naming fun hid => ?_
    rw [hid]
    refine Triple.bind (hl.get.conseq (fun w hw => hw.1) fun _ _ h => h) fun current => ?_
    exact hl.waitForUser.bind fun _ => Triple.pure fun w hw => hl.paused_of_stopped w hw

theorem settleTask_triple {task : DiagnosticTask} {checkpoint : DiagnosticCheckpoint}
    {response : Contracts.AskResponse} {failure : Option Failure} :
    Triple l.contract (l.holding run) (settleTask self run task checkpoint response failure)
      fun _ => l.paused := by
  unfold settleTask
  split
  · exact clarifyTask_triple hl
  · split
    · exact failTask_triple hl
    · split
      · split
        · exact failTask_triple hl
        · exact (hl.quiet_holding (completeTask_within hl.lenient.toQuiet)).conseq (fun _ h => h)
            fun _ w hw => hl.paused_of_going w hw.1
      · exact failTask_triple hl

theorem askTask_triple {task : DiagnosticTask} {workspaceId : String}
    {checkpoint : DiagnosticCheckpoint} {clarification : Option String} :
    Triple l.contract (l.holding run) (askTask self run task workspaceId checkpoint clarification)
      fun _ => l.paused := by
  refine (hl.quiet_holding askRequest_within).bind fun request => ?_
  refine (invokeAndConsume_triple hl).bind fun outcome => ?_
  split
  · refine (hl.quiet_stopped ?_).conseq (fun _ h => h) fun _ w hw => hl.paused_of_stopped w hw
    exact (within_onDiagnostics hl.lenient.toQuiet).bind fun _ => within_pure
  · exact failTask_triple hl
  · exact (hl.quiet_holding (within_onDiagnostics hl.lenient.toQuiet)).bind fun _ => Triple.throw
  · exact settleTask_triple hl

theorem executeTask_triple {task : DiagnosticTask} {conversation : Conversations.Conversation}
    {checkpoint : DiagnosticCheckpoint} {clarification : Option String} :
    Triple l.contract (l.holding run)
      (executeTask self run task conversation checkpoint clarification) fun _ => l.paused := by
  refine hl.holding_naming fun hid => ?_
  unfold executeTask
  rw [hid]
  refine Triple.bind (hl.get.conseq (fun w hw => hw.1) fun _ _ h => h) fun current => ?_
  refine hl.unlessCancelled_copy (fun w hw => hl.paused_of_stopped w hw) ?_
  refine (hl.quiet_holding (within_onDiagnostics hl.lenient.toQuiet)).bind fun task => ?_
  refine (hl.quiet_holding (within_onDiagnostics hl.lenient.toQuiet)).bind fun checkpoint => ?_
  refine (hl.quiet_holding (appendEvent_within hl.lenient.toQuiet (by decide))).bind fun _ => ?_
  exact askTask_triple hl

/-- The tasks of a round are gone through to their end, or the run stops at one of them. -/
theorem runTasks_triple {conversation : Conversations.Conversation}
    {clarifications : List String} {checkpoint : DiagnosticCheckpoint}
    {tasks : List DiagnosticTask} :
    Triple l.contract (l.holding run)
      (runTasks self run conversation clarifications checkpoint tasks) fun result w =>
        (result = none → l.stopped w) ∧ (result ≠ none → l.holding run w) := by
  induction tasks generalizing checkpoint with
  | nil => exact Triple.pure fun w hw => ⟨nofun, fun _ => hw⟩
  | cons task tasks ih =>
    refine hl.unlessCancelled (fun w hw => ⟨fun _ => hw, fun h => absurd rfl h⟩) ?_
    split
    · exact ih
    · split
      · exact Triple.throw
      · refine hl.holding_naming fun hid => ?_
        refine (hl.keeping (executeTask_triple hl) fun _ hw => hw).bind fun checkpoint => ?_
        rw [hid]
        refine Triple.bind (hl.reread.frame (hl.clean run).rely (hl.clean run).guar)
          fun current => ?_
        rintro w ⟨⟨hwaiting, hgoing⟩, hclean⟩
        show (if _ then _ else _ : Prog (Option DiagnosticCheckpoint)).wp _ _ _ _
        split
        · next h => exact ⟨fun _ => hwaiting h, fun h => absurd rfl h⟩
        · next h => exact ih w ⟨hgoing h, hclean⟩

theorem waitForClarification_triple {question message : String} :
    Triple l.contract (l.holding run) (waitForClarification self run question message)
      fun _ => l.stopped := by
  refine hl.holding_naming fun hid => ?_
  unfold waitForClarification
  rw [hid]
  refine (hl.quiet_holding within_ofExcept).bind fun item => ?_
  refine Triple.bind (hl.get.conseq (fun w hw => hw.1) fun _ _ h => h) fun current => ?_
  exact hl.waitForUser

/-- What planning a round leaves the worker with. -/
def Planned.Holds (l : Logic) (run : Run) (planned : Planned) (w : World) : Prop :=
  (planned = .waiting → l.stopped w) ∧ (planned ≠ .waiting → l.holding run w)

theorem openRound_triple {checkpoint : DiagnosticCheckpoint} {decision : DiagnosticDecision}
    {selection : Selection} :
    Triple l.contract (l.holding run) (openRound self run checkpoint decision selection)
      fun planned => planned.Holds l run := by
  refine (hl.quiet_holding makeTasks_within).bind fun planned => ?_
  refine (hl.quiet_holding (within_onDiagnostics hl.lenient.toQuiet)).bind fun checkpoint => ?_
  refine (hl.quiet_holding (appendEvent_within hl.lenient.toQuiet (by decide))).bind fun _ => ?_
  refine (hl.quiet_holding (announce_within hl.lenient.toQuiet)).bind fun _ => ?_
  split
  · exact Triple.pure fun w hw => ⟨nofun, fun _ => hw⟩
  · exact Triple.pure fun w hw => ⟨nofun, fun _ => hw⟩
  · refine (hl.quiet_holding (within_onDiagnostics hl.lenient.toQuiet)).bind fun tasks => ?_
    exact Triple.pure fun w hw => ⟨nofun, fun _ => hw⟩

theorem planRound_triple {question : String} {memory : Conversations.SemanticMemory}
    {checkpoint : DiagnosticCheckpoint} :
    Triple l.contract (l.holding run) (planRound self run question memory checkpoint)
      fun planned => planned.Holds l run := by
  refine (hl.quiet_holding (observations_within hl.lenient.toQuiet)).bind fun observed => ?_
  refine (hl.quiet_holding (propose_within hl.lenient.toQuiet).attempt).bind fun proposed => ?_
  split
  · split
    · exact Triple.pure fun w hw => ⟨fun h => (by cases h), fun _ => hw⟩
    · exact Triple.throw
  · refine (waitForClarification_triple hl).bind fun _ => ?_
    exact Triple.pure fun w hw => ⟨fun _ => hw, fun h => absurd rfl h⟩
  · exact openRound_triple hl

theorem nextTasks_triple {question : String} {memory : Conversations.SemanticMemory}
    {checkpoint : DiagnosticCheckpoint} :
    Triple l.contract (l.holding run) (nextTasks self run question memory checkpoint)
      fun planned => planned.Holds l run := by
  refine (hl.quiet_holding (within_onDiagnostics hl.lenient.toQuiet)).bind fun tasks => ?_
  split
  · split
    · exact Triple.pure fun w hw => ⟨nofun, fun _ => hw⟩
    · exact planRound_triple hl
  · exact Triple.pure fun w hw => ⟨nofun, fun _ => hw⟩

theorem rounds_triple {conversation : Conversations.Conversation} {question : String}
    {memory : Conversations.SemanticMemory} {clarifications : List String} {fuel : Nat}
    {checkpoint : DiagnosticCheckpoint} :
    Triple l.contract (l.holding run)
      (rounds self run conversation question memory clarifications fuel checkpoint) fun ended w =>
        (ended = .stopped → l.stopped w) ∧ (ended ≠ .stopped → l.holding run w) := by
  induction fuel generalizing checkpoint with
  | zero => exact Triple.bind (hl.quiet_holding within_ask) fun answer => answer.elim
  | succ fuel ih =>
    unfold rounds
    split
    · exact Triple.pure fun w hw => ⟨fun h => (by cases h), fun _ => hw⟩
    · refine hl.unlessCancelled (fun w hw => ⟨fun _ => hw, fun h => absurd rfl h⟩) ?_
      refine (nextTasks_triple hl).bind fun planned => ?_
      rintro w ⟨hwaiting, hholding⟩
      cases planned with
      | waiting => exact ⟨fun _ => hwaiting rfl, fun h => absurd rfl h⟩
      | stop planningFailed => exact ⟨fun h => (by cases h), fun _ => hholding fun h => by cases h⟩
      | tasks checkpoint tasks =>
        refine (runTasks_triple hl).bind (fun result => ?_) w (hholding fun h => by cases h)
        rintro w ⟨hnone, hsome⟩
        cases result with
        | none => exact ⟨fun _ => hnone rfl, fun h => absurd rfl h⟩
        | some checkpoint =>
          show (if _ then _ else _ : Prog LoopEnd).wp _ _ _ _
          split
          · exact ⟨fun h => (by cases h), fun _ => hsome fun h => by cases h⟩
          · exact ih w (hsome fun h => by cases h)

theorem answerRun_triple {question answer source : String}
    {memory : Conversations.SemanticMemory} {verified : List DiagnosticObservation} :
    Triple l.contract (l.holding run)
      (answerRun self run question answer source memory verified) fun _ => l.stopped := by
  refine hl.holding_naming fun hid => ?_
  unfold answerRun
  rw [hid]
  refine Triple.bind (hl.reopen.conseq (fun w hw => hw.1) fun _ _ h => h) fun current => ?_
  refine hl.advance.bind fun current => (hl.quiet_holding within_ask).bind fun now => ?_
  refine hl.holding_naming fun hcurrent => ?_
  rw [← hcurrent]
  refine hl.completing fun saved => (assistantMessage_within hl.lenient.toQuiet).bind fun _ => ?_
  refine (recordMemory_within hl.lenient).bind fun _ => ?_
  exact (appendEvent_within hl.lenient.toQuiet (by decide)).bind fun _ => completed_within hl.lenient

theorem finish_triple {question : String} {memory : Conversations.SemanticMemory}
    {planningFailed : Bool} :
    Triple l.contract (l.holding run) (finish self run question memory planningFailed)
      fun _ => l.stopped := by
  refine (hl.quiet_holding (observations_within hl.lenient.toQuiet)).bind fun observed => ?_
  show Triple _ _ (if _ then _ else _) _
  split
  · exact Triple.throw
  · refine hl.unlessCancelled (fun _ h => h) ?_
    refine (hl.quiet_holding (appendEvent_within hl.lenient.toQuiet (by decide))).bind fun _ => ?_
    refine (hl.quiet_holding compose_within).bind fun answer => ?_
    exact hl.unlessCancelled (fun _ h => h) (answerRun_triple hl)

theorem drive_triple {conversation : Conversations.Conversation} {question : String}
    {memory : Conversations.SemanticMemory} {clarifications : List String} :
    Triple l.contract (l.holding run)
      (drive self run conversation question memory clarifications) fun _ => l.stopped := by
  refine (hl.quiet_holding (reconcile_within hl.lenient.toQuiet)).bind fun checkpoint => ?_
  refine (hl.quiet_holding (begin_within hl.lenient.toQuiet)).bind fun checkpoint => ?_
  show Triple _ _ (if _ then _ else _) _
  split
  · exact Triple.throw
  · refine (hl.quiet_holding needsBaseline_within).bind fun needed => ?_
    cases needed with
    | true => exact waitForClarification_triple hl
    | false =>
      refine (hl.quiet_holding within_ask).bind fun fuel => (rounds_triple hl).bind fun ended => ?_
      rintro w ⟨hstopped, hholding⟩
      cases ended with
      | stopped => exact hstopped rfl
      | done planningFailed => exact finish_triple hl w (hholding fun h => by cases h)

end Diagnostics

/-! ## The normal path -/

namespace Runtime.Orchestrator

open Infra.Program (Triple within_ask within_ofExcept within_pure within_throw wp_bind wp_mono
  wp_ofExcept)

variable {l : Logic} {self : Orchestrator} {runId : String} {run : Run}
  (hl : l.Sound self runId)
include hl

theorem complete_triple {response : Contracts.AskResponse} :
    Triple l.contract (l.holding run) (complete self run response) fun _ => l.stopped := by
  refine hl.advance.bind fun run => (hl.quiet_holding within_ask).bind fun now => ?_
  refine hl.completing fun run => (assistantMessage_within hl.lenient.toQuiet).bind fun _ => ?_
  split
  · exact completed_within hl.lenient
  · refine (memory_within hl.lenient.toQuiet).bind fun memory => within_ask.bind fun now => ?_
    exact (putMemory_within hl.lenient).bind fun _ => completed_within hl.lenient

theorem clarifyOrBlock_triple {response : Contracts.AskResponse} {previous : Option String} :
    Triple l.contract (l.holding run) (clarifyOrBlock self run response previous)
      fun _ => l.stopped := by
  unfold clarifyOrBlock
  split
  · next code message _ =>
    refine (hl.quiet_holding within_ask).bind fun now => ?_
    refine Triple.bind (m := fun _ => l.stopped) ?_ fun _ =>
      hl.quiet_stopped (appendEvent_within hl.lenient.toQuiet (by decide))
    intro w hw
    refine wp_bind (wp_ofExcept (fun moved hm => ?_) fun _ _ => trivial)
    refine hl.block run _ (.block hm code message now) ?_ w hw
    rw [(transition_ok hm).1]
    rfl
  · exact hl.waitHolding

theorem settle_triple {response : Contracts.AskResponse} {previous : Option String} :
    Triple l.contract (l.holding run) (settle self run response previous) fun _ => l.stopped := by
  unfold settle
  split
  · exact clarifyOrBlock_triple hl
  · split
    · exact Triple.throw
    · exact complete_triple hl

/-- What an invocation leaves the worker with. -/
def Outcome.Holds (l : Logic) (outcome : Outcome) (w : World) : Prop :=
  (outcome = none → l.stopped w) ∧ ∀ found, outcome = some found → l.holding found.1 w

omit hl in
theorem Outcome.holds_none {w : World} (h : l.stopped w) : Outcome.Holds l none w := by
  refine ⟨fun _ => h, ?_⟩
  intro found hf
  cases hf

theorem consume_triple {raised : Option Failure} {response : Option Contracts.AskResponse}
    {failure : Option Failure} {records : List AskEventRecord} :
    Triple l.contract (l.holding run) (consume self raised run response failure records)
      (Outcome.Holds l) := by
  induction records generalizing run response failure with
  | nil =>
    cases raised with
    | some e => exact Triple.throw
    | none =>
      refine hl.unlessCancelled (fun _ h => Outcome.holds_none h) (Triple.pure fun w hw => ⟨?_, ?_⟩)
      · intro h
        cases h
      intro found hf
      obtain rfl := Option.some.inj hf
      exact hw
  | cons record records ih =>
    refine hl.unlessCancelled (fun _ h => Outcome.holds_none h) ?_
    refine hl.advanceBy.bind fun run => ?_
    refine (hl.quiet_holding (appendEvent_within hl.lenient.toQuiet (by decide))).bind fun _ => ?_
    exact hl.unlessCancelled (fun _ h => Outcome.holds_none h) ih

theorem invokeAndConsume_triple {request : Contracts.AskRequest} :
    Triple l.contract (l.holding run) (invokeAndConsume self run request) (Outcome.Holds l) := by
  exact hl.invoking (fun _ h => Outcome.holds_none h) fun stream => consume_triple hl

theorem askOnce_triple {resolved : String} {datasourceId previous : Option String} :
    Triple l.contract (l.holding run) (askOnce self run resolved datasourceId previous)
      fun _ => l.stopped := by
  refine (hl.quiet_holding askRequest_within).bind fun request => ?_
  refine (invokeAndConsume_triple hl).bind fun outcome => ?_
  rintro w ⟨hnone, hsome⟩
  split
  · exact hnone rfl
  · trivial
  · trivial
  · exact settle_triple hl w (hsome _ rfl)

theorem askForSource_triple {resolved workspaceId : String} {allowed : List String}
    {previous : Option String} :
    Triple l.contract (l.holding run) (askForSource self run resolved workspaceId allowed previous)
      fun _ => l.stopped := by
  unfold askForSource
  split
  · exact Triple.throw
  · refine (hl.quiet_holding (within_askOk rfl)).bind fun sources => ?_
    exact (hl.quiet_holding within_ofExcept).bind fun item => hl.waitHolding

theorem driveRouted_triple {conversation : Conversations.Conversation} {resolved : String}
    {memory : Conversations.SemanticMemory} {clarifications : List String}
    {previous : Option String} (ha : run.status.Active) :
    Triple l.contract (l.holding run)
      (driveRouted self run conversation resolved memory clarifications previous)
      fun _ => l.ended := by
  refine (hl.quiet_holding readyScope_within).bind fun allowed => ?_
  refine (hl.quiet_holding (route_within hl.lenient.toQuiet)).bind fun decision => ?_
  cases decision with
  | none =>
    exact (askForSource_triple hl).conseq (fun _ h => h) fun _ w h => hl.ended_of_stopped w h
  | some decision =>
    show Triple _ _ (if _ then _ else _) _
    split
    · refine Triple.bind (hl.save run _ (.annotate ha run.resolvedQuestion .federated) ha)
        fun run => ?_
      exact (Federation.drive_triple hl).conseq (fun _ h => h.1) fun _ _ h => h
    · exact (askOnce_triple hl).conseq (fun _ h => h) fun _ w h => hl.ended_of_stopped w h

theorem driveQuestion_triple {conversation : Conversations.Conversation} {resolved : String}
    {memory : Conversations.SemanticMemory} {clarifications : List String}
    {previous : Option String} (ha : run.status.Active) :
    Triple l.contract (l.holding run)
      (driveQuestion self run conversation resolved memory clarifications previous)
      fun _ => l.ended := by
  refine (hl.quiet_holding isWorkspaceInventory_within).bind fun inventory => ?_
  show Triple _ _ (if _ then _ else _) _
  split
  · exact driveRouted_triple hl ha
  · split
    · exact Triple.throw
    · exact (askOnce_triple hl).conseq (fun _ h => h) fun _ w h => hl.ended_of_stopped w h

theorem drivePath_triple {input : AttemptInput} {resolved : String} {diagnostic : Bool}
    {previous : Option String} (ha : run.status.Active) :
    Triple l.contract (l.holding run) (drivePath self run input resolved diagnostic previous)
      fun _ => l.ended := by
  cases diagnostic with
  | true =>
    show Triple _ _ (if _ then _ else _) _
    split
    · exact Triple.throw
    · exact (Diagnostics.drive_triple hl).conseq (fun _ h => h) fun _ w h => hl.ended_of_stopped w h
  | false => exact driveQuestion_triple hl ha

/-- Reading the messages leaves a mark of the run. -/
theorem readInput_triple :
    Triple l.contract (l.holding run) (readInput self run) fun _ => l.holding run := by
  refine (hl.quiet_holding (within_readConversations hl.lenient.toQuiet)).bind fun conversation => ?_
  refine hl.holding_naming fun hid => ?_
  refine Triple.bind (hl.keeping (hl.messages run hid) fun _ hw => hw.1) fun messages => ?_
  refine hl.quiet_holding ?_
  split
  · exact within_throw
  · exact (memory_within hl.lenient.toQuiet).bind fun memory => within_pure

/-- **An attempt that ends without an error has come to an end.** -/
theorem drive_triple {previous : Option String} (ha : run.status.Active) :
    Triple l.contract (fun w => l.going w ∧ l.copy run w) (drive self run previous)
      fun _ => l.ended := by
  refine hl.unlessCancelled_copy (fun w hw => hl.ended_of_stopped w hw) ?_
  refine (readInput_triple hl).bind fun input => ?_
  refine (hl.quiet_holding (within_askOk rfl)).bind fun resolved => ?_
  refine (hl.quiet_holding isDiagnostic_within).bind fun diagnostic => ?_
  refine Triple.bind (hl.save run _ (.annotate ha (some resolved) (kindOf run diagnostic)) ha)
    fun saved => Triple.assuming fun hsaved => ?_
  have ha : saved.status.Active := by
    rw [hsaved.status]
    exact ha
  refine (hl.quiet_holding (appendEvent_within hl.lenient.toQuiet (by decide))).bind fun _ => ?_
  refine hl.unlessCancelled (fun w hw => hl.ended_of_stopped w hw) ?_
  refine Triple.bind (m := fun run w => l.holding run w ∧ run.status.Active) ?_ fun run =>
    Triple.assuming fun ha => drivePath_triple hl ha
  intro w hw
  refine wp_bind (wp_ofExcept (fun moved hm => ?_) fun _ _ => trivial)
  have hmoved : moved.status.Active := by
    rw [(transition_ok hm).1]
    show RunStatus.discovering.Active
    decide
  refine wp_mono (fun run w' h => ⟨h.1, ?_⟩) (fun _ _ h => h)
    (hl.save saved moved (.advance ha (by decide) hm) hmoved w hw)
  rw [h.2.status]
  exact hmoved

end Runtime.Orchestrator
