import Qaneris.Runtime.Properties.Changes
import Qaneris.Runtime.Queueings

/-!
# Attempts of a run

A run that is queued is started by one worker at most, and its attempts are counted.

* `Edit.standing` — every edit of a run keeps it in step with its history
* `started_once` — so does every interleaving
-/

namespace Runtime

open Infra (Pool)
open Infra.Turns (AtMostOnce Closed Neutral Open append_induction atMostOnce_nil closed_concat
  open_concat turnsTaken_concat turnsTaken_neutral turnsTaken_take)
open Orchestrator (Startable)

/-! ## Acts -/

/-- The act neither queues nor starts the run. -/
abbrev Idle (runId : String) : Act → Prop := Neutral (Queues runId) (Starts runId)

theorem Act.Minor.idle {act : Act} (h : act.Minor) (runId : String) : Idle runId act := by
  cases act <;> first | exact h.elim | exact ⟨id, nofun⟩

theorem queues_of_retried {runId : String} (act : Act) (h : act = .queued runId .retried) :
    Queues runId act := by
  rw [h]
  rfl

/-- The acts of an edit belong to its run. -/
theorem Edit.idle_of_ne {run changed : Run} {acts : List Act} {runId : String}
    (h : Edit run changed acts) (hne : run.runId ≠ runId) : ∀ act ∈ acts, Idle runId act := by
  cases h <;> simp [Neutral, Queues, Starts, hne]

/-! ## A run in step with its history -/

/-- The run and its history: a queued run has been queued last, any other has been started last,
unless it was cancelled. -/
structure Standing (runId : String) (run : Run) (acts : List Act) : Prop where
  attempt : run.attempt = 1 + retriesStarted runId acts
  queued : Startable run → ∃ how, Open (Queues runId) (Starts runId) (.queued runId how) acts ∧
    (how = .retried ↔ run.status = .failed)
  started : ¬ Startable run → run.status ≠ .cancelled → Closed (Queues runId) (Starts runId) acts

section Standing

variable {runId : String} {run changed : Run} {acts : List Act}

theorem Standing.concat (h : Standing runId run acts) {act : Act} (hact : Idle runId act) :
    Standing runId run (acts ++ [act]) where
  attempt := by
    rw [h.attempt]
    exact congrArg _ (turnsTaken_concat hact.2).symm
  queued hs := by
    obtain ⟨how, hopen, hhow⟩ := h.queued hs
    exact ⟨how, hopen.concat hact, hhow⟩
  started hs hc := (h.started hs hc).concat hact

theorem Standing.append (h : Standing runId run acts) {more : List Act}
    (hmore : ∀ act ∈ more, Idle runId act) : Standing runId run (acts ++ more) :=
  append_induction (fun _ _ ha h => Standing.concat h ha) hmore h

/-- A change by which the run is not queued, and not started. -/
theorem Standing.of_changed (h : Standing runId run acts) (ha : changed.attempt = run.attempt)
    (hq : Startable changed → Startable run ∧ (changed.status = .failed ↔ run.status = .failed))
    (hs : ¬ Startable changed → changed.status ≠ .cancelled →
      ¬ Startable run ∧ run.status ≠ .cancelled) : Standing runId changed acts where
  attempt := ha.trans h.attempt
  queued hc := by
    obtain ⟨how, hopen, hhow⟩ := h.queued (hq hc).1
    exact ⟨how, hopen, hhow.trans (hq hc).2.symm⟩
  started hc hne := h.started (hs hc hne).1 (hs hc hne).2

theorem not_startable_of_active (h : run.status.Active) : ¬ Startable run := by
  rintro (hs | ⟨hs, -⟩ | ⟨hs, -⟩) <;> rw [hs] at h <;> revert h <;> decide

theorem not_cancelled_of_active (h : run.status.Active) : run.status ≠ .cancelled := by
  intro hs
  rw [hs] at h
  revert h
  decide

/-- A run as a transition leaves it is not queued. -/
theorem not_startable_of_stage (hs : run.status ≠ .created)
    (hstage : run.currentStage = run.status.stage) : ¬ Startable run := by
  rintro (hc | ⟨hw, hq⟩ | ⟨hf, hq⟩)
  · exact hs hc
  · rw [hstage, hw] at hq
    revert hq
    decide
  · rw [hstage, hf] at hq
    revert hq
    decide

/-- A run in progress ends or goes on. -/
theorem Standing.of_active (h : Standing runId run acts) (ha : run.status.Active)
    (hattempt : changed.attempt = run.attempt) (hs : changed.status ≠ .created)
    (hstage : changed.currentStage = changed.status.stage) : Standing runId changed acts :=
  h.of_changed hattempt (fun hq => absurd hq (not_startable_of_stage hs hstage)) fun _ _ =>
    ⟨not_startable_of_active ha, not_cancelled_of_active ha⟩

/-- A run that is cancelled is not started any more. -/
theorem Standing.of_cancelled (h : Standing runId run acts) (ha : changed.attempt = run.attempt)
    (hc : changed.status = .cancelled) : Standing runId changed acts := by
  refine h.of_changed ha ?_ fun _ hne => absurd hc hne
  rintro (hs | ⟨hs, -⟩ | ⟨hs, -⟩) <;> rw [hc] at hs <;> cases hs

theorem active_of_wait {moved : Run} {target : RunStatus} (hm : transition run target = .ok moved)
    (ht : target ∈ [RunStatus.completed, .failed, .blocked, .waitingUser]) : run.status.Active := by
  have ha := (transition_ok hm).2
  revert ha ht
  cases run.status <;> cases target <;> decide

/-- **An edit keeps the run in step with its history.** -/
theorem Edit.standing {more : List Act} (h : Edit run changed more) (hid : run.runId = runId)
    (hs : Standing runId run acts) : Standing runId changed (acts ++ more) := by
  subst hid
  cases h with
  | @win moved hstartable hm =>
    obtain ⟨rfl, -⟩ := transition_ok hm
    obtain ⟨how, hopen, hhow⟩ := hs.queued hstartable
    refine ⟨?_, fun hq => ?_, fun _ _ => closed_concat rfl⟩
    · have htake : retriesStarted run.runId (acts ++ [.started run.runId]) =
          retriesStarted run.runId acts +
            if Act.queued run.runId how = .queued run.runId .retried then 1 else 0 :=
        turnsTaken_take queues_of_retried hopen rfl id
      show (if run.status = .failed then run.attempt + 1 else run.attempt) =
        1 + retriesStarted run.runId (acts ++ [.started run.runId])
      rw [htake, hs.attempt]
      -- The run has failed before exactly when it was a retry that queued it.
      by_cases hf : run.status = .failed
      · have hr : Act.queued run.runId how = .queued run.runId .retried := by rw [hhow.mpr hf]
        rw [if_pos hf, if_pos hr]
        omega
      · have hr : Act.queued run.runId how ≠ .queued run.runId .retried := by
          intro he
          exact hf (hhow.mp (Act.queued.inj he).2)
        rw [if_neg hf, if_neg hr]
        omega
    · exact absurd hq (not_startable_of_active (by show RunStatus.contextualizing.Active; decide))
  | annotate ha resolved kind =>
    rw [List.append_nil]
    exact hs.of_changed rfl (fun hq => ⟨hq, Iff.rfl⟩) fun hq hc => ⟨hq, hc⟩
  | advance ha ht hm =>
    obtain ⟨rfl, hallowed⟩ := transition_ok hm
    rw [List.append_nil]
    exact hs.of_active ha rfl hallowed.ne_created rfl
  | stop hc hm now =>
    obtain ⟨rfl, -⟩ := transition_ok hm
    rw [List.append_nil]
    exact hs.of_cancelled rfl rfl
  | wait hm response taskId =>
    have ha := active_of_wait hm (by simp)
    obtain ⟨rfl, hallowed⟩ := transition_ok hm
    refine Standing.concat ?_ ⟨id, nofun⟩
    exact hs.of_active ha rfl hallowed.ne_created rfl
  | complete hm response now =>
    have ha := active_of_wait hm (by simp)
    obtain ⟨rfl, hallowed⟩ := transition_ok hm
    refine Standing.concat ?_ ⟨id, nofun⟩
    exact hs.of_active ha rfl hallowed.ne_created rfl
  | block hm code message now =>
    have ha := active_of_wait hm (by simp)
    obtain ⟨rfl, hallowed⟩ := transition_ok hm
    rw [List.append_nil]
    exact hs.of_active ha rfl hallowed.ne_created rfl
  | fail hm ht code message retryable completedAt hr =>
    have ha := active_of_wait hm (by rcases ht with rfl | rfl <;> simp)
    obtain ⟨rfl, hallowed⟩ := transition_ok hm
    rw [List.append_nil]
    exact hs.of_active ha rfl hallowed.ne_created rfl
  | resume hw hq =>
    have hattempt : retriesStarted run.runId (acts ++ [.queued run.runId .clarified]) =
        retriesStarted run.runId acts := turnsTaken_concat nofun
    refine ⟨hs.attempt.trans (congrArg _ hattempt.symm), fun _ => ?_, fun hnot => ?_⟩
    · refine ⟨.clarified, open_concat rfl, ?_⟩
      simp [hw]
    · exact absurd (Or.inr (Or.inl ⟨hw, rfl⟩)) hnot
  | requeue hf hr hq =>
    have hattempt : retriesStarted run.runId (acts ++ [.queued run.runId .retried]) =
        retriesStarted run.runId acts := turnsTaken_concat nofun
    refine ⟨hs.attempt.trans (congrArg _ hattempt.symm), fun _ => ?_, fun hnot => ?_⟩
    · refine ⟨.retried, open_concat rfl, ?_⟩
      simp [hf]
    · exact absurd (Or.inr (Or.inr ⟨hf, rfl⟩)) hnot
  | withdraw hw hm now =>
    obtain ⟨rfl, -⟩ := transition_ok hm
    refine Standing.concat ?_ ⟨id, nofun⟩
    exact hs.of_cancelled rfl rfl
  | request hopen =>
    refine Standing.concat ?_ ⟨id, nofun⟩
    exact hs.of_changed rfl (fun hq => ⟨hq, Iff.rfl⟩) fun hq hc => ⟨hq, hc⟩

/-- The history of a run in which no turn is taken twice. -/
abbrev Once (runId : String) : List Act → Prop := AtMostOnce (Queues runId) (Starts runId)

theorem Once.append (h : Once runId acts) {more : List Act}
    (hmore : ∀ act ∈ more, ¬ Starts runId act) : Once runId (acts ++ more) :=
  append_induction (fun _ _ hact h => AtMostOnce.concat h hact) hmore h

/-- Only a run that is queued is started. -/
theorem Edit.once {more : List Act} (h : Edit run changed more) (hid : run.runId = runId)
    (hs : Standing runId run acts) (ho : Once runId acts) : Once runId (acts ++ more) := by
  subst hid
  cases h with
  | win hstartable hm =>
    obtain ⟨how, hopen, -⟩ := hs.queued hstartable
    exact ho.take hopen
  | annotate | advance | stop | block | fail => exact ho.append (by simp)
  | wait | complete | resume | requeue | withdraw | request => exact ho.append (by simp [Starts])

end Standing

/-! ## All runs -/

/-- The history of the run fits its row. -/
structure InStep (runId : String) (w : World) : Prop where
  once : Once runId w.acts
  unknown : w.runs.row runId = none → ∀ act ∈ w.acts, Idle runId act
  known : ∀ run, w.runs.row runId = some run → Standing runId run w.acts

/-- Acts that have nothing to do with the run. -/
theorem InStep.append {runId : String} {w w' : World} {more : List Act} (h : InStep runId w)
    (hrow : w'.runs.row runId = w.runs.row runId) (hacts : w'.acts = w.acts ++ more)
    (hmore : ∀ act ∈ more, Idle runId act) : InStep runId w' where
  once := by
    rw [hacts]
    exact h.once.append fun act hact => (hmore act hact).2
  unknown hnone act hact := by
    rw [hacts, List.mem_append] at hact
    rcases hact with hact | hact
    · exact h.unknown (hrow.symm.trans hnone) act hact
    · exact hmore act hact
  known run hrun := by
    rw [hacts]
    exact (h.known run (hrow.symm.trans hrun)).append hmore

theorem Change.inStep {runId : String} {w w' : World} (h : Change w w') (hw : InStep runId w) :
    InStep runId w' := by
  cases h with
  | aside h =>
    obtain ⟨more, hacts, hminor⟩ := h.acts
    exact hw.append (h.row runId) hacts fun act hact => (hminor act hact).idle runId
  | @edits edited changed now more hedit hreplaced hacts =>
    by_cases hid : edited.runId = runId
    · subst hid
      have hstanding := hw.known edited hreplaced.row
      refine ⟨?_, fun hnone => ?_, fun run hrun => ?_⟩
      · rw [hacts]
        exact hedit.once rfl hstanding hw.once
      · rw [hreplaced.row'] at hnone
        cases hnone
      · obtain rfl := Option.some.inj (hreplaced.row'.symm.trans hrun)
        have hchanged := hedit.standing rfl hstanding
        rw [hacts]
        exact ⟨hchanged.attempt, hchanged.queued, hchanged.started⟩
    · exact hw.append (hreplaced.other runId (Ne.symm hid)) hacts (hedit.idle_of_ne hid)
  | @creates new hnew hfresh hruns hacts =>
    by_cases hid : new.runId = runId
    · subst hid
      have hrow : w'.runs.row new.runId = some new := by
        rw [Store.row_append hruns, hfresh, Option.none_or, if_pos rfl]
      have hnone : ∀ act ∈ w.acts, Idle new.runId act := hw.unknown hfresh
      have hretries : retriesStarted new.runId (w.acts ++ [.queued new.runId .created]) = 0 :=
        (turnsTaken_concat nofun).trans (turnsTaken_neutral queues_of_retried hnone)
      refine ⟨?_, fun hgone => ?_, fun run hrun => ?_⟩
      · rw [hacts]
        exact hw.once.append (by simp [Starts])
      · rw [hrow] at hgone
        cases hgone
      · obtain rfl := Option.some.inj (hrow.symm.trans hrun)
        rw [hacts]
        refine ⟨?_, fun _ => ⟨.created, open_concat rfl, ?_⟩, fun hnot => ?_⟩
        · rw [hretries, hnew.attempt]
        · simp [hnew.status]
        · exact absurd (Or.inl hnew.status) hnot
    · refine hw.append ?_ hacts ?_
      · rw [Store.row_append hruns, if_neg hid, Option.or_none]
      · intro act hact
        obtain rfl := List.mem_singleton.mp hact
        exact ⟨hid, nofun⟩

section Pools

variable (self : Orchestrator) (w : World) (pool : Pool World Answer Failure Unit)

/-- **A queued run is started at most once**, and its attempts are one more than the retries that were
started, whatever operations interleave: any number of workers, that may be given the same run, with
answers, retries and cancellations. -/
theorem started_once (runId : String) (hempty : w.runs.runs = []) (hacts : w.acts = [])
    (hreach : Pool.Reaches (IsOperation self) Untouched ⟨[], w⟩ pool) :
    (∀ how after, .queued runId how :: after <:+ pool.state.acts →
        startsBeforeNext runId after ≤ 1) ∧
      ∀ run, pool.state.runs.row runId = some run →
        run.attempt = 1 + retriesStarted runId pool.state.acts := by
  have hw : InStep runId w := by
    refine ⟨?_, fun _ => by simp [hacts], fun run hrow => ?_⟩
    · rw [hacts]
      exact atMostOnce_nil
    · simp [Store.row, hempty] at hrow
  have hstep : InStep runId pool.state :=
    (evolves_of_reaches hreach).keeps (fun _ _ => Change.inStep) hw
  exact ⟨fun how after hafter => hstep.once (.queued runId how) after rfl hafter,
    fun run hrun => (hstep.known run hrun).attempt⟩

end Pools

/-! ## A run given to two workers -/

/-- The run fails for a moment, is retried, and then given to two workers. -/
def retriedPool : Pool World Answer Failure Unit :=
  let transient : AskStream := { records := [], raised := some (.federationTransient "timeout" []) }
  Pool.playAll ⟨[], sampleWorld⟩ [
    .spawn (discard (sampleOrchestrator.create "c" "销售额" 200 none)), sampleRun 0 "r" firstPrompt,
    .spawn (sampleOrchestrator.execute "r"), sampleRun 1 "-" transient,
    .spawn (discard (Orchestrator.retry "r")), sampleRun 2 "-" firstPrompt,
    .spawn (sampleOrchestrator.execute "r"), .run 3 3 (sampleAnswers "-" firstPrompt),
    .spawn (sampleOrchestrator.execute "r"), sampleRun 4 "-" firstPrompt,
    sampleRun 3 "-" firstPrompt]

theorem retriedPool_reached :
    Pool.Reaches (IsOperation sampleOrchestrator) Untouched ⟨[], sampleWorld⟩ retriedPool := by
  refine Pool.playAll_reaches _ _ fun p hp => ?_
  simp only [sampleRun, List.mem_cons, Pool.Choice.spawn.injEq, List.not_mem_nil, or_false,
    reduceCtorEq, false_or] at hp
  rcases hp with rfl | rfl | rfl | rfl | rfl
  · exact .create _ _ _ _
  · exact .execute _
  · exact .retry _
  · exact .execute _
  · exact .execute _

/-- One of the two workers has started the retry, and it counts once. -/
theorem retriedPool_started_once :
    startsBeforeNext "r" (retriedPool.state.acts.drop 5) ≤ 1 ∧
      (retriedPool.state.runs.row "r").map Run.attempt = some 2 := by
  obtain ⟨honce, hattempt⟩ := started_once sampleOrchestrator sampleWorld retriedPool "r" rfl rfl
    retriedPool_reached
  have hqueued : .queued "r" .retried :: retriedPool.state.acts.drop 5 =
      retriedPool.state.acts.drop 4 := by decide +kernel
  have hretries : retriesStarted "r" retriedPool.state.acts = 1 := by decide +kernel
  have hstored : (retriedPool.state.runs.row "r").isSome := by decide +kernel
  obtain ⟨run, hrun⟩ := Option.isSome_iff_exists.mp hstored
  refine ⟨honce .retried _ ?_, ?_⟩
  · rw [hqueued]
    exact List.drop_suffix _ _
  · rw [hrun, Option.map_some, hattempt run hrun, hretries]

end Runtime
