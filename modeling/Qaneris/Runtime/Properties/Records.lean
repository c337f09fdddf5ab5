import Qaneris.Runtime.Properties.Changes
import Qaneris.Runtime.Records

/-!
# The records of the runs

Whatever operations interleave, with whatever failures, the columns of every run fit its status, and
its status only ever changes along `ALLOWED` at a larger revision.

* `Edit.recordOk` — every edit of a run in order leaves it in order
* `records_ok` — so does every interleaving
-/

namespace Runtime

open Infra (Pool)

/-! ## The columns of a run in order -/

theorem RunStatus.stage_ne_queued (status : RunStatus) :
    status.stage ≠ "resume_queued" ∧ status.stage ≠ "retry_queued" := by
  cases status <;> decide

/-- Only a run that is created, in progress or waiting can be cancelled. -/
theorem not_failed_of_cancellable {status : RunStatus} (h : Allowed status .cancelled) :
    status ≠ .failed ∧ status ≠ .blocked := by
  cases status <;> revert h <;> decide

/-- Only a run in progress ends, fails or waits. -/
theorem active_of_allowed {status target : RunStatus} (h : Allowed status target)
    (ht : target ∈ [RunStatus.completed, .failed, .blocked, .waitingUser]) : status.Active := by
  cases status <;> revert h <;> cases target <;> revert ht <;> decide

namespace RecordOk

variable {run : Run}

theorem not_retryable (h : RecordOk run) (hs : run.status ≠ .failed) : run.retryable = false := by
  by_contra hr
  exact hs (h.retryable (by simpa using hr))

theorem no_failureCode (h : RecordOk run) (hf : run.status ≠ .failed) (hb : run.status ≠ .blocked) :
    run.failureCode = none := by
  have hnot : ¬ run.failureCode.isSome := by
    rw [h.failureCode]
    simp [hf, hb]
  simpa using hnot

/-- A run in progress has neither a response nor a failure. -/
theorem of_active (h : RecordOk run) (ha : run.status.Active) :
    run.responseJson = none ∧ run.failureCode = none ∧ run.retryable = false := by
  have hf : run.status ≠ .failed := by
    rintro hf
    rw [hf] at ha
    revert ha
    decide
  have hb : run.status ≠ .blocked := by
    rintro hb
    rw [hb] at ha
    revert ha
    decide
  have hr : ¬ run.responseJson.isSome := by
    intro hr
    have hmem := h.response hr
    revert ha hmem
    cases run.status <;> decide
  exact ⟨by simpa using hr, h.no_failureCode hf hb, h.not_retryable hf⟩

/-- A run that is not queued again, with neither a response nor a failure. -/
theorem of_plain (hstage : run.currentStage = run.status.stage) (hr : run.responseJson = none)
    (hc : run.failureCode = none) (hretry : run.retryable = false) (hf : run.status ≠ .failed)
    (hb : run.status ≠ .blocked) : RecordOk run where
  retryable h := by simp [hretry] at h
  resumeQueued h := absurd (hstage.symm.trans h) run.status.stage_ne_queued.1
  retryQueued h := absurd (hstage.symm.trans h) run.status.stage_ne_queued.2
  response h := by simp [hr] at h
  failureCode := by simp [hc, hf, hb]

/-- A run as it is created. -/
theorem of_new (h : New run) : RecordOk run where
  retryable hr := by simp [h.retryable] at hr
  resumeQueued hq := by simp [h.currentStage] at hq
  retryQueued hq := by simp [h.currentStage] at hq
  response hr := by simp [h.responseJson] at hr
  failureCode := by simp [h.failureCode, h.status]

end RecordOk

/-! ## Edits -/

section Edits

variable {run changed : Run} {acts : List Act}

/-- Both ways to cancel a run. -/
theorem RecordOk.cancel {moved : Run} (hr : RecordOk run) (hm : transition run .cancelled = .ok moved)
    (now : Contracts.Instant) : RecordOk { moved with completedAt := some now } := by
  obtain ⟨rfl, ha⟩ := transition_ok hm
  obtain ⟨hf, hb⟩ := not_failed_of_cancellable ha
  have hretry : run.retryable = false := hr.not_retryable hf
  have hcode : run.failureCode = none := hr.no_failureCode hf hb
  -- A response that the run waited with stays.
  refine ⟨?_, ?_, ?_, ?_, ?_⟩
  · simp [Run.moved, hretry]
  · simp [Run.moved, RunStatus.stage]
  · simp [Run.moved, RunStatus.stage]
  · simp [Run.moved]
  · simp [Run.moved, hcode]

/-- **An edit keeps the columns in order.** -/
theorem Edit.recordOk (h : Edit run changed acts) (hr : RecordOk run) : RecordOk changed := by
  cases h with
  | win hs hm =>
    obtain ⟨rfl, -⟩ := transition_ok hm
    exact .of_plain rfl rfl rfl rfl (by simp [Run.won, Run.moved]) (by simp [Run.won, Run.moved])
  | annotate ha resolved kind =>
    exact ⟨hr.retryable, hr.resumeQueued, hr.retryQueued, hr.response, hr.failureCode⟩
  | advance ha ht hm =>
    obtain ⟨rfl, -⟩ := transition_ok hm
    obtain ⟨hresponse, hcode, hretry⟩ := hr.of_active ha
    refine .of_plain rfl hresponse hcode hretry ?_ ?_
    · rintro rfl
      revert ht
      decide
    · rintro rfl
      revert ht
      decide
  | stop hc hm now => exact hr.cancel hm now
  | wait hm response taskId =>
    obtain ⟨rfl, ha⟩ := transition_ok hm
    obtain ⟨-, hcode, hretry⟩ := hr.of_active (active_of_allowed ha (by simp))
    refine ⟨?_, ?_, ?_, ?_, ?_⟩
    · simp [Run.moved, hretry]
    · simp [Run.moved]
    · simp [Run.moved, RunStatus.stage]
    · simp [Run.moved]
    · simp [Run.moved, hcode]
  | complete hm response now =>
    obtain ⟨rfl, ha⟩ := transition_ok hm
    obtain ⟨-, hcode, hretry⟩ := hr.of_active (active_of_allowed ha (by simp))
    refine ⟨?_, ?_, ?_, ?_, ?_⟩
    · simp [Run.moved, hretry]
    · simp [Run.moved, RunStatus.stage]
    · simp [Run.moved, RunStatus.stage]
    · simp [Run.moved]
    · simp [Run.moved, hcode]
  | block hm code message now =>
    obtain ⟨rfl, ha⟩ := transition_ok hm
    obtain ⟨hresponse, -, hretry⟩ := hr.of_active (active_of_allowed ha (by simp))
    refine ⟨?_, ?_, ?_, ?_, ?_⟩
    · simp [Run.moved, hretry]
    · simp [Run.moved, RunStatus.stage]
    · simp [Run.moved, RunStatus.stage]
    · simp [Run.moved, hresponse]
    · simp [Run.moved]
  | @fail _ target hm ht code message retryable completedAt hblocked =>
    obtain ⟨rfl, ha⟩ := transition_ok hm
    have hactive : run.status.Active := active_of_allowed ha (by rcases ht with rfl | rfl <;> simp)
    obtain ⟨hresponse, -, -⟩ := hr.of_active hactive
    refine ⟨?_, ?_, ?_, ?_, ?_⟩
    · intro hretry
      rcases ht with rfl | rfl
      · rfl
      · rw [hblocked rfl] at hretry
        cases hretry
    · exact fun hq => absurd hq target.stage_ne_queued.1
    · exact fun hq => absurd hq target.stage_ne_queued.2
    · simp [Run.moved, hresponse]
    · simp [Run.moved, ht]
  | resume hs hq =>
    refine ⟨hr.retryable, fun _ => hs, ?_, hr.response, hr.failureCode⟩
    simp
  | requeue hs hretry hq =>
    refine ⟨hr.retryable, ?_, fun _ => ⟨hs, hretry⟩, hr.response, hr.failureCode⟩
    simp
  | withdraw hs hm now => exact hr.cancel hm now
  | request hs => exact ⟨hr.retryable, hr.resumeQueued, hr.retryQueued, hr.response, hr.failureCode⟩

end Edits

/-! ## All runs -/

/-- The columns of every run are in order. -/
def RecordsOk (w : World) : Prop :=
  ∀ runId run, w.runs.row runId = some run → RecordOk run

theorem Change.recordsOk {w w' : World} (h : Change w w') (hw : RecordsOk w) : RecordsOk w' := by
  intro runId run hrow
  cases h with
  | aside h =>
    rw [h.row] at hrow
    exact hw runId run hrow
  | @edits edited changed now acts hedit hreplaced _ =>
    by_cases hid : runId = edited.runId
    · subst hid
      obtain rfl := Option.some.inj (hreplaced.row'.symm.trans hrow)
      have hok := hedit.recordOk (hw _ _ hreplaced.row)
      exact ⟨hok.retryable, hok.resumeQueued, hok.retryQueued, hok.response, hok.failureCode⟩
    · rw [hreplaced.other runId hid] at hrow
      exact hw runId run hrow
  | @creates new hnew _ hruns _ =>
    rw [Store.row_append hruns] at hrow
    cases hold : w.runs.row runId with
    | some old =>
      rw [hold, Option.some_or] at hrow
      exact hw runId run (hold.trans hrow)
    | none =>
      rw [hold, Option.none_or] at hrow
      split at hrow
      · obtain rfl := Option.some.inj hrow
        exact .of_new hnew
      · cases hrow

/-- A change leaves a run as it is, or stores it again. -/
theorem Change.advances {w w' : World} (h : Change w w') {runId : String} {run : Run}
    (hrow : w.runs.row runId = some run) :
    ∃ run', w'.runs.row runId = some run' ∧ (run' = run ∨ Advances run run') := by
  cases h with
  | aside h => exact ⟨run, (h.row runId).trans hrow, Or.inl rfl⟩
  | @edits edited changed now acts hedit hreplaced _ =>
    by_cases hid : runId = edited.runId
    · subst hid
      obtain rfl := Option.some.inj (hreplaced.row.symm.trans hrow)
      refine ⟨_, hreplaced.row', Or.inr ⟨?_, hedit.allowed⟩⟩
      show edited.revision < changed.revision + 1
      rw [hedit.revision]
      omega
    · exact ⟨run, (hreplaced.other runId hid).trans hrow, Or.inl rfl⟩
  | creates _ _ hruns _ =>
    refine ⟨run, ?_, Or.inl rfl⟩
    rw [Store.row_append hruns, hrow, Option.some_or]

section Pools

variable (self : Orchestrator) (w : World) (pool : Pool World Answer Failure Unit)

end Pools

/-! ## A run that waits -/

/-- A run is created, and its worker asks the user back. -/
def askedPool : Pool World Answer Failure Unit :=
  Pool.playAll ⟨[], sampleWorld⟩ [
    .spawn (discard (sampleOrchestrator.create "c" "销售额" 200 none)), sampleRun 0 "r" firstPrompt,
    .spawn (sampleOrchestrator.execute "r"), sampleRun 1 "-" firstPrompt]

theorem askedPool_reached :
    Pool.Reaches (IsOperation sampleOrchestrator) Untouched ⟨[], sampleWorld⟩ askedPool := by
  refine Pool.playAll_reaches _ _ fun p hp => ?_
  simp only [sampleRun, List.mem_cons, Pool.Choice.spawn.injEq, List.not_mem_nil, or_false,
    reduceCtorEq, false_or] at hp
  rcases hp with rfl | rfl
  · exact .create _ _ _ _
  · exact .execute _

end Runtime
