import Qaneris.Runtime.Orchestrator

/-!
# What a save changes

Every save writes a changed copy of the run that was read. `Edit` lists the changes there are, each
with the acts that it adds to the history; whatever is said of runs is derived from this list.
-/

namespace Runtime

open Contracts (Instant)
open Orchestrator (Startable)

/-- The run as the worker that wins it writes it. -/
def Run.won (run moved : Run) : Run :=
  { moved with
    failureCode := none, failureMessage := none, retryable := false, responseJson := none
    attempt := if run.status = .failed then run.attempt + 1 else run.attempt }

/-- The runs that are read, the runs that are written over them, and the acts of that. -/
inductive Edit : Run → Run → List Act → Prop where
  | win {run moved : Run} (hs : Startable run) (hm : transition run .contextualizing = .ok moved) :
      Edit run (run.won moved) [.started run.runId]
  | annotate {run : Run} (ha : run.status.Active) (resolved : Option String) (kind : RunKind) :
      Edit run { run with resolvedQuestion := resolved, runKind := kind } []
  | advance {run moved : Run} {target : RunStatus} (ha : run.status.Active) (ht : target.Active)
      (hm : transition run target = .ok moved) : Edit run moved []
  | stop {run moved : Run} (hc : run.cancelRequested) (hm : transition run .cancelled = .ok moved)
      (now : Instant) : Edit run { moved with completedAt := some now } []
  | wait {run moved : Run} (hm : transition run .waitingUser = .ok moved) (response : ResponseJson)
      (taskId : Option String) :
      Edit run { moved with responseJson := some response } [.prompted run.runId taskId]
  | complete {run moved : Run} (hm : transition run .completed = .ok moved)
      (response : ResponseJson) (now : Instant) :
      Edit run { moved with responseJson := some response, completedAt := some now }
        [.completed run.runId]
  | block {run moved : Run} (hm : transition run .blocked = .ok moved) (code message : String)
      (now : Instant) :
      Edit run { moved with
        failureCode := some code, failureMessage := some message, completedAt := some now } []
  | fail {run moved : Run} {target : RunStatus} (hm : transition run target = .ok moved)
      (ht : target = .failed ∨ target = .blocked) (code message : String) (retryable : Bool)
      (completedAt : Option Instant) (hr : target = .blocked → retryable = false) :
      Edit run { moved with
        failureCode := some code, failureMessage := some message, retryable, completedAt } []
  | resume {run : Run} (hs : run.status = .waitingUser) (hq : run.currentStage = "waiting_user") :
      Edit run { run with currentStage := "resume_queued" } [.queued run.runId .clarified]
  | requeue {run : Run} (hs : run.status = .failed) (hr : run.retryable)
      (hq : run.currentStage ≠ "retry_queued") :
      Edit run { run with currentStage := "retry_queued" } [.queued run.runId .retried]
  | withdraw {run moved : Run} (hs : run.status = .waitingUser)
      (hm : transition run .cancelled = .ok moved) (now : Instant) :
      Edit run { moved with completedAt := some now } [.cancelled run.runId]
  | request {run : Run} (hs : run.status ∉ terminal) :
      Edit run { run with cancelRequested := true } [.cancelled run.runId]

/-- The run as `save` returns it. -/
def Saved (changed saved : Run) : Prop :=
  ∃ now, saved = Store.updated changed changed.revision now

theorem Saved.runId {changed saved : Run} (h : Saved changed saved) :
    saved.runId = changed.runId := by
  obtain ⟨now, rfl⟩ := h
  rfl

theorem Saved.status {changed saved : Run} (h : Saved changed saved) :
    saved.status = changed.status := by
  obtain ⟨now, rfl⟩ := h
  rfl

theorem Saved.revision {changed saved : Run} (h : Saved changed saved) :
    saved.revision = changed.revision + 1 := by
  obtain ⟨now, rfl⟩ := h
  rfl

theorem Saved.cancelRequested {changed saved : Run} (h : Saved changed saved) :
    saved.cancelRequested = changed.cancelRequested := by
  obtain ⟨now, rfl⟩ := h
  rfl

namespace Edit

variable {run changed : Run} {acts : List Act}

/-! ## What no change changes -/

/-- The columns that `save` does not set are those of the run that was read. -/
theorem setColumns (h : Edit run changed acts) : Store.setColumns run changed = changed := by
  cases h with
  | win hs hm =>
    obtain ⟨rfl, -⟩ := transition_ok hm
    rfl
  | annotate | resume | requeue | request => rfl
  | advance _ _ hm | stop _ hm | wait hm | complete hm | block hm | fail hm | withdraw _ hm =>
    obtain ⟨rfl, -⟩ := transition_ok hm
    rfl

theorem runId (h : Edit run changed acts) : changed.runId = run.runId := by
  rw [← h.setColumns, Store.setColumns_runId]

theorem revision (h : Edit run changed acts) : changed.revision = run.revision := by
  cases h with
  | win hs hm =>
    obtain ⟨rfl, -⟩ := transition_ok hm
    rfl
  | annotate | resume | requeue | request => rfl
  | advance _ _ hm | stop _ hm | wait hm | complete hm | block hm | fail hm | withdraw _ hm =>
    obtain ⟨rfl, -⟩ := transition_ok hm
    rfl

/-! ## The status -/

/-- Every change of the status is an edge of `ALLOWED`. -/
theorem allowed (h : Edit run changed acts) :
    changed.status = run.status ∨ Allowed run.status changed.status := by
  cases h with
  | win hs hm =>
    obtain ⟨rfl, ha⟩ := transition_ok hm
    exact Or.inr ha
  | annotate | resume | requeue | request => exact Or.inl rfl
  | advance _ _ hm | stop _ hm | wait hm | complete hm | block hm | fail hm | withdraw _ hm =>
    obtain ⟨rfl, ha⟩ := transition_ok hm
    exact Or.inr ha

theorem ne_created (h : Edit run changed acts) (hs : run.status ≠ .created) :
    changed.status ≠ .created := by
  rcases h.allowed with he | ha
  · rw [he]
    exact hs
  · exact ha.ne_created

/-! ## The request to cancel -/

/-- Only a `cancel` call sets the request. -/
theorem cancelRequested (h : Edit run changed acts) (hacts : acts ≠ [.cancelled run.runId]) :
    changed.cancelRequested = run.cancelRequested := by
  cases h with
  | win hs hm =>
    obtain ⟨rfl, -⟩ := transition_ok hm
    rfl
  | annotate | resume | requeue => rfl
  | advance _ _ hm | stop _ hm | wait hm | complete hm | block hm | fail hm | withdraw _ hm =>
    obtain ⟨rfl, -⟩ := transition_ok hm
    rfl
  | request => exact absurd rfl hacts

/-- A request stays. -/
theorem requested (h : Edit run changed acts) (hr : run.cancelRequested = true) :
    changed.cancelRequested = true := by
  cases h with
  | win hs hm =>
    obtain ⟨rfl, -⟩ := transition_ok hm
    exact hr
  | annotate | resume | requeue => exact hr
  | advance _ _ hm | stop _ hm | wait hm | complete hm | block hm | fail hm | withdraw _ hm =>
    obtain ⟨rfl, -⟩ := transition_ok hm
    exact hr
  | request => rfl

/-- What is cancelled is left alone. -/
theorem ne_cancelled (h : Edit run changed acts) : run.status ≠ .cancelled := by
  intro hc
  cases h with
  | win _ hm | advance _ _ hm | stop _ hm | wait hm | complete hm | block hm | fail hm
  | withdraw _ hm =>
    have ha := (transition_ok hm).2
    rw [hc] at ha
    exact not_allowed_of_cancelled _ ha
  | annotate ha =>
    rw [hc] at ha
    revert ha
    decide
  | resume hs | requeue hs => exact absurd (hc.symm.trans hs) (by decide)
  | request hs =>
    rw [hc] at hs
    exact hs (by decide)

end Edit

end Runtime
