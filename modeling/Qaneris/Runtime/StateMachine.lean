import Qaneris.Runtime.Models

/-!
# Run status transitions

`transition` is the only way a status changes. A run in progress is `Active`; when its worker is done
with it, it should be `Settled`.
-/

namespace Runtime

/-- `ALLOWED[status]` -/
def allowed : RunStatus → List RunStatus
  | .created => [.contextualizing, .cancelled]
  | .contextualizing => [.discovering, .failed, .blocked, .cancelled]
  | .discovering => [.planning, .waitingUser, .failed, .blocked, .cancelled]
  | .planning => [.executing, .waitingUser, .failed, .blocked, .cancelled]
  | .executing => [.answering, .waitingUser, .failed, .blocked, .cancelled]
  | .answering => [.completed, .waitingUser, .failed, .blocked, .cancelled]
  | .waitingUser => [.contextualizing, .cancelled]
  | .failed => [.contextualizing]
  | .completed | .cancelled | .blocked => []

def Allowed (status target : RunStatus) : Prop := target ∈ allowed status

instance (status target : RunStatus) : Decidable (Allowed status target) :=
  inferInstanceAs (Decidable (_ ∈ _))

/-- The order of the stages of an attempt. -/
def order : List RunStatus :=
  [.contextualizing, .discovering, .planning, .executing, .answering]

/-- `_TERMINAL`, the statuses in which a run waits for nobody but its user. -/
def terminal : List RunStatus :=
  [.completed, .failed, .cancelled, .blocked, .waitingUser]

def RunStatus.Active (status : RunStatus) : Prop := status ∈ order

def RunStatus.Settled (status : RunStatus) : Prop := status ∈ terminal

instance (status : RunStatus) : Decidable status.Active := inferInstanceAs (Decidable (_ ∈ _))

instance (status : RunStatus) : Decidable status.Settled := inferInstanceAs (Decidable (_ ∈ _))

theorem RunStatus.created_or_active_or_settled (status : RunStatus) :
    status = .created ∨ status.Active ∨ status.Settled := by
  cases status <;> decide

theorem RunStatus.Active.not_settled {status : RunStatus} (h : status.Active) :
    ¬ status.Settled := by
  cases status <;> revert h <;> decide

/-- An attempt can be given up at every stage. -/
theorem allowed_of_active {status target : RunStatus} (h : status.Active)
    (ht : target ∈ [RunStatus.failed, .blocked, .cancelled]) : Allowed status target := by
  cases status <;> revert h <;> cases target <;> revert ht <;> decide

/-- No transition leads back to the start. -/
theorem Allowed.ne_created {status target : RunStatus} (h : Allowed status target) :
    target ≠ .created := by
  rintro rfl
  cases status <;> revert h <;> decide

/-- A run that is cancelled stays so. -/
theorem not_allowed_of_cancelled (target : RunStatus) : ¬ Allowed .cancelled target := by
  cases target <;> decide

/-- The run as `transition` leaves it, before the caller's own changes. -/
def Run.moved (run : Run) (target : RunStatus) : Run :=
  { run with status := target, currentStage := target.stage }

def transition (run : Run) (target : RunStatus) : Except Failure Run :=
  if ¬ Allowed run.status target then
    .error (.value ("invalid run transition: " ++ run.status.value ++ " -> " ++ target.value))
  else if run.status = .failed ∧ ¬ run.retryable then
    .error (.value "run failure is not retryable")
  else .ok (run.moved target)

theorem transition_ok {run run' : Run} {target : RunStatus} (h : transition run target = .ok run') :
    run' = run.moved target ∧ Allowed run.status target := by
  unfold transition at h
  split at h
  · cases h
  · next ha =>
    split at h
    · cases h
    · exact ⟨(Except.ok.inj h).symm, not_not.mp ha⟩

/-- A run in progress can be given up. -/
theorem transition_of_active {run : Run} {target : RunStatus} (h : run.status.Active)
    (ht : target ∈ [RunStatus.failed, .blocked, .cancelled]) :
    transition run target = .ok (run.moved target) := by
  have ha : Allowed run.status target := allowed_of_active h ht
  have hf : run.status ≠ .failed := by
    intro hf
    rw [hf] at h
    revert h
    decide
  simp [transition, ha, hf]

end Runtime
