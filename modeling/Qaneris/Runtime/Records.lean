import Qaneris.Runtime.StateMachine

/-!
# What the record of a run says

The columns of a run belong together: which of them are set depends on its status. `RecordOk` says
how, and `Advances` how a run goes from one revision to another.
-/

namespace Runtime

/-- The columns of the run fit its status. -/
structure RecordOk (run : Run) : Prop where
  retryable : run.retryable → run.status = .failed
  resumeQueued : run.currentStage = "resume_queued" → run.status = .waitingUser
  retryQueued : run.currentStage = "retry_queued" → run.status = .failed ∧ run.retryable
  response : run.responseJson.isSome → run.status ∈ [.completed, .waitingUser, .cancelled]
  failureCode : run.failureCode.isSome ↔ run.status = .failed ∨ run.status = .blocked

/-- The run is stored again: with a larger revision, and with a status that `ALLOWED` leads to. -/
structure Advances (run run' : Run) : Prop where
  revision : run.revision < run'.revision
  status : run'.status = run.status ∨ Allowed run.status run'.status

end Runtime
