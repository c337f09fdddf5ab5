import Mathlib.Data.List.Infix
import Qaneris.Runtime.Settled

/-!
# What it means that a cancellation is final

Once a run has been cancelled, no Ask invocation begins for it and it is not completed. `Timely` says
that no cancellation met a worker, or a queue, at one of the moments when it is not heeded.
-/

namespace Runtime

def Act.runId : Act → String
  | .queued runId _ | .started runId | .cleared runId | .cancelled runId | .declined runId
  | .overran runId | .overlooked runId | .invoked runId _ _ | .prompted runId _ | .answered runId _
  | .completed runId | .listed runId => runId

/-- An Ask invocation begins for the run, or it is completed. -/
def Proceeds (runId : String) : Act → Prop
  | .invoked id _ _ | .completed id => id = runId
  | _ => False

/-- The run is queued, or a worker has it. -/
def Pending (run : Run) : Prop :=
  run.status = .created ∨ run.status.Active ∨
    (run.status = .waitingUser ∧ run.currentStage = "resume_queued") ∨
    (run.status = .failed ∧ run.currentStage = "retry_queued")

instance (run : Run) : Decidable (Pending run) := inferInstanceAs (Decidable (_ ∨ _))

/-! ## Moments -/

/-- Whether a worker is between its look for a request and the Ask invocation that it begins. -/
def aboutToInvoke (runId : String) (before : Bool) : Act → Bool
  | .cleared id => id = runId || before
  | .started id | .invoked id _ _ => id ≠ runId && before
  | _ => before

/-- The same at the end of a history. -/
def committed (runId : String) (acts : List Act) : Bool :=
  acts.foldl (aboutToInvoke runId) false

/-- A cancellation took effect when a worker had looked for one and was about to invoke Ask. -/
def Raced (runId : String) (acts : List Act) : Prop :=
  ∃ before ∈ acts.inits, before ++ [.cancelled runId] <+: acts ∧ committed runId before

instance (runId : String) (acts : List Act) : Decidable (Raced runId acts) :=
  inferInstanceAs (Decidable (∃ before ∈ acts.inits, _))

/-- No cancellation came at a moment when it is not heeded. -/
structure Timely (runId : String) (acts : List Act) : Prop where
  /-- None met a failed run that was queued again. -/
  not_declined : .declined runId ∉ acts
  /-- None met a worker between its last look and an Ask invocation. -/
  not_raced : ¬ Raced runId acts
  /-- None met a run that waited for its user while its worker was about to look whether it waits. -/
  not_overran : .overran runId ∉ acts
  /-- None was there when a worker read the run again to complete it. -/
  not_overlooked : .overlooked runId ∉ acts

instance (runId : String) (acts : List Act) : Decidable (Timely runId acts) :=
  decidable_of_iff
    (.declined runId ∉ acts ∧ ¬ Raced runId acts ∧ .overran runId ∉ acts ∧ .overlooked runId ∉ acts)
    ⟨fun ⟨a, b, c, d⟩ => ⟨a, b, c, d⟩, fun ⟨a, b, c, d⟩ => ⟨a, b, c, d⟩⟩

/-! ## The others -/

/-- Something happens to the stores that does not concern this run: at most, a recovery lists it. -/
structure Apart (runId : String) (w w' : World) : Prop where
  grown : Grown w w'
  row : w'.runs.row runId = w.runs.row runId
  acts : ∃ more, w'.acts = w.acts ++ more ∧ ∀ act ∈ more, act.runId = runId → act = .listed runId

end Runtime
