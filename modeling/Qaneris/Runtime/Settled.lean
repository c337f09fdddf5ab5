import Qaneris.Infra.Ensemble
import Qaneris.Runtime.Orchestrator

/-!
# What it means that no run is abandoned

A worker that has won a run and is done with it leaves it settled. `Recorded` says of what happened
meanwhile that none of three things did: a cancellation that crosses with the worker giving the run up,
a source task that waits for an answer nobody was asked for, and a store that fails just when the
outcome is to be recorded.
-/

namespace Runtime

/-- The run is in its store with a status that waits for nobody but the user. -/
def World.SettledRun (w : World) (runId : String) : Prop :=
  ∃ run, w.runs.row runId = some run ∧ run.status.Settled

/-- A cancellation took effect after the worker had looked for one for the last time. -/
def Crossed (runId : String) (marks : List Mark) : Prop :=
  List.Sublist [.looked runId, .cancelled runId] marks

instance (runId : String) (marks : List Mark) : Decidable (Crossed runId marks) :=
  inferInstanceAs (Decidable (List.Sublist _ _))

/-- Nothing that happened kept the worker from recording the outcome. -/
structure Recorded (runId : String) (marks : List Mark) : Prop where
  not_crossed : ¬ Crossed runId marks
  not_passedOver : .passedOver runId ∉ marks
  not_unrecorded : .unrecorded runId ∉ marks

instance (runId : String) (marks : List Mark) : Decidable (Recorded runId marks) :=
  decidable_of_iff (¬ Crossed runId marks ∧ .passedOver runId ∉ marks ∧ .unrecorded runId ∉ marks)
    ⟨fun ⟨a, b, c⟩ => ⟨a, b, c⟩, fun ⟨a, b, c⟩ => ⟨a, b, c⟩⟩

/-! ## The others -/

/-- `cancel` is called for some run. -/
def IsCancel (self : Orchestrator) (p : Prog Run) : Prop :=
  ∃ runId, p = self.cancel runId

/-- No run disappears, and none changes but for a new revision: all that the store promises. -/
def Grown (w w' : World) : Prop :=
  ∀ runId run, w.runs.row runId = some run →
    ∃ run', w'.runs.row runId = some run' ∧ (run' = run ∨ run.revision < run'.revision)

/-- Something happens to the stores that does not concern this run. -/
structure Elsewhere (runId : String) (w w' : World) : Prop where
  grown : Grown w w'
  row : w'.runs.row runId = w.runs.row runId
  log : ∃ marks, w'.log = w.log ++ marks ∧ ∀ m ∈ marks, m.runId ≠ runId

end Runtime
