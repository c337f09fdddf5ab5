import Mathlib.Logic.Function.Basic
import Qaneris.Infra.Program
import Qaneris.Federation.Validator

/-!
# What isolation of federated runs means

`RunStores` says what the checkpoints are for: every run has a table of its own, so a call for one
run cannot meet a task of another. `Isolated` compares the shared tables with it, call after call.

`Apart` is the condition under which the shared tables cannot tell the runs apart from one another
wrongly: no stored row that the call may meet belongs to another run.
-/

namespace Federation

/-! ## The plans and the calls -/

/-- Some validation returned this plan. -/
def Validated (plan : FederatedPlan) : Prop :=
  ∃ (draft : FederatedPlanDraft) (request : FederatedPlanDraft.Request) (s : Store),
    (validate draft request s).2 = .ok plan

inductive Call where
  | create (plan : FederatedPlan)
  | save (task : SourceTask)
  deriving DecidableEq

inductive Reply where
  | plan (plan : FederatedPlan)
  | task (task : SourceTask)
  deriving DecidableEq

/-- A version of the task: its state differs, what identifies it does not. -/
structure SourceTask.VersionOf (task task₀ : SourceTask) : Prop where
  taskId : task.taskId = task₀.taskId
  runId : task.runId = task₀.runId
  planId : task.planId = task₀.planId
  ordinal : task.ordinal = task₀.ordinal

/-- The call is about a validated plan or about a task of one. -/
def Call.Admissible : Call → Prop
  | .create plan => Validated plan
  | .save task => ∃ plan, Validated plan ∧ ∃ task₀ ∈ plan.sourceTasks, task.VersionOf task₀

def Store.step (s : Store) : Call → Store × Except Failure Reply
  | .create plan => Infra.commit (fun s => do let (s', p) ← s.createPlan plan; return (s', .plan p)) s
  | .save task => Infra.commit (fun s => do let (s', t) ← s.saveTask task; return (s', .task t)) s

/-! ## A store for each run -/

structure RunStore where
  plan : FederatedPlan
  tasks : List SourceTask

abbrev RunStores := String → Option RunStore

namespace RunStores

def empty : RunStores := fun _ => none

def tasksOf (rs : RunStores) (runId : String) : List SourceTask :=
  ((rs runId).map RunStore.tasks).getD []

/-- The first plan of a run is kept, and its tasks are what the run starts with. -/
def createPlan (rs : RunStores) (plan : FederatedPlan) : RunStores × FederatedPlan :=
  match rs plan.runId with
  | some r => (rs, r.plan)
  | none => (Function.update rs plan.runId (some ⟨plan, plan.sourceTasks⟩), plan)

def Matches (task stored : SourceTask) : Prop :=
  stored.taskId = task.taskId ∧ stored.revision = task.revision

instance (task stored : SourceTask) : Decidable (Matches task stored) :=
  inferInstanceAs (Decidable (_ ∧ _))

/-- A task is replaced in its own run, when the caller has seen its last state. -/
def saveTask (rs : RunStores) (task : SourceTask) : Except Failure (RunStores × SourceTask) :=
  match rs task.runId with
  | none => .error (.valueError "source task revision conflict")
  | some r =>
    if ∃ stored ∈ r.tasks, Matches task stored then
      let tasks := r.tasks.map fun stored =>
        if Matches task stored then Store.advance task else stored
      .ok (Function.update rs task.runId (some { r with tasks }), Store.advance task)
    else .error (.valueError "source task revision conflict")

def step (rs : RunStores) : Call → RunStores × Except Failure Reply
  | .create plan => ((rs.createPlan plan).1, .ok (.plan (rs.createPlan plan).2))
  | .save task => Infra.commit (fun rs => do let (rs', t) ← rs.saveTask task; return (rs', .task t)) rs

/-- The run a call is about. -/
def runOf : Call → String
  | .create plan => plan.runId
  | .save task => task.runId

/-- A call leaves the tasks of every other run alone. -/
theorem step_frame (rs : RunStores) (call : Call) {runId : String} (h : runId ≠ runOf call) :
    (rs.step call).1 runId = rs runId := by
  cases call with
  | create plan =>
    simp only [step, createPlan]
    split
    · rfl
    · exact Function.update_of_ne h _ _
  | save task =>
    simp only [step, Infra.commit, saveTask, bind, Except.bind, pure, Except.pure]
    cases rs task.runId with
    | none => rfl
    | some r =>
      by_cases hm : ∃ stored ∈ r.tasks, Matches task stored
      · simp only [hm, if_true]
        exact Function.update_of_ne h _ _
      · simp only [hm, if_false]

/-- The first plan of a run is accepted, and `tasksOf` returns its tasks. -/
theorem createPlan_first {rs : RunStores} {plan : FederatedPlan} (h : rs plan.runId = none) :
    (rs.createPlan plan).2 = plan ∧ (rs.createPlan plan).1.tasksOf plan.runId = plan.sourceTasks := by
  simp [createPlan, h, tasksOf]

end RunStores

/-! ## Isolation -/

/-- Along these calls the shared tables answer as a store for each run would, and hold the same
tasks for every run after each of them. -/
def Isolated (s : Store) (rs : RunStores) : List Call → Prop
  | [] => True
  | call :: calls =>
    (s.step call).2 = (rs.step call).2 ∧
      (∀ runId, (s.step call).1.tasksOf runId = (rs.step call).1.tasksOf runId) ∧
      Isolated (s.step call).1 (rs.step call).1 calls

/-- No stored row the call may meet belongs to another run. -/
def Apart (s : Store) : Call → Prop
  | .create plan => ∀ row ∈ s.tasks, row.runId = plan.runId
  | .save task => ∀ row ∈ s.tasks, Store.Hits task row → row.runId = task.runId

instance (s : Store) : (call : Call) → Decidable (Apart s call)
  | .create _ => inferInstanceAs (Decidable (∀ _ ∈ _, _))
  | .save _ => inferInstanceAs (Decidable (∀ _ ∈ _, _))

/-- Every call of the run is made in a state that keeps it apart from the other runs. -/
def ApartAlong (s : Store) : List Call → Prop
  | [] => True
  | call :: calls => Apart s call ∧ ApartAlong (s.step call).1 calls

instance decidableApartAlong (s : Store) : (calls : List Call) → Decidable (ApartAlong s calls)
  | [] => inferInstanceAs (Decidable True)
  | call :: calls =>
    have := decidableApartAlong (s.step call).1 calls
    inferInstanceAs (Decidable (Apart s call ∧ _))

end Federation
