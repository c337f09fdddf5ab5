import Mathlib
import Qaneris.Federation.Isolation

/-!
# Isolation of federated runs

The task table is keyed by `task_id` alone, and the validator numbers the tasks of every plan from
one. So the shared tables hold the tasks of one run at most:

* `isolated_iff_apartAlong` — a run of calls is isolated exactly when no call meets a stored row of
  another run
* `second_run_not_isolated` — two validated runs, the second of which cannot store its plan

`Holds` is the invariant: the tables are empty, or they hold one validated plan.
-/

namespace Federation

open FederatedPlanDraft

/-! ## Task identifiers -/

theorem sourceTaskId_inj {i j : Nat} : sourceTaskId i = sourceTaskId j ↔ i = j := by
  constructor
  · intro h
    have hd : (i + 1).repr.toList = (j + 1).repr.toList :=
      congrArg String.toList ((String.append_right_inj _).mp h)
    rw [Nat.toList_repr, Nat.toList_repr] at hd
    have hn := congrArg (fun ds => Nat.ofDigitChars 10 ds 0) hd
    simp only [Nat.ofDigitChars_ten_toDigits] at hn
    omega
  · rintro rfl
    rfl

/-! ## Validated plans -/

theorem checkSources_length {draft : FederatedPlanDraft} {scope : ExecutionScope} {clock : Instant}
    (h : draft.checkSources scope clock = .ok ()) : 2 ≤ draft.sourceTasks.length := by
  by_contra hlt
  simp only [checkSources, hlt, false_and, not_false_iff, if_true, bind, Except.bind, throw,
    throwThe, MonadExceptOf.throw, pure, Except.pure] at h
  split at h <;> cases h

/-- A validated plan is the plan built from a draft of at least two tasks. -/
theorem Validated.exists_draft {plan : FederatedPlan} (h : Validated plan) :
    ∃ (draft : FederatedPlanDraft) (request : Request),
      plan = draft.toPlan request ∧ 2 ≤ draft.sourceTasks.length := by
  obtain ⟨draft, request, s, hv⟩ := h
  refine ⟨draft, request, ?_⟩
  unfold validate at hv
  split at hv
  · cases hv
  · next hs =>
    split at hv
    · cases hv
    · split at hv
      · cases hv
      · cases hv
        exact ⟨rfl, checkSources_length hs⟩

/-- What the task table keeps of a task besides its state. -/
structure TaskKey where
  taskId : String
  runId : String
  ordinal : Nat

def SourceTask.key (task : SourceTask) : TaskKey := ⟨task.taskId, task.runId, task.ordinal⟩

def TaskRow.key (row : TaskRow) : TaskKey := ⟨row.taskId, row.runId, row.ordinal⟩

/-- The keys of a plan with `count` tasks. -/
def planKeys (runId : String) (count : Nat) : List TaskKey :=
  (List.range count).map fun i => ⟨sourceTaskId i, runId, i⟩

/-- The tasks of a validated plan are numbered from zero. -/
theorem Validated.keys {plan : FederatedPlan} (h : Validated plan) :
    ∃ count, 2 ≤ count ∧ plan.sourceTasks.map SourceTask.key = planKeys plan.runId count := by
  obtain ⟨draft, request, rfl, hlen⟩ := h.exists_draft
  refine ⟨draft.sourceTasks.length, hlen, ?_⟩
  apply List.ext_getElem
  · simp [planKeys, toPlan]
  · intro i h1 h2
    simp [planKeys, toPlan, toTask, SourceTask.key]

theorem planKeys_pairwise (runId : String) (count : Nat) :
    (planKeys runId count).Pairwise fun a b => a.taskId ≠ b.taskId ∧ a.ordinal < b.ordinal := by
  unfold planKeys
  rw [List.pairwise_map]
  refine List.pairwise_lt_range.imp ?_
  intro i j hij
  exact ⟨fun he => absurd (sourceTaskId_inj.mp he) (Nat.ne_of_lt hij), hij⟩

theorem mem_planKeys {runId : String} {count : Nat} {k : TaskKey} (h : k ∈ planKeys runId count) :
    k.runId = runId ∧ k.taskId = sourceTaskId k.ordinal := by
  obtain ⟨i, -, rfl⟩ := List.mem_map.mp h
  exact ⟨rfl, rfl⟩

/-! ## Inserting the tasks of a plan -/

def rowOf (task : SourceTask) : TaskRow :=
  { taskId := task.taskId, runId := task.runId, ordinal := task.ordinal,
    state := task, revision := task.revision }

theorem insertTask_ok {rows : List TaskRow} {task : SourceTask}
    (h : ∀ row ∈ rows, row.taskId ≠ task.taskId ∧ row.ordinal ≠ task.ordinal) :
    Store.insertTask rows task = .ok (rows ++ [rowOf task]) := by
  unfold Store.insertTask
  rw [if_neg, if_neg]
  · rfl
  · simp only [List.any_eq_true, decide_eq_true_eq, not_exists, not_and]
    exact fun row hr _ => (h row hr).2
  · simp only [List.any_eq_true, decide_eq_true_eq, not_exists, not_and]
    exact fun row hr => (h row hr).1

theorem insertTask_taken {rows : List TaskRow} {task : SourceTask} {row : TaskRow} (hr : row ∈ rows)
    (h : row.taskId = task.taskId) : Store.insertTask rows task = .error .integrityError := by
  unfold Store.insertTask
  rw [if_pos]
  simp only [List.any_eq_true, decide_eq_true_eq]
  exact ⟨row, hr, h⟩

/-- Tasks with identifiers and ordinals of their own are all inserted. -/
theorem insertTasks_ok {rows : List TaskRow} {tasks : List SourceTask}
    (hp : tasks.Pairwise fun a b => a.taskId ≠ b.taskId ∧ a.ordinal < b.ordinal)
    (hr : ∀ row ∈ rows, ∀ task ∈ tasks, row.taskId ≠ task.taskId ∧ row.ordinal ≠ task.ordinal) :
    Store.insertTasks rows tasks = .ok (rows ++ tasks.map rowOf) := by
  induction tasks generalizing rows with
  | nil => simp [Store.insertTasks, pure, Except.pure]
  | cons task tasks ih =>
    rw [List.pairwise_cons] at hp
    have hi : Store.insertTask rows task = .ok (rows ++ [rowOf task]) :=
      insertTask_ok fun row h => hr row h task (by simp)
    have ht : Store.insertTasks (rows ++ [rowOf task]) tasks =
        .ok (rows ++ [rowOf task] ++ tasks.map rowOf) := by
      refine ih hp.2 ?_
      intro row hrow t ht
      rcases List.mem_append.mp hrow with h | h
      · exact hr row h t (List.mem_cons_of_mem _ ht)
      · obtain rfl := List.mem_singleton.mp h
        exact ⟨(hp.1 t ht).1, Nat.ne_of_lt (hp.1 t ht).2⟩
    unfold Store.insertTasks at ht ⊢
    rw [List.foldlM_cons, hi]
    simpa [bind, Except.bind] using ht

theorem insertTasks_taken {rows : List TaskRow} {tasks : List SourceTask} {task : SourceTask}
    (hh : tasks.head? = some task) {row : TaskRow} (hr : row ∈ rows)
    (h : row.taskId = task.taskId) :
    Store.insertTasks rows tasks = .error .integrityError := by
  cases tasks with
  | nil => cases hh
  | cons t ts =>
    cases hh
    unfold Store.insertTasks
    rw [List.foldlM_cons, insertTask_taken hr h]
    rfl

/-! ## The invariant -/

/-- A row whose stored task carries the identifier and the revision of the row. -/
def TaskRow.Coherent (row : TaskRow) : Prop :=
  row.state.taskId = row.taskId ∧ row.state.revision = row.revision

/-- The rows are those of one validated plan, each with some state. -/
structure RowsOf (plan : FederatedPlan) (rows : List TaskRow) : Prop where
  validated : Validated plan
  keys : rows.map TaskRow.key = plan.sourceTasks.map SourceTask.key
  coherent : ∀ row ∈ rows, row.Coherent

/-- The tables are empty, or hold the plan of one run, and that run's own store holds the same. -/
inductive Holds : Store → RunStores → Prop where
  | empty {s : Store} (hp : s.plans = []) (ht : s.tasks = []) : Holds s RunStores.empty
  | one {s : Store} {plan : FederatedPlan} (hp : s.plans = [(plan.runId, plan)])
      (hr : RowsOf plan s.tasks) :
      Holds s (Function.update RunStores.empty plan.runId (some ⟨plan, s.tasks.map TaskRow.state⟩))

namespace RowsOf

variable {plan : FederatedPlan} {rows : List TaskRow}

theorem exists_keys (h : RowsOf plan rows) :
    ∃ count, 2 ≤ count ∧ rows.map TaskRow.key = planKeys plan.runId count := by
  obtain ⟨count, hc, hk⟩ := h.validated.keys
  exact ⟨count, hc, h.keys.trans hk⟩

theorem pairwise (h : RowsOf plan rows) :
    rows.Pairwise fun a b => a.taskId ≠ b.taskId ∧ a.ordinal < b.ordinal := by
  obtain ⟨count, -, hk⟩ := h.exists_keys
  have hp := planKeys_pairwise plan.runId count
  rw [← hk, List.pairwise_map] at hp
  exact hp

theorem mem (h : RowsOf plan rows) {row : TaskRow} (hr : row ∈ rows) :
    row.runId = plan.runId ∧ row.taskId = sourceTaskId row.ordinal := by
  obtain ⟨count, -, hk⟩ := h.exists_keys
  exact mem_planKeys (hk ▸ List.mem_map_of_mem hr)

theorem exists_first (h : RowsOf plan rows) : ∃ row ∈ rows, row.taskId = sourceTaskId 0 := by
  obtain ⟨count, hc, hk⟩ := h.exists_keys
  have hm : (⟨sourceTaskId 0, plan.runId, 0⟩ : TaskKey) ∈ rows.map TaskRow.key := by
    rw [hk]
    exact List.mem_map.mpr ⟨0, List.mem_range.mpr (by omega), rfl⟩
  obtain ⟨row, hr, he⟩ := List.mem_map.mp hm
  exact ⟨row, hr, congrArg TaskKey.taskId he⟩

/-- At most one row answers to a task. -/
theorem countP_eq_one_iff (h : RowsOf plan rows) (task : SourceTask) :
    rows.countP (fun row => Store.Hits task row) = 1 ↔ ∃ row ∈ rows, Store.Hits task row := by
  have hp := h.pairwise
  clear h
  induction rows with
  | nil => simp
  | cons row rows ih =>
    rw [List.pairwise_cons] at hp
    by_cases hh : Store.Hits task row
    · have hz : rows.countP (fun r => Store.Hits task r) = 0 := by
        rw [List.countP_eq_zero]
        intro r hr hit
        exact (hp.1 r hr).1 (hh.1.trans (of_decide_eq_true hit).1.symm)
      simp [hh, hz]
    · simpa [hh] using ih hp.2

/-- Saving a task keeps the keys of the rows and their coherence. -/
theorem updateRow (h : RowsOf plan rows) (task : SourceTask) :
    RowsOf plan (rows.map (Store.updateRow task)) where
  validated := h.validated
  keys := by
    rw [← h.keys, List.map_map]
    refine List.map_congr_left ?_
    intro row _
    simp only [Function.comp, Store.updateRow]
    split <;> rfl
  coherent := by
    intro row hrow
    obtain ⟨r, hr, rfl⟩ := List.mem_map.mp hrow
    unfold Store.updateRow
    split
    · next hit => exact ⟨hit.1.symm, rfl⟩
    · exact h.coherent r hr

end RowsOf

/-! ## Reading the tasks of a run -/

theorem tasksOf_own {s : Store} {plan : FederatedPlan} (h : RowsOf plan s.tasks) :
    s.tasksOf plan.runId = s.tasks.map TaskRow.state := by
  unfold Store.tasksOf
  rw [List.filter_eq_self.mpr fun row hr => decide_eq_true (h.mem hr).1,
    List.Pairwise.insertionSort_eq (h.pairwise.imp fun hab => Nat.le_of_lt hab.2)]

theorem tasksOf_other {s : Store} {plan : FederatedPlan} (h : RowsOf plan s.tasks) {runId : String}
    (hne : runId ≠ plan.runId) : s.tasksOf runId = [] := by
  unfold Store.tasksOf
  rw [List.filter_eq_nil_iff.mpr]
  · rfl
  · intro row hr he
    exact hne ((of_decide_eq_true he).symm.trans (h.mem hr).1)

/-- The tables hold the tasks every run would hold in a store of its own. -/
theorem Holds.tasksOf_eq {s : Store} {rs : RunStores} (h : Holds s rs) (runId : String) :
    s.tasksOf runId = rs.tasksOf runId := by
  cases h with
  | empty hp ht => simp [Store.tasksOf, ht, RunStores.tasksOf, RunStores.empty]
  | @one plan hp hr =>
    by_cases he : runId = plan.runId
    · subst he
      simp [tasksOf_own hr, RunStores.tasksOf]
    · simp [tasksOf_other hr he, RunStores.tasksOf, Function.update_of_ne he, RunStores.empty]

/-! ## One call -/

theorem step_create {s : Store} {plan : FederatedPlan} {tasks : List TaskRow}
    (hp : s.plan plan.runId = none) (ht : Store.insertTasks s.tasks plan.sourceTasks = .ok tasks) :
    s.step (.create plan) =
      ({ s with plans := s.plans ++ [(plan.runId, plan)], tasks }, .ok (.plan plan)) := by
  simp [Store.step, Infra.commit, Store.createPlan, hp, ht, bind, Except.bind, pure, Except.pure]

theorem step_create_existing {s : Store} {plan existing : FederatedPlan}
    (hp : s.plan plan.runId = some existing) :
    s.step (.create plan) = (s, .ok (.plan existing)) := by
  simp [Store.step, Infra.commit, Store.createPlan, hp, bind, Except.bind, pure, Except.pure]

theorem step_create_taken {s : Store} {plan : FederatedPlan} (hp : s.plan plan.runId = none)
    (ht : Store.insertTasks s.tasks plan.sourceTasks = .error .integrityError) :
    s.step (.create plan) = (s, .error .integrityError) := by
  simp [Store.step, Infra.commit, Store.createPlan, hp, ht, bind, Except.bind]

theorem step_save {s : Store} {task : SourceTask}
    (h : s.tasks.countP (fun row => Store.Hits task row) = 1) :
    s.step (.save task) = ({ s with tasks := s.tasks.map (Store.updateRow task) },
      .ok (.task (Store.advance task))) := by
  simp [Store.step, Infra.commit, Store.saveTask, h, bind, Except.bind, pure, Except.pure]

theorem step_save_conflict {s : Store} {task : SourceTask}
    (h : s.tasks.countP (fun row => Store.Hits task row) ≠ 1) :
    s.step (.save task) = (s, .error (.valueError "source task revision conflict")) := by
  simp [Store.step, Infra.commit, Store.saveTask, h, bind, Except.bind]

theorem stores_step_save {rs : RunStores} {task : SourceTask} {r : RunStore}
    (h : rs task.runId = some r) (hm : ∃ stored ∈ r.tasks, RunStores.Matches task stored) :
    rs.step (.save task) = (Function.update rs task.runId (some { r with
      tasks := r.tasks.map fun stored =>
        if RunStores.Matches task stored then Store.advance task else stored }),
      .ok (.task (Store.advance task))) := by
  simp only [RunStores.step, Infra.commit, RunStores.saveTask, h, if_pos hm]
  rfl

theorem stores_step_save_missing {rs : RunStores} {task : SourceTask}
    (h : ∀ r, rs task.runId = some r → ¬ ∃ stored ∈ r.tasks, RunStores.Matches task stored) :
    rs.step (.save task) = (rs, .error (.valueError "source task revision conflict")) := by
  simp only [RunStores.step, Infra.commit, RunStores.saveTask]
  cases hr : rs task.runId with
  | none => rfl
  | some r =>
    simp only [if_neg (h r hr)]
    rfl

theorem rowsOf_insert {plan : FederatedPlan} (h : Validated plan) :
    Store.insertTasks [] plan.sourceTasks = .ok (plan.sourceTasks.map rowOf) ∧
      RowsOf plan (plan.sourceTasks.map rowOf) := by
  obtain ⟨count, -, hk⟩ := h.keys
  have hp := planKeys_pairwise plan.runId count
  rw [← hk, List.pairwise_map] at hp
  have hfree : ∀ row ∈ ([] : List TaskRow), ∀ task ∈ plan.sourceTasks,
      row.taskId ≠ task.taskId ∧ row.ordinal ≠ task.ordinal := by simp
  refine ⟨by simpa using insertTasks_ok hp hfree, ⟨h, ?_, ?_⟩⟩
  · rw [List.map_map]
    rfl
  · intro row hr
    obtain ⟨task, -, rfl⟩ := List.mem_map.mp hr
    exact ⟨rfl, rfl⟩

/-- The second run that is created meets the first task of the first run. -/
theorem create_taken {rows : List TaskRow} {plan other : FederatedPlan} (h : RowsOf plan rows)
    (hv : Validated other) : Store.insertTasks rows other.sourceTasks = .error .integrityError := by
  obtain ⟨row, hr, hid⟩ := h.exists_first
  obtain ⟨draft, request, rfl, hlen⟩ := hv.exists_draft
  have hh : (draft.toPlan request).sourceTasks.head? =
      some (toTask request 0 (draft.sourceTasks.get ⟨0, by omega⟩)) := by
    rw [List.head?_eq_getElem?, toPlan, List.getElem?_mapIdx,
      List.getElem?_eq_getElem (by omega : 0 < draft.sourceTasks.length)]
    rfl
  exact insertTasks_taken hh hr hid

/-- A run's own store finds the task that the shared table finds. -/
theorem exists_matches_iff {plan : FederatedPlan} {rows : List TaskRow} (h : RowsOf plan rows)
    (task : SourceTask) :
    (∃ stored ∈ rows.map TaskRow.state, RunStores.Matches task stored) ↔
      ∃ row ∈ rows, Store.Hits task row := by
  constructor
  · rintro ⟨stored, hs, hm⟩
    obtain ⟨row, hr, rfl⟩ := List.mem_map.mp hs
    obtain ⟨hid, hrev⟩ := h.coherent row hr
    exact ⟨row, hr, hid ▸ hm.1, hrev ▸ hm.2⟩
  · rintro ⟨row, hr, hit⟩
    obtain ⟨hid, hrev⟩ := h.coherent row hr
    exact ⟨row.state, List.mem_map_of_mem hr, hid.trans hit.1, hrev.trans hit.2⟩

/-- Saving in the shared table is saving in the run's own store. -/
theorem map_updateRow_state {plan : FederatedPlan} {rows : List TaskRow} (h : RowsOf plan rows)
    (task : SourceTask) :
    (rows.map (Store.updateRow task)).map TaskRow.state =
      (rows.map TaskRow.state).map fun stored =>
        if RunStores.Matches task stored then Store.advance task else stored := by
  rw [List.map_map, List.map_map]
  refine List.map_congr_left ?_
  intro row hr
  obtain ⟨hid, hrev⟩ := h.coherent row hr
  by_cases hit : row.taskId = task.taskId ∧ row.revision = task.revision
  · simp [Store.updateRow, Store.Hits, RunStores.Matches, hid, hrev, hit]
  · simp [Store.updateRow, Store.Hits, RunStores.Matches, hid, hrev, hit]

theorem other_run_missing {plan : FederatedPlan} {r₀ : RunStore} {task : SourceTask}
    (h : task.runId ≠ plan.runId) (r : RunStore)
    (hr : Function.update RunStores.empty plan.runId (some r₀) task.runId = some r) :
    ¬ ∃ stored ∈ r.tasks, RunStores.Matches task stored := by
  rw [Function.update_of_ne h] at hr
  cases hr

/-- A call for the stored run is answered as that run's own store answers it. -/
theorem step_own {s : Store} {plan : FederatedPlan} (hp : s.plans = [(plan.runId, plan)])
    (hr : RowsOf plan s.tasks) {call : Call} (hc : RunStores.runOf call = plan.runId) :
    let rs := Function.update RunStores.empty plan.runId (some ⟨plan, s.tasks.map TaskRow.state⟩)
    (s.step call).2 = (RunStores.step rs call).2 ∧
      Holds (s.step call).1 (RunStores.step rs call).1 := by
  intro rs
  cases call with
  | create other =>
    have hrun : other.runId = plan.runId := hc
    have hstored : s.plan other.runId = some plan := by simp [Store.plan, hp, hrun]
    rw [step_create_existing hstored]
    simp only [RunStores.step, RunStores.createPlan, rs, hrun, Function.update_self]
    exact ⟨trivial, Holds.one hp hr⟩
  | save task =>
    have hrun : task.runId = plan.runId := hc
    have hrs : rs task.runId = some ⟨plan, s.tasks.map TaskRow.state⟩ := by simp [rs, hrun]
    by_cases hit : ∃ row ∈ s.tasks, Store.Hits task row
    · rw [step_save ((hr.countP_eq_one_iff task).mpr hit),
        stores_step_save hrs ((exists_matches_iff hr task).mpr hit)]
      have hone := Holds.one (s := { s with tasks := s.tasks.map (Store.updateRow task) })
        hp (hr.updateRow task)
      simp only [rs, hrun, Function.update_idem, ← map_updateRow_state hr task]
      exact ⟨trivial, hone⟩
    · rw [step_save_conflict fun h => hit ((hr.countP_eq_one_iff task).mp h),
        stores_step_save_missing fun r h => ?_]
      · exact ⟨rfl, Holds.one hp hr⟩
      · obtain rfl := Option.some.inj (hrs.symm.trans h)
        exact fun hm => hit ((exists_matches_iff hr task).mp hm)

/-- **A call that is kept apart is answered as the run's own store answers it**, and the invariant
holds after it. -/
theorem step_of_apart {s : Store} {rs : RunStores} (h : Holds s rs) {call : Call}
    (hc : call.Admissible) (ha : Apart s call) :
    (s.step call).2 = (rs.step call).2 ∧ Holds (s.step call).1 (rs.step call).1 := by
  cases h with
  | empty hp ht =>
    cases call with
    | create plan =>
      obtain ⟨hi, hr⟩ := rowsOf_insert hc
      rw [step_create (by simp [Store.plan, hp]) (ht ▸ hi)]
      simp only [RunStores.step, RunStores.createPlan, RunStores.empty, true_and]
      have hone := Holds.one
        (s := { s with plans := [(plan.runId, plan)], tasks := plan.sourceTasks.map rowOf }) rfl hr
      have hrows : (plan.sourceTasks.map rowOf).map TaskRow.state = plan.sourceTasks := by
        rw [List.map_map]
        exact List.map_id plan.sourceTasks
      rw [hrows] at hone
      rw [hp, List.nil_append]
      exact hone
    | save task =>
      rw [step_save_conflict (by simp [ht]), stores_step_save_missing fun r h => by cases h]
      exact ⟨rfl, Holds.empty hp ht⟩
  | @one plan hp hr =>
    by_cases hrun : RunStores.runOf call = plan.runId
    · exact step_own hp hr hrun
    · cases call with
      | create other =>
        obtain ⟨row, hrow, -⟩ := hr.exists_first
        exact absurd ((ha row hrow).symm.trans (hr.mem hrow).1) hrun
      | save task =>
        have hn : ∀ row ∈ s.tasks, ¬ Store.Hits task row := fun row hrow hit =>
          hrun ((ha row hrow hit).symm.trans (hr.mem hrow).1)
        have hcount : ¬ s.tasks.countP (fun row => Store.Hits task row) = 1 := by
          intro hcount
          obtain ⟨row, hrow, hit⟩ := (hr.countP_eq_one_iff task).mp hcount
          exact hn row hrow hit
        rw [step_save_conflict hcount, stores_step_save_missing (other_run_missing hrun)]
        exact ⟨rfl, Holds.one hp hr⟩

/-- A call that meets a row of another run is not answered as the run's own store answers it. -/
theorem apart_of_step {s : Store} {rs : RunStores} (h : Holds s rs) {call : Call}
    (hc : call.Admissible) (he : (s.step call).2 = (rs.step call).2) : Apart s call := by
  cases h with
  | empty hp ht => cases call <;> simp [Apart, ht]
  | @one plan hp hr =>
    cases call with
    | create other =>
      intro row hrow
      by_contra hne
      have hrun : other.runId ≠ plan.runId := fun e => hne ((hr.mem hrow).1.trans e.symm)
      have hnone : s.plan other.runId = none := by
        simp [Store.plan, hp, List.lookup, beq_false_of_ne hrun]
      rw [step_create_taken hnone (create_taken hr hc)] at he
      simp [RunStores.step] at he
    | save task =>
      intro row hrow hit
      by_contra hne
      have hrun : task.runId ≠ plan.runId := fun e => hne ((hr.mem hrow).1.trans e.symm)
      rw [step_save ((hr.countP_eq_one_iff task).mpr ⟨row, hrow, hit⟩),
        stores_step_save_missing (other_run_missing hrun)] at he
      cases he

/-! ## Runs of calls -/

theorem isolated_iff {s : Store} {rs : RunStores} (h : Holds s rs) {calls : List Call}
    (hc : ∀ call ∈ calls, call.Admissible) : Isolated s rs calls ↔ ApartAlong s calls := by
  induction calls generalizing s rs with
  | nil => exact Iff.rfl
  | cons call calls ih =>
    have hcall : call.Admissible := hc call (by simp)
    have hrest : ∀ c ∈ calls, c.Admissible := fun c hm => hc c (List.mem_cons_of_mem _ hm)
    constructor
    · rintro ⟨he, -, hi⟩
      have ha : Apart s call := apart_of_step h hcall he
      exact ⟨ha, (ih (step_of_apart h hcall ha).2 hrest).mp hi⟩
    · rintro ⟨ha, hr⟩
      obtain ⟨he, hh⟩ := step_of_apart h hcall ha
      exact ⟨he, hh.tasksOf_eq, (ih hh hrest).mpr hr⟩

/-- **From empty tables, a run of calls is isolated exactly when every call is kept apart** from the
stored rows of other runs. -/
theorem isolated_iff_apartAlong (calls : List Call) (hc : ∀ call ∈ calls, call.Admissible) :
    Isolated {} RunStores.empty calls ↔ ApartAlong {} calls :=
  isolated_iff (Holds.empty rfl rfl) hc

/-! ## Two runs -/

def sampleTask (datasourceId : String) (h : 1 ≤ datasourceId.length) : SourceTaskDraft :=
  { datasourceId, question := "revenue", purpose := "compare", expectedShape := .scalar,
    datasourceId_length := h, question_length := by decide, purpose_length := by decide }

def sampleDraft : FederatedPlanDraft :=
  { sourceTasks := [sampleTask "north" (by decide), sampleTask "south" (by decide)]
    merge := { operation := .compareScalars } }

def sampleRequest (runId : String) : Request :=
  { clock := 0
    uuid := "plan of " ++ runId
    versions := fun _ => none
    scope := { workspaceId := "default", allowedDatasourceIds := ["north", "south"], maxSources := 2,
               maxRowsPerSource := 200, maxTotalRows := 1000, maxIntermediateBytes := 1000000,
               deadline := 1 }
    runId
    question := "revenue of both"
    businessQuery := none }

def samplePlan (runId : String) : FederatedPlan := sampleDraft.toPlan (sampleRequest runId)

theorem validated_samplePlan (runId : String) : Validated (samplePlan runId) :=
  ⟨sampleDraft, sampleRequest runId, {}, rfl⟩

/-- A run is created and its first task is saved. -/
def oneRun : List Call :=
  [.create (samplePlan "first"), .save (toTask (sampleRequest "first") 0 (sampleTask "north" (by decide)))]

theorem oneRun_admissible : ∀ call ∈ oneRun, call.Admissible := by
  intro call hc
  simp only [oneRun, List.mem_cons, List.not_mem_nil, or_false] at hc
  rcases hc with rfl | rfl
  · exact validated_samplePlan "first"
  · exact ⟨samplePlan "first", validated_samplePlan "first", _, List.mem_cons_self, ⟨rfl, rfl, rfl, rfl⟩⟩

theorem oneRun_isolated : ApartAlong {} oneRun ∧ Isolated {} RunStores.empty oneRun :=
  have ha : ApartAlong {} oneRun := by decide
  ⟨ha, (isolated_iff_apartAlong oneRun oneRun_admissible).mpr ha⟩

/-- Two runs are created, each with a plan of its own. -/
def twoRuns : List Call := [.create (samplePlan "first"), .create (samplePlan "second")]

/-- The second run cannot store its plan: its first task is `source_1`, and so is the first run's. -/
theorem second_run_not_isolated :
    (∀ call ∈ twoRuns, call.Admissible) ∧ ¬ Isolated {} RunStores.empty twoRuns := by
  constructor
  · intro call hc
    simp only [twoRuns, List.mem_cons, List.not_mem_nil, or_false] at hc
    rcases hc with rfl | rfl
    · exact validated_samplePlan "first"
    · exact validated_samplePlan "second"
  · rintro ⟨-, -, he, -⟩
    have hc : ((Store.step {} (.create (samplePlan "first"))).1.step
        (.create (samplePlan "second"))).2 = .error .integrityError := by decide
    rw [hc] at he
    simp [RunStores.step] at he

end Federation
