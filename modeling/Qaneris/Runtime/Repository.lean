import Mathlib.Data.List.Sort
import Qaneris.Infra.Program
import Qaneris.Runtime.StateMachine

/-!
# Run checkpoints

`SQLiteRunRepository`: the table of runs, where a save compares the revision it expects, and the
ordered log of public events. Every operation is one transaction.

* `Store.save_ok` — a save meets the row of its run at the revision it expects, and writes no other
* `Store.lastEvent_appendEvent` — an event that is appended is the last of its run
-/

namespace Runtime

open Contracts (Instant)
open Infra (Json)

/-- The two tables, rows in the order they were inserted. -/
structure Store where
  runs : List Run := []
  events : List RunEvent := []
  deriving DecidableEq, Repr

namespace Store

/-! ## Runs -/

/-- The row with the primary key `runId`. -/
def row (s : Store) (runId : String) : Option Run :=
  s.runs.find? fun run => run.runId = runId

def get (s : Store) (runId : String) : Except Failure Run :=
  match s.row runId with
  | some run => .ok run
  | none => .error (.key runId)

/-- A row that the request of a client has made already. -/
def existing (s : Store) (run : Run) : Option Run :=
  s.runs.find? fun r => r.conversationId = run.conversationId ∧ r.clientRequestId = run.clientRequestId

/-- A text that Python takes for true. -/
def given (text : Option String) : Bool :=
  text.any fun t => t ≠ ""

/-- `INSERT INTO run`; the id is unique, and so is a client's request in its conversation. -/
def insert (s : Store) (run : Run) : Except Failure (Store × Run) :=
  if (s.row run.runId).isSome ∨ run.clientRequestId.isSome ∧ (s.existing run).isSome then
    .error .integrity
  else .ok ({ s with runs := s.runs ++ [run] }, run)

def create (s : Store) (run : Run) : Except Failure (Store × Run) :=
  if given run.clientRequestId then
    match s.existing run with
    | some existing => .ok (s, existing)
    | none => s.insert run
  else s.insert run

/-- The copy of a run that `save` writes and returns. -/
def updated (run : Run) (expectedRevision : Nat) (now : Instant) : Run :=
  { run with revision := expectedRevision + 1, updatedAt := now }

/-- The columns that `save` sets. -/
def setColumns (row updated : Run) : Run :=
  { row with
    status := updated.status
    currentStage := updated.currentStage
    revision := updated.revision
    attempt := updated.attempt
    cancelRequested := updated.cancelRequested
    resolvedQuestion := updated.resolvedQuestion
    responseJson := updated.responseJson
    failureCode := updated.failureCode
    failureMessage := updated.failureMessage
    retryable := updated.retryable
    updatedAt := updated.updatedAt
    completedAt := updated.completedAt
    runKind := updated.runKind }

/-- `UPDATE run SET … WHERE id=?` -/
def update (s : Store) (runId : String) (f : Run → Run) : Store :=
  { s with runs := s.runs.map fun r => if r.runId = runId then f r else r }

/-- An update with `AND revision=?` that is refused unless it meets the row. -/
def save (s : Store) (run : Run) (expectedRevision : Nat) (now : Instant) :
    Except Failure (Store × Run) :=
  match s.row run.runId with
  | none => .error (.value "run revision conflict")
  | some row =>
    if row.revision = expectedRevision then
      let updated := updated run expectedRevision now
      .ok (s.update run.runId fun r => setColumns r updated, updated)
    else .error (.value "run revision conflict")

@[simp]
theorem setColumns_runId (row updated : Run) : (setColumns row updated).runId = row.runId := rfl

@[simp]
theorem setColumns_status (row updated : Run) : (setColumns row updated).status = updated.status :=
  rfl

@[simp]
theorem setColumns_revision (row updated : Run) :
    (setColumns row updated).revision = updated.revision := rfl

@[simp]
theorem setColumns_cancelRequested (row updated : Run) :
    (setColumns row updated).cancelRequested = updated.cancelRequested := rfl

theorem row_runId {s : Store} {runId : String} {run : Run} (h : s.row runId = some run) :
    run.runId = runId := by
  have hm := List.find?_some h
  simpa using hm

/-- An update of one row does not change which row another id finds. -/
theorem row_update (s : Store) (runId other : String) {f : Run → Run}
    (hf : ∀ r, (f r).runId = r.runId) :
    (s.update runId f).row other =
      (s.row other).map fun r => if r.runId = runId then f r else r := by
  unfold update row
  rw [List.find?_map]
  congr 2
  funext r
  by_cases h : r.runId = runId
  · simp [h, hf]
  · simp [h]

theorem row_update_self {s : Store} {runId : String} {run : Run} {f : Run → Run}
    (hf : ∀ r, (f r).runId = r.runId) (h : s.row runId = some run) :
    (s.update runId f).row runId = some (f run) := by
  rw [row_update s runId runId hf, h]
  simp [row_runId h]

theorem row_update_other {s : Store} {runId other : String} {f : Run → Run}
    (hf : ∀ r, (f r).runId = r.runId) (h : other ≠ runId) :
    (s.update runId f).row other = s.row other := by
  rw [row_update s runId other hf]
  cases hr : s.row other with
  | none => rfl
  | some r =>
    have hne : r.runId ≠ runId := by
      rw [row_runId hr]
      exact h
    simp [hne]

/-- The ids of the rows are unique, as those of a primary key are. -/
def Unique (s : Store) : Prop := (s.runs.map Run.runId).Nodup

theorem row_of_mem {s : Store} {run : Run} (hunique : s.Unique) (h : run ∈ s.runs) :
    s.row run.runId = some run := by
  cases hrow : s.row run.runId with
  | none =>
    have hnone := List.find?_eq_none.mp hrow run h
    simp at hnone
  | some r =>
    have hr : r ∈ s.runs := List.mem_of_find?_eq_some hrow
    rw [List.inj_on_of_nodup_map hunique hr h (row_runId hrow)]

/-- A save keeps the ids of the rows. -/
theorem save_ids {s s' : Store} {run run' : Run} {expectedRevision : Nat} {now : Instant}
    (h : s.save run expectedRevision now = .ok (s', run')) :
    s'.runs.map Run.runId = s.runs.map Run.runId := by
  unfold save at h
  split at h
  · cases h
  · split at h
    · obtain ⟨rfl, -⟩ := Prod.mk.inj (Except.ok.inj h)
      show (List.map _ s.runs).map Run.runId = _
      rw [List.map_map]
      refine List.map_congr_left fun r _ => ?_
      show (if r.runId = run.runId then setColumns r _ else r).runId = r.runId
      split <;> rfl
    · cases h

/-- What a save that succeeds has met. -/
theorem save_ok {s s' : Store} {run run' : Run} {expectedRevision : Nat} {now : Instant}
    (h : s.save run expectedRevision now = .ok (s', run')) :
    run' = updated run expectedRevision now ∧ s'.events = s.events ∧
      ∃ row, s.row run.runId = some row ∧ row.revision = expectedRevision ∧
        s'.row run.runId = some (setColumns row run') ∧
        ∀ other, other ≠ run.runId → s'.row other = s.row other := by
  unfold save at h
  cases hrow : s.row run.runId with
  | none => simp [hrow] at h
  | some row =>
    simp only [hrow] at h
    split at h
    · next hrev =>
      obtain ⟨rfl, rfl⟩ := Prod.mk.inj (Except.ok.inj h)
      exact ⟨rfl, rfl, row, rfl, hrev, row_update_self (fun _ => rfl) hrow,
        fun other hne => row_update_other (fun _ => rfl) hne⟩
    · cases h

/-- What a creation that succeeds has done: it found the run of the same request, or added a row. -/
theorem create_ok {s s' : Store} {run run' : Run} (h : s.create run = .ok (s', run')) :
    (s' = s ∧ given run.clientRequestId ∧ (s.existing run).isSome) ∨
      (s'.runs = s.runs ++ [run] ∧ s'.events = s.events ∧ run' = run ∧ s.row run.runId = none ∧
        ¬ (given run.clientRequestId ∧ (s.existing run).isSome)) := by
  have hinsert : s.insert run = .ok (s', run') → s'.runs = s.runs ++ [run] ∧
      s'.events = s.events ∧ run' = run ∧ s.row run.runId = none := by
    intro h
    unfold insert at h
    split at h
    · cases h
    · next hnot =>
      obtain ⟨rfl, rfl⟩ := Prod.mk.inj (Except.ok.inj h)
      rw [not_or] at hnot
      exact ⟨rfl, rfl, rfl, Option.not_isSome_iff_eq_none.mp hnot.1⟩
  unfold create at h
  split at h
  · next hgiven =>
    cases he : s.existing run with
    | some existing =>
      rw [he] at h
      obtain ⟨rfl, rfl⟩ := Prod.mk.inj (Except.ok.inj h)
      exact Or.inl ⟨rfl, hgiven, rfl⟩
    | none =>
      rw [he] at h
      obtain ⟨hruns, hevents, hrun, hrow⟩ := hinsert h
      exact Or.inr ⟨hruns, hevents, hrun, hrow, by simp⟩
  · next hgiven =>
    obtain ⟨hruns, hevents, hrun, hrow⟩ := hinsert h
    exact Or.inr ⟨hruns, hevents, hrun, hrow, fun hboth => hgiven hboth.1⟩

/-- A save that is refused has met a row of another revision, or none. -/
theorem save_error {s : Store} {run : Run} {expectedRevision : Nat} {now : Instant} {e : Failure}
    (h : s.save run expectedRevision now = .error e) :
    ∀ row, s.row run.runId = some row → row.revision ≠ expectedRevision := by
  intro row hrow hrev
  simp [save, hrow, hrev] at h

/-! ## Events -/

/-- `COALESCE(MAX(sequence),0)+1` -/
def nextSequence (s : Store) (runId : String) : Nat :=
  (((s.events.filter fun e => e.runId = runId).map RunEvent.sequence).foldl max 0) + 1

def appendEvent (s : Store) (runId : String) (eventType : RunEventType)
    (payload : List (String × Json)) (now : Instant) : Store :=
  { s with events := s.events ++ [{
      runId, sequence := s.nextSequence runId, eventType, occurredAt := now
      publicPayload := payload }] }

@[simp]
theorem appendEvent_row (s : Store) (runId other : String) (eventType : RunEventType)
    (payload : List (String × Json)) (now : Instant) :
    (s.appendEvent runId eventType payload now).row other = s.row other := rfl

/-- `ORDER BY sequence DESC LIMIT 1` -/
def lastEvent (s : Store) (runId : String) : Option RunEvent :=
  ((s.events.filter fun e => e.runId = runId).insertionSort
    fun a b => b.sequence ≤ a.sequence).head?

/-- `events(run_id, after_sequence)`: the later events of a run, `ORDER BY sequence`. -/
def eventsAfter (s : Store) (runId : String) (afterSequence : Nat) : List RunEvent :=
  (s.events.filter fun e => e.runId = runId ∧ afterSequence < e.sequence).insertionSort
    fun a b => a.sequence ≤ b.sequence

/-- A new event comes after all that its run has. -/
theorem lt_nextSequence {s : Store} {e : RunEvent} (he : e ∈ s.events) :
    e.sequence < s.nextSequence e.runId := by
  have hmem : e.sequence ∈ (s.events.filter fun e' => e'.runId = e.runId).map RunEvent.sequence :=
    List.mem_map.mpr ⟨e, List.mem_filter.mpr ⟨he, by simp⟩, rfl⟩
  unfold nextSequence
  rw [List.foldl_max_eq_max (List.ne_nil_of_mem hmem)]
  have hle := List.le_max_of_mem hmem
  omega

instance : Std.Total fun a b : RunEvent => b.sequence ≤ a.sequence where
  total a b := Nat.le_total b.sequence a.sequence

instance : IsTrans RunEvent fun a b => b.sequence ≤ a.sequence where
  trans _ _ _ hab hbc := Nat.le_trans hbc hab

/-- The event that was just appended is the last of its run. -/
theorem lastEvent_appendEvent (s : Store) (runId : String) (eventType : RunEventType)
    (payload : List (String × Json)) (now : Instant) :
    ((s.appendEvent runId eventType payload now).lastEvent runId).map RunEvent.eventType =
      some eventType := by
  let e : RunEvent := {
    runId, sequence := s.nextSequence runId, eventType, occurredAt := now, publicPayload := payload }
  have hfilter : (s.appendEvent runId eventType payload now).events.filter (fun e => e.runId = runId) =
      (s.events.filter fun e => e.runId = runId) ++ [e] := by
    show (s.events ++ [e]).filter _ = _
    rw [List.filter_append]
    simp [e]
  unfold lastEvent
  rw [hfilter]
  have hmem : e ∈ ((s.events.filter fun e => e.runId = runId) ++ [e]).insertionSort
      fun a b => b.sequence ≤ a.sequence :=
    (List.mem_insertionSort _).mpr (by simp)
  have hsorted := List.pairwise_insertionSort (fun a b : RunEvent => b.sequence ≤ a.sequence)
    ((s.events.filter fun e => e.runId = runId) ++ [e])
  have hold : ∀ a ∈ ((s.events.filter fun e => e.runId = runId) ++ [e]).insertionSort
      (fun a b => b.sequence ≤ a.sequence), a = e ∨ a.sequence < e.sequence := by
    intro a ha
    rcases List.mem_append.mp ((List.mem_insertionSort _).mp ha) with ha | ha
    · obtain ⟨hstored, hid⟩ := List.mem_filter.mp ha
      have hlt := lt_nextSequence hstored
      rw [show a.runId = runId by simpa using hid] at hlt
      exact Or.inr hlt
    · exact Or.inl (List.mem_singleton.mp ha)
  cases hl : ((s.events.filter fun e => e.runId = runId) ++ [e]).insertionSort
      (fun a b => b.sequence ≤ a.sequence) with
  | nil =>
    rw [hl] at hmem
    cases hmem
  | cons a rest =>
    rw [hl] at hmem hsorted hold
    have hae : a = e := by
      rcases hold a List.mem_cons_self with hae | hlt
      · exact hae
      · rcases List.mem_cons.mp hmem with hae | hrest
        · exact hae.symm
        · have hle := List.rel_of_pairwise_cons hsorted hrest
          omega
    rw [hae]
    rfl

theorem lastEvent_append_other {s s' : Store} {runId : String} {more : List RunEvent}
    (h : s'.events = s.events ++ more) (hmore : ∀ e ∈ more, e.runId ≠ runId) :
    s'.lastEvent runId = s.lastEvent runId := by
  have hnone : (more.filter fun e => e.runId = runId) = [] := by
    refine List.filter_eq_nil_iff.mpr fun e he => ?_
    simpa using hmore e he
  unfold lastEvent
  rw [h, List.filter_append, hnone, List.append_nil]

/-! ## Queries over all runs -/

/-- `ORDER BY key, id` -/
def sortedBy (key : Run → Int) (runs : List Run) : List Run :=
  runs.insertionSort fun a b => key a < key b ∨ key a = key b ∧ a.runId ≤ b.runId

/-- `SELECT * FROM run WHERE status IN (…)` -/
def activeRuns (s : Store) : List Run :=
  s.runs.filter fun run => run.status.Active

def queuedRunIds (s : Store) : List String :=
  (sortedBy Run.createdAt (s.runs.filter fun run =>
    (run.status = .waitingUser ∧ run.currentStage = "resume_queued") ∨
      (run.status = .failed ∧ run.currentStage = "retry_queued"))).map Run.runId

/-- Completed runs without a `RUN_COMPLETED` event. A row without a time of completion comes first. -/
def incompleteCompletions (s : Store) : List Run :=
  let open_ := s.runs.filter fun run => run.status = .completed ∧
    ¬ s.events.any fun e => e.runId = run.runId ∧ e.eventType = .runCompleted
  sortedBy (fun _ => 0) (open_.filter fun run => run.completedAt = none) ++
    sortedBy (fun run => run.completedAt.getD 0) (open_.filter fun run => run.completedAt ≠ none)

/-- Waiting runs whose last event is not the request for a clarification; a run without events is not
among them. -/
def incompleteClarifications (s : Store) : List Run :=
  sortedBy Run.updatedAt (s.runs.filter fun run =>
    run.status = .waitingUser ∧ run.currentStage = "waiting_user" ∧
      (s.lastEvent run.runId).any fun e => e.eventType ≠ .clarificationRequired)

theorem mem_incompleteCompletions {s : Store} {run : Run} :
    run ∈ s.incompleteCompletions ↔ run ∈ s.runs ∧ run.status = .completed ∧
      ¬ ∃ e ∈ s.events, e.runId = run.runId ∧ e.eventType = .runCompleted := by
  unfold incompleteCompletions sortedBy
  rw [List.mem_append, List.mem_insertionSort, List.mem_insertionSort, List.mem_filter,
    List.mem_filter, List.mem_filter]
  by_cases hnone : run.completedAt = none <;> simp [hnone]

theorem mem_incompleteClarifications {s : Store} {run : Run} :
    run ∈ s.incompleteClarifications ↔ run ∈ s.runs ∧ run.status = .waitingUser ∧
      run.currentStage = "waiting_user" ∧
      (s.lastEvent run.runId).any fun e => e.eventType ≠ .clarificationRequired := by
  unfold incompleteClarifications sortedBy
  rw [List.mem_insertionSort, List.mem_filter]
  simp

theorem mem_queuedRunIds {s : Store} {runId : String} :
    runId ∈ s.queuedRunIds ↔ ∃ run ∈ s.runs, run.runId = runId ∧
      (run.status = .waitingUser ∧ run.currentStage = "resume_queued" ∨
        run.status = .failed ∧ run.currentStage = "retry_queued") := by
  unfold queuedRunIds sortedBy
  simp only [List.mem_map, List.mem_insertionSort, List.mem_filter, decide_eq_true_eq]
  constructor
  · rintro ⟨run, ⟨hm, hq⟩, rfl⟩
    exact ⟨run, hm, rfl, hq⟩
  · rintro ⟨run, hm, rfl, hq⟩
    exact ⟨run, ⟨hm, hq⟩, rfl⟩

end Store

end Runtime
