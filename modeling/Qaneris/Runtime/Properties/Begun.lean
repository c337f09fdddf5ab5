import Qaneris.Runtime.Properties.Attempts

/-!
# A run that has begun

What a worker of a run can count on while others cancel it, what it promises them, and how its attempt
ends.

* `Meddles.disturbed` — a `cancel` call leaves the status of a run in progress as it is
* `begun_sound` — where an attempt ends without an error the run is settled, or it was passed over
-/

namespace Runtime

open Infra (Json Program Transaction)
open Infra.Program (Contract Triple Within atomic wp_atomic wp_bind wp_mono wp_ofExcept within_pure)

/-! ## What a cancellation does to a run -/

/-- The run was asked to stop, or it was waiting and is cancelled. -/
def CancelledTo (run run' : Run) : Prop :=
  run.revision < run'.revision ∧
    (run'.status = run.status ∧ run'.cancelRequested = true ∨
      run.status = .waitingUser ∧ run'.status = .cancelled)

theorem CancelledTo.trans {a b d : Run} (hab : CancelledTo a b) (hbd : CancelledTo b d) :
    CancelledTo a d := by
  refine ⟨hab.1.trans hbd.1, ?_⟩
  rcases hab.2 with ⟨hs, -⟩ | ⟨hw, hc⟩
  · rcases hbd.2 with ⟨hs', hr'⟩ | ⟨hw', hc'⟩
    · exact Or.inl ⟨hs'.trans hs, hr'⟩
    · exact Or.inr ⟨hs.symm.trans hw', hc'⟩
  · rcases hbd.2 with ⟨hs', -⟩ | ⟨-, hc'⟩
    · exact Or.inr ⟨hw, hs'.trans hc⟩
    · exact Or.inr ⟨hw, hc'⟩

theorem CancelledTo.settled {run run' : Run} (h : CancelledTo run run') (hs : run.status.Settled) :
    run'.status.Settled := by
  rcases h.2 with ⟨hst, -⟩ | ⟨-, hc⟩
  · rw [hst]
    exact hs
  · rw [hc]
    decide

theorem CancelledTo.ne_created {run run' : Run} (h : CancelledTo run run')
    (hs : run.status ≠ .created) : run'.status ≠ .created := by
  rcases h.2 with ⟨hst, -⟩ | ⟨-, hc⟩
  · rw [hst]
    exact hs
  · rw [hc]
    decide

/-- A `cancel` call cancels the run that it has read. -/
theorem Edit.cancelledTo {run changed : Run} {now : Contracts.Instant}
    (h : Edit run changed [.cancelled run.runId]) :
    CancelledTo run (Store.updated changed changed.revision now) := by
  have hrev : run.revision < (Store.updated changed changed.revision now).revision := by
    show run.revision < changed.revision + 1
    rw [h.revision]
    omega
  refine ⟨hrev, ?_⟩
  cases h with
  | withdraw hs hm _ =>
    obtain ⟨rfl, -⟩ := transition_ok hm
    exact Or.inr ⟨hs, rfl⟩
  | request hs => exact Or.inl ⟨rfl, rfl⟩

/-- What a worker of the run has to expect of a step of the others. -/
structure Disturbed (runId : String) (w w' : World) : Prop where
  step : ∃ marks, w'.log = w.log ++ marks ∧ (∀ m ∈ marks, m.runId = runId → m = .cancelled runId) ∧
    ∀ run, w.runs.row runId = some run → ∃ run', w'.runs.row runId = some run' ∧
      (run' = run ∨ .cancelled runId ∈ marks ∧ CancelledTo run run')

theorem Disturbed.of_same {runId : String} {w w' : World} (hlog : w'.log = w.log)
    (hrow : w'.runs.row runId = w.runs.row runId) : Disturbed runId w w' := by
  refine ⟨[], by rw [hlog, List.append_nil], by simp, ?_⟩
  intro run h
  exact ⟨run, hrow.trans h, Or.inl rfl⟩

theorem Disturbed.refl (runId : String) (w : World) : Disturbed runId w w :=
  Disturbed.of_same rfl rfl

theorem Disturbed.trans {runId : String} {a b d : World} (hab : Disturbed runId a b)
    (hbd : Disturbed runId b d) : Disturbed runId a d := by
  obtain ⟨marks₁, hlog₁, hmarks₁, hrow₁⟩ := hab.step
  obtain ⟨marks₂, hlog₂, hmarks₂, hrow₂⟩ := hbd.step
  refine ⟨marks₁ ++ marks₂, by rw [hlog₂, hlog₁, List.append_assoc], ?_, ?_⟩
  · intro m hm
    rcases List.mem_append.mp hm with hm | hm
    · exact hmarks₁ m hm
    · exact hmarks₂ m hm
  · intro run h
    obtain ⟨run₁, h₁, hr₁⟩ := hrow₁ run h
    obtain ⟨run₂, h₂, hr₂⟩ := hrow₂ run₁ h₁
    refine ⟨run₂, h₂, ?_⟩
    rcases hr₁ with rfl | ⟨hm₁, hc₁⟩
    · rcases hr₂ with rfl | ⟨hm₂, hc₂⟩
      · exact Or.inl rfl
      · exact Or.inr ⟨List.mem_append_right _ hm₂, hc₂⟩
    · rcases hr₂ with rfl | ⟨-, hc₂⟩
      · exact Or.inr ⟨List.mem_append_left _ hm₁, hc₁⟩
      · exact Or.inr ⟨List.mem_append_left _ hm₁, hc₁.trans hc₂⟩

theorem Elsewhere.disturbed {runId : String} {w w' : World} (h : Elsewhere runId w w') :
    Disturbed runId w w' := by
  obtain ⟨marks, hlog, hmarks⟩ := h.log
  refine ⟨marks, hlog, fun m hm he => absurd he (hmarks m hm), ?_⟩
  intro run hrun
  exact ⟨run, h.row.trans hrun, Or.inl rfl⟩

/-- What a `cancel` call does disturbs every run as a cancellation does. -/
theorem Meddles.disturbed {w w' : World} (h : Meddles w w') (runId : String) :
    Disturbed runId w w' := by
  cases h with
  | aside hruns hlog _ =>
    refine Disturbed.of_same hlog ?_
    unfold Store.row
    rw [hruns]
  | @cancels run changed now hedit hreplaced hlog _ =>
    refine ⟨[.cancelled run.runId], hlog, ?_, ?_⟩
    · intro m hm he
      obtain rfl := List.mem_singleton.mp hm
      exact congrArg Mark.cancelled he
    · intro r hr
      by_cases hid : runId = run.runId
      · subst hid
        obtain rfl := Option.some.inj (hreplaced.row.symm.trans hr)
        exact ⟨_, hreplaced.row', Or.inr ⟨List.mem_singleton.mpr rfl, hedit.cancelledTo⟩⟩
      · exact ⟨r, (hreplaced.other _ hid).trans hr, Or.inl rfl⟩

/-! ## Silent steps -/

/-- A step that touches no row of a run and leaves no mark. -/
structure Silent (w w' : World) : Prop where
  runs : w'.runs.runs = w.runs.runs
  log : w'.log = w.log

theorem Silent.row {w w' : World} (h : Silent w w') (runId : String) :
    w'.runs.row runId = w.runs.row runId := by
  unfold Store.row
  rw [h.runs]

theorem silent_lenient : Lenient Silent where
  refl _ := ⟨rfl, rfl⟩
  event _ _ _ _ _ _ := ⟨rfl, rfl⟩
  message _ _ _ := ⟨rfl, rfl⟩
  federation _ _ := ⟨rfl, rfl⟩
  diagnostics _ _ := ⟨rfl, rfl⟩
  announce _ _ _ _ := ⟨rfl, rfl⟩
  remember _ _ _ _ _ _ := ⟨rfl, rfl⟩
  list _ := ⟨rfl, List.append_nil _⟩

theorem Silent.disturbed {w w' : World} (h : Silent w w') (runId : String) : Disturbed runId w w' :=
  Disturbed.of_same h.log (h.row runId)

/-! ## The contract of a worker -/

/-- What a worker of the run promises: rows and log grow, and the run is not new again. -/
structure Kept (runId : String) (w w' : World) : Prop where
  grown : Grown w w'
  log : w.log <+: w'.log
  begun : ∀ run run', w.runs.row runId = some run → w'.runs.row runId = some run' →
    run.status ≠ .created → run'.status ≠ .created

def worker (runId : String) : Contract World Question where
  rely := Disturbed runId
  guar := Kept runId

/-- A step that changes no row of a run. -/
theorem Kept.of_runs {runId : String} {w w' : World} (hruns : w'.runs.runs = w.runs.runs)
    (hlog : w.log <+: w'.log) : Kept runId w w' where
  grown := Grown.of_runs hruns
  log := hlog
  begun := by
    intro run run' h h' hs
    have hrow : w'.runs.row runId = w.runs.row runId := by
      unfold Store.row
      rw [hruns]
    obtain rfl := Option.some.inj (h.symm.trans (hrow.symm.trans h'))
    exact hs

theorem Silent.kept {w w' : World} (h : Silent w w') (runId : String) : Kept runId w w' :=
  Kept.of_runs h.runs (by rw [h.log])

theorem Kept.of_noting {runId : String} (w : World) (marks : List Mark) (acts : List Act) :
    Kept runId w (w.noting marks acts) :=
  Kept.of_runs rfl (List.prefix_append _ _)

theorem worker_mild (runId : String) : Mild (worker runId) where
  rely_refl := Disturbed.refl runId
  rely_trans _ _ _ := Disturbed.trans
  guar_refl _ := Kept.of_runs rfl (List.prefix_refl _)
  may _ _ := trivial

/-! ## What the others leave true -/

/-- The others do not make it false. -/
def Stable (runId : String) (inv : World → Prop) : Prop :=
  ∀ w w', Disturbed runId w w' → inv w → inv w'

/-- The run has been won since the log was `since`. -/
structure Begun (runId : String) (since : List Mark) (w : World) : Prop where
  log : since <+: w.log
  row : ∃ run, w.runs.row runId = some run ∧ run.status ≠ .created

theorem begun_stable (runId : String) (since : List Mark) : Stable runId (Begun runId since) := by
  intro w w' h hw
  obtain ⟨marks, hlog, -, hrow⟩ := h.step
  obtain ⟨run, hrun, hs⟩ := hw.row
  obtain ⟨run', hrun', hr⟩ := hrow run hrun
  refine ⟨hw.log.trans ⟨marks, hlog.symm⟩, run', hrun', ?_⟩
  rcases hr with rfl | ⟨-, hc⟩
  · exact hs
  · exact hc.ne_created hs

theorem Begun.of_kept {runId : String} {since : List Mark} {w w' : World} (h : Kept runId w w')
    (hw : Begun runId since w) : Begun runId since w' := by
  obtain ⟨run, hrun, hs⟩ := hw.row
  obtain ⟨run', hrun', -⟩ := h.grown runId run hrun
  exact ⟨hw.log.trans h.log, run', hrun', h.begun run run' hrun hrun' hs⟩

theorem settledRun_stable (runId : String) : Stable runId fun w => w.SettledRun runId := by
  intro w w' h hw
  obtain ⟨run, hrun, hs⟩ := hw
  obtain ⟨marks, -, -, hrow⟩ := h.step
  obtain ⟨run', hrun', hr⟩ := hrow run hrun
  refine ⟨run', hrun', ?_⟩
  rcases hr with rfl | ⟨-, hc⟩
  · exact hs
  · exact hc.settled hs

/-- The run is settled. -/
structure Stopped (runId : String) (since : List Mark) (w : World) : Prop extends
    Begun runId since w where
  settled : w.SettledRun runId

theorem stopped_stable (runId : String) (since : List Mark) :
    Stable runId (Stopped runId since) :=
  fun w w' h hw => ⟨begun_stable runId since w w' h hw.toBegun,
    settledRun_stable runId w w' h hw.settled⟩

/-- How an attempt ends that does not fail. -/
structure Over (runId : String) (since : List Mark) (w : World) : Prop extends
    Begun runId since w where
  why : w.SettledRun runId ∨ ∃ marks, w.log = since ++ marks ∧ .passedOver runId ∈ marks

theorem Stopped.toOver {runId : String} {since : List Mark} {w : World}
    (h : Stopped runId since w) : Over runId since w :=
  ⟨h.toBegun, Or.inl h.settled⟩

section Rules

variable {runId : String} {since : List Mark} {α : Type}

/-- A program that does nothing to runs leaves true what the others leave true. -/
theorem quiet_wp {p : Prog α} {inv : World → Prop} {w : World} (hinv : Stable runId inv)
    (hp : Within Silent p) (hw : inv w) : p.wp (worker runId) (fun _ => inv) (fun _ => inv) w :=
  hp.keeps (fun _ _ h => h.kept runId) (fun _ _ => trivial) hinv
    (fun _ _ h => hinv _ _ (h.disturbed runId)) hw

/-! ## Checkpoints of the run -/

/-- The copy of the run that a worker holds. -/
structure Own (runId : String) (run : Run) : Prop where
  runId_eq : run.runId = runId
  ne_created : run.status ≠ .created

theorem Own.edit {run changed : Run} {acts : List Act} (hown : Own runId run)
    (he : Edit run changed acts) : Own runId changed :=
  ⟨he.runId.trans hown.runId_eq, he.ne_created hown.ne_created⟩

theorem Begun.noting {w : World} (marks : List Mark) (acts : List Act)
    (hw : Begun runId since w) : Begun runId since (w.noting marks acts) :=
  hw.of_kept (Kept.of_noting w marks acts)

namespace Orchestrator

theorem read_triple {acts : World → List Act} :
    Triple (worker runId) (Begun runId since) (getNoting nothing [] runId acts) fun run w =>
      Begun runId since w ∧ Own runId run ∧ (run.status.Settled → Stopped runId since w) := by
  intro w hw
  refine wp_getNoting (worker_mild runId) ?_ ?_ fun _ _ _ => trivial
  · exact fun w' _ => ⟨Kept.of_noting w' _ _, trivial⟩
  · intro w' run hr hrow
    have hb : Begun runId since (w'.noting [] (acts w')) :=
      (begun_stable runId since w w' hr hw).noting _ _
    refine ⟨Kept.of_noting w' _ _, hb, ⟨Store.row_runId hrow, ?_⟩, fun hs => ⟨hb, run, hrow, hs⟩⟩
    obtain ⟨run', hrow', hs'⟩ := hb.row
    obtain rfl := Option.some.inj (hrow.symm.trans hrow')
    exact hs'

/-- What a save of the run does to the state. -/
theorem saved {w : World} {s : Store} {run : Run} {now : Contracts.Instant} (done : List Mark)
    (acts : List Act) (hown : Own runId run) (hlog : since <+: w.log)
    (hs : w.runs.save run run.revision now = .ok (s, Store.updated run run.revision now)) :
    Kept runId w ({ w with runs := s }.noting done acts) ∧
      Begun runId since ({ w with runs := s }.noting done acts) ∧
      (run.status.Settled → Stopped runId since ({ w with runs := s }.noting done acts)) := by
  obtain ⟨-, -, row, hrow, -, hself, -⟩ := Store.save_ok hs
  rw [hown.runId_eq] at hself
  have hb : Begun runId since ({ w with runs := s }.noting done acts) :=
    ⟨hlog.trans (List.prefix_append _ _), _, hself, hown.ne_created⟩
  refine ⟨⟨Grown.of_save hs rfl, List.prefix_append _ _, ?_⟩, hb, fun hst => ⟨hb, _, hself, hst⟩⟩
  intro r r' _ hr' _
  obtain rfl := Option.some.inj (hself.symm.trans hr')
  exact hown.ne_created

theorem saveNoting_triple {done : List Mark} {acts : List Act} {run : Run} (hown : Own runId run) :
    Triple (worker runId) (Begun runId since) (saveNoting nothing done run acts) fun run' w =>
      Begun runId since w ∧ Saved run run' ∧ (run.status.Settled → Stopped runId since w) := by
  intro w hw
  refine wp_saveNoting (worker_mild runId) ?_ ?_ fun _ _ _ _ => trivial
  · exact fun w' _ => ⟨Kept.of_noting w' _ _, trivial⟩
  · intro w' s now hr hs
    obtain ⟨hk, hb, hst⟩ := saved done acts hown (begun_stable runId since w w' hr hw).log hs
    exact ⟨hk, hb, ⟨now, rfl⟩, hst⟩

variable {self : Orchestrator}

/-- A run that was cancelled is settled. -/
theorem poll_triple {run : Run} {acts : World → List Act} :
    Triple (worker runId) (fun w => Begun runId since w ∧ Own runId run)
      (self.cancelIfRequestedNoting nothing [] run acts) fun found w =>
        (found = none → Begun runId since w ∧ Own runId run) ∧
          (found ≠ none → Stopped runId since w) := by
  refine Triple.assuming fun hrun => ?_
  obtain rfl := hrun.runId_eq
  refine read_triple.bind fun latest => ?_
  rintro w ⟨hw, hown, hsettled⟩
  show (if _ then _ else _ : Prog (Option Run)).wp _ _ _ _
  split
  · exact ⟨fun _ => ⟨hw, hrun⟩, fun h => absurd rfl h⟩
  · next hrequested =>
    split
    · next hterminal => exact ⟨nofun, fun _ => hsettled hterminal⟩
    · refine wp_bind (wp_question (worker_mild _) fun w₁ now hr => ?_)
      have hw₁ := begun_stable run.runId since w w₁ hr hw
      refine wp_bind (wp_bind (wp_ofExcept (fun moved hm => ?_) fun _ _ => trivial))
      have hstop : Edit latest { moved with completedAt := some now } [] :=
        .stop (by simpa using hrequested) hm now
      refine wp_mono (fun cancelled w₂ h => ?_) (fun _ _ h => h)
        (saveNoting_triple (hown.edit hstop) w₁ hw₁)
      have hs : moved.status.Settled := by
        rw [(transition_ok hm).1]
        show RunStatus.cancelled.Settled
        decide
      refine wp_bind (wp_mono (fun _ w₃ h₃ => ⟨nofun, fun _ => h₃⟩) (fun _ _ _ => trivial)
        (quiet_wp (stopped_stable run.runId since)
          (appendEvent_within silent_lenient.toQuiet (by decide))
          (h.2.2 hs)))

end Orchestrator

/-! ## The logic of settled runs -/

/-- The run has begun; where the attempt ends it is settled, or it was passed over. -/
def begunLogic (runId : String) (since : List Mark) : Logic where
  contract := worker runId
  still := Silent
  going := Begun runId since
  ready := Begun runId since
  paused := Begun runId since
  stopped := Stopped runId since
  ended := Over runId since
  copy run _ := Own runId run
  clean run _ := Own runId run

open Orchestrator in
theorem begun_sound (self : Orchestrator) (runId : String) (since : List Mark) :
    (begunLogic runId since).Sound self runId where
  mild := worker_mild runId
  lenient := silent_lenient
  guar _ _ h := h.kept runId
  going := ⟨begun_stable runId since, fun w w' h => begun_stable runId since w w' (h.disturbed runId)⟩
  stopped :=
    ⟨stopped_stable runId since, fun w w' h => stopped_stable runId since w w' (h.disturbed runId)⟩
  clean _ := ⟨fun _ _ _ h => h, fun _ _ _ h => h⟩
  named _ _ h := h.runId_eq
  copy_of_clean _ _ h := h
  paused_of_going _ h := h
  paused_of_stopped _ h := h.toBegun
  ended_of_stopped _ h := h.toOver
  get := read_triple.conseq (fun _ h => h) fun _ _ h => ⟨h.1, h.2.1⟩
  reread := by
    refine read_triple.conseq (fun _ h => h) fun run w h => ⟨fun hs => h.2.2 ?_, fun _ => h.1⟩
    rw [hs]
    decide
  reopen := read_triple.conseq (fun _ h => h) fun _ _ h => ⟨h.1, h.2.1⟩
  poll _ := poll_triple
  clear _ := poll_triple
  save run changed he _ := Triple.assuming fun hown =>
    (saveNoting_triple (hown.edit he)).conseq (fun _ h => h) fun saved w h =>
      ⟨⟨h.1, h.2.1.runId.trans (hown.edit he).runId_eq, by
        rw [h.2.1.status]
        exact (hown.edit he).ne_created⟩, h.2.1⟩
  wait run changed taskId he := Triple.assuming fun hown =>
    (saveNoting_triple (hown.edit he)).conseq (fun _ h => h) fun _ _ h => h.2.2 (by
      cases he with
      | wait hm =>
        rw [(transition_ok hm).1]
        show RunStatus.waitingUser.Settled
        decide)
  complete run changed he := Triple.assuming fun hown =>
    (saveNoting_triple (hown.edit he)).conseq (fun _ h => h) fun _ _ h => h.2.2 (by
      cases he with
      | complete hm =>
        rw [(transition_ok hm).1]
        show RunStatus.completed.Settled
        decide)
  block run changed he hs := Triple.assuming fun hown =>
    (saveNoting_triple (hown.edit he)).conseq (fun _ h => h) fun _ _ h => h.2.2 (by
      rw [hs]
      decide)
  invoke taskId request := by
    refine Triple.bind (m := fun _ => Begun runId since) ?_ fun _ => ?_
    · refine Triple.atomic (worker_mild runId).guar_refl fun w w' w'' a hw hr htx => ?_
      obtain ⟨rfl, -⟩ := Prod.mk.inj (Except.ok.inj htx)
      exact ⟨Kept.of_noting w' _ _, (begun_stable runId since w w' hr hw).noting _ _⟩
    · exact fun w hw => quiet_wp (begun_stable runId since) Infra.Program.within_ask hw
  passOver := by
    refine Triple.atomic (worker_mild runId).guar_refl fun w w' w'' a hw hr htx => ?_
    obtain ⟨rfl, -⟩ := Prod.mk.inj (Except.ok.inj htx)
    have hb := begun_stable runId since w w' hr hw
    obtain ⟨marks, hlog⟩ := hb.log
    refine ⟨Kept.of_noting w' _ _, hb.noting _ _, Or.inr ⟨marks ++ [.passedOver runId], ?_, ?_⟩⟩
    · show w'.log ++ _ = _
      rw [← hlog, List.append_assoc]
    · simp
  messages run hid := by
    intro w hw
    refine wp_storeCallNoting (worker_mild runId) ?_ ?_ fun _ _ _ _ => trivial
    · exact fun w' _ => ⟨Kept.of_noting w' _ _, trivial⟩
    · intro w' w'' a hr htx
      obtain ⟨rfl, -⟩ := Prod.mk.inj (Except.ok.inj htx)
      exact ⟨Kept.of_noting w' _ _, (begun_stable runId since w w' hr hw).noting _ _⟩

end Rules

end Runtime
