import Qaneris.Runtime.Properties.Begun
import Qaneris.Runtime.Properties.Clarifications

/-!
# Abandoned runs

When a worker is done with a run that it has won, the run is settled, unless something kept the worker
from recording the outcome.

* `settled_of_recorded` — in every interleaving with cancellations
* `crossed_run_abandoned` — a run that stays in progress, because a cancellation landed between the last
  look for one and the save of the failure
-/

namespace Runtime

open Infra (Ensemble Pool Program)
open Infra.Program (Contract Triple Within attempt ofExcept wp_attempt wp_bind wp_keep wp_mono
  wp_ofExcept within_ask within_pure)

/-! ## What keeps an outcome from being recorded -/

theorem Recorded.of_append {runId : String} {marks more : List Mark}
    (h : Recorded runId (marks ++ more)) : Recorded runId marks where
  not_crossed hc := h.not_crossed (hc.trans (List.sublist_append_left marks more))
  not_passedOver hm := h.not_passedOver (List.mem_append_left _ hm)
  not_unrecorded hm := h.not_unrecorded (List.mem_append_left _ hm)

theorem crossed_append {runId : String} {marks more : List Mark} (hl : .looked runId ∈ marks)
    (hc : .cancelled runId ∈ more) : Crossed runId (marks ++ more) :=
  (List.singleton_sublist.mpr hl).append (List.singleton_sublist.mpr hc)

/-- What a worker leaves behind: a settled run, or a reason why it could not record the outcome. -/
def Accounted (runId : String) (since : List Mark) (w : World) : Prop :=
  ∃ marks, w.log = since ++ marks ∧ (w.SettledRun runId ∨ ¬ Recorded runId marks)

section Rules

variable {runId : String} {since : List Mark} {self : Orchestrator}

theorem accounted_stable : Stable runId (Accounted runId since) := by
  intro w w' h hw
  obtain ⟨marks, hlog, hacc⟩ := hw
  obtain ⟨more, hmore, -, -⟩ := h.step
  refine ⟨marks ++ more, by rw [hmore, hlog, List.append_assoc], ?_⟩
  rcases hacc with hs | hr
  · exact Or.inl (settledRun_stable runId w w' h hs)
  · exact Or.inr fun hrec => hr hrec.of_append

theorem Stopped.accounted {w : World} (h : Stopped runId since w) : Accounted runId since w := by
  obtain ⟨marks, hlog⟩ := h.log
  exact ⟨marks, hlog.symm, Or.inl h.settled⟩

theorem Over.accounted {w : World} (h : Over runId since w) : Accounted runId since w := by
  rcases h.why with hs | ⟨marks, hlog, hm⟩
  · exact Stopped.accounted ⟨h.toBegun, hs⟩
  · exact ⟨marks, hlog, Or.inr fun hrec => hrec.not_passedOver hm⟩

/-- The store fails when something about the run is to be recorded. -/
theorem accounted_unrecorded {w : World} (hw : Begun runId since w) :
    Accounted runId since (w.noting (unrecorded runId w) []) := by
  obtain ⟨marks, hlog⟩ := hw.log
  refine ⟨marks ++ unrecorded runId w, by rw [← List.append_assoc, hlog]; rfl, ?_⟩
  obtain ⟨run, hrun, -⟩ := hw.row
  by_cases hs : run.status.Settled
  · exact Or.inl ⟨run, hrun, hs⟩
  · refine Or.inr fun hrec => hrec.not_unrecorded ?_
    simp [unrecorded, hrun, hs]

/-! ## The last look -/

/-- The worker has looked for a cancellation and has met `run`; if that is not the row any more, a
cancellation has crossed. -/
def LookedAt (runId : String) (since : List Mark) (run : Run) (w : World) : Prop :=
  ∃ marks, w.log = since ++ marks ∧ .looked runId ∈ marks ∧ ∃ row, w.runs.row runId = some row ∧
    row.status ≠ .created ∧ (row = run ∨ Crossed runId marks)

theorem LookedAt.begun {run : Run} {w : World} (h : LookedAt runId since run w) :
    Begun runId since w := by
  obtain ⟨marks, hlog, -, row, hrow, hs, -⟩ := h
  exact ⟨⟨marks, hlog.symm⟩, row, hrow, hs⟩

theorem lookedAt_stable {run : Run} : Stable runId (LookedAt runId since run) := by
  intro w w' h hw
  obtain ⟨marks, hlog, hl, row, hrow, hs, hrun⟩ := hw
  obtain ⟨more, hmore, -, hstep⟩ := h.step
  obtain ⟨row', hrow', hr⟩ := hstep row hrow
  refine ⟨marks ++ more, by rw [hmore, hlog, List.append_assoc], List.mem_append_left _ hl, row',
    hrow', ?_⟩
  rcases hr with rfl | ⟨hc, hto⟩
  · refine ⟨hs, hrun.imp_right fun hc => ?_⟩
    exact hc.trans (List.sublist_append_left marks more)
  · exact ⟨hto.ne_created hs, Or.inr (crossed_append hl hc)⟩

/-- A save over the run that was looked at: it succeeds, or a cancellation has crossed. -/
theorem save_looked_wp (run : Run) {changed : Run} {w : World} (hid : changed.runId = runId)
    (hrev : changed.revision = run.revision) (hs : changed.status.Settled)
    (hw : LookedAt runId since run w) :
    (Orchestrator.saveNoting (unrecorded runId) [] changed).wp (worker runId)
      (fun _ => Accounted runId since) (fun _ => Accounted runId since) w := by
  refine wp_saveNoting (worker_mild runId) ?_ ?_ ?_
  · intro w' hr
    exact ⟨Kept.of_noting w' _ _, accounted_unrecorded (lookedAt_stable w w' hr hw).begun⟩
  · intro w' s now hr hsave
    have hown : Own runId changed := by
      refine ⟨hid, fun hc => ?_⟩
      rw [hc] at hs
      exact absurd hs (by decide)
    obtain ⟨hk, -, hstopped⟩ :=
      Orchestrator.saved [] [] hown (lookedAt_stable w w' hr hw).begun.log hsave
    exact ⟨hk, (hstopped hs).accounted⟩
  · intro w' e hr hne
    obtain ⟨marks, hlog, -, row, hrow, -, hrun | hc⟩ := lookedAt_stable w w' hr hw
    · rw [hid] at hne
      exact absurd (by rw [hrun, hrev]) (hne row hrow)
    · exact ⟨marks, hlog, Or.inr fun hrec => hrec.not_crossed hc⟩

namespace Orchestrator

theorem giveUp_wp {current : Run} {e : Failure} {w : World} (hid : current.runId = runId)
    (hactive : current.status.Active) (hw : LookedAt runId since current w) :
    (giveUp self current e).wp (worker runId) (fun _ => Accounted runId since)
      (fun _ => Accounted runId since) w := by
  subst hid
  refine wp_bind (wp_question (worker_mild _) fun w₁ now hr₁ => ?_)
  have hto : (if e.blocks then RunStatus.blocked else .failed) ∈
      [RunStatus.failed, .blocked, .cancelled] := by
    split <;> decide
  rw [transition_of_active hactive hto]
  refine wp_bind (wp_ofExcept (fun moved hm => ?_) fun _ he => by cases he)
  obtain rfl := Except.ok.inj hm
  refine wp_bind (wp_mono (fun _ w₂ hw₂ => ?_) (fun _ _ h => h)
    (save_looked_wp current rfl rfl ?_ (lookedAt_stable w w₁ hr₁ hw)))
  · refine quiet_wp accounted_stable (appendEvent_within silent_lenient.toQuiet ?_) hw₂
    split <;> decide
  · show (if e.blocks then RunStatus.blocked else .failed).Settled
    split <;> decide

/-- The last look for a cancellation: there is none and the run is the one that was read, or the run
is settled, or it is known why not. -/
theorem lastLook_wp {current : Run} {w : World} (hw : Begun runId since w)
    (hrow : w.runs.row runId = some current) (hwaiting : current.status ≠ .waitingUser) :
    (self.cancelIfRequestedNoting (unrecorded runId) [.looked runId] current).wp (worker runId)
      (fun found w => (found = none → LookedAt runId since current w) ∧
        (found ≠ none → Accounted runId since w))
      (fun _ => Accounted runId since) w := by
  have hid : current.runId = runId := Store.row_runId hrow
  unfold cancelIfRequestedNoting
  rw [hid]
  refine wp_bind (wp_getNoting (worker_mild runId) ?_ ?_ ?_)
  · exact fun w' hr =>
      ⟨Kept.of_noting w' _ _, accounted_unrecorded (begun_stable runId since w w' hr hw)⟩
  · intro w₁ latest hr₁ hlatest
    refine ⟨Kept.of_noting w₁ _ _, ?_⟩
    obtain ⟨marks, hlog⟩ := (begun_stable runId since w w₁ hr₁ hw).log
    obtain ⟨row, hrow₁, hcreated⟩ := (begun_stable runId since w w₁ hr₁ hw).row
    obtain rfl := Option.some.inj (hlatest.symm.trans hrow₁)
    have hlooked : LookedAt runId since latest (w₁.noting [.looked runId] []) :=
      ⟨marks ++ [.looked runId], by rw [← List.append_assoc, hlog]; rfl, by simp, latest, hlatest,
        hcreated, Or.inl rfl⟩
    show (if _ then _ else _ : Prog (Option Run)).wp _ _ _ _
    split
    · next hnot =>
      -- A cancellation since the run was read would have left its request.
      have hsame : latest = current := by
        obtain ⟨_, -, -, hstep⟩ := hr₁.step
        obtain ⟨row', hrow', he | ⟨-, hto⟩⟩ := hstep current hrow
        · exact (Option.some.inj (hlatest.symm.trans hrow')).trans he
        · obtain rfl := Option.some.inj (hlatest.symm.trans hrow')
          rcases hto.2 with ⟨-, hreq⟩ | ⟨hw', -⟩
          · exact absurd hreq (by simpa using hnot)
          · exact absurd hw' hwaiting
      rw [hsame] at hlooked
      exact ⟨fun _ => hlooked, fun h => absurd rfl h⟩
    · split
      · next hterminal =>
        exact ⟨nofun, fun _ => Stopped.accounted ⟨hlooked.begun, latest, hlatest,
          hterminal⟩⟩
      · next hopen =>
        have hactive : latest.status.Active := by
          rcases latest.status.created_or_active_or_settled with hc | ha | hs
          · exact absurd hc hcreated
          · exact ha
          · exact absurd hs hopen
        refine wp_bind (wp_question (worker_mild runId) fun w₂ now hr₂ => ?_)
        unfold saveMovedNoting
        rw [transition_of_active hactive (by decide)]
        refine wp_bind (wp_mono (fun cancelled w₃ hw₃ => ?_) (fun _ _ h => h)
          (save_looked_wp latest ?_ rfl ?_ (lookedAt_stable _ w₂ hr₂ hlooked)))
        · refine wp_bind (wp_mono (fun _ w₄ hw₄ => ?_) (fun _ _ h => h)
            (quiet_wp accounted_stable (appendEvent_within silent_lenient.toQuiet (by decide)) hw₃))
          exact ⟨nofun, fun _ => hw₄⟩
        · show latest.runId = runId
          exact Store.row_runId hlatest
        · show RunStatus.cancelled.Settled
          decide
  · intro w' hr hnone
    obtain ⟨row, hrow', -⟩ := (begun_stable runId since w w' hr hw).row
    rw [hnone] at hrow'
    cases hrow'

/-- The failure of an attempt is recorded, or it is known why not. -/
theorem handleFailure_wp {e : Failure} {w : World} (hw : Begun runId since w) :
    (handleFailure self runId e).wp (worker runId) (fun _ => Accounted runId since)
      (fun _ => Accounted runId since) w := by
  refine wp_bind (wp_getNoting (worker_mild runId) ?_ ?_ ?_)
  · exact fun w' hr =>
      ⟨Kept.of_noting w' _ _, accounted_unrecorded (begun_stable runId since w w' hr hw)⟩
  · intro w₁ current hr₁ hrow
    have hb : Begun runId since (w₁.noting [] []) :=
      (begun_stable runId since w w₁ hr₁ hw).noting [] []
    have hacc : current.status.Settled → Accounted runId since (w₁.noting [] []) :=
      fun hs => Stopped.accounted ⟨hb, current, hrow, hs⟩
    refine ⟨Kept.of_noting w₁ _ _, ?_⟩
    show (if _ then _ else _ : Prog Unit).wp _ _ _ _
    split
    · next hcompleted =>
      refine quiet_wp accounted_stable (recoverCompletions_within silent_lenient) (hacc ?_)
      rw [hcompleted]
      decide
    · split
      · next hwaiting =>
        refine quiet_wp accounted_stable (recoverClarifications_within silent_lenient.toQuiet) (hacc ?_)
        rw [hwaiting]
        decide
      · next hwaiting =>
        refine wp_bind (wp_mono (fun found w₂ hw₂ => ?_) (fun _ _ h => h)
          (lastLook_wp hb hrow hwaiting))
        cases found with
        | some run => exact hw₂.2 (by simp)
        | none =>
          have hlooked : LookedAt runId since current w₂ := hw₂.1 rfl
          show (if _ then _ else _ : Prog Unit).wp _ _ _ _
          split
          · next hterminal =>
            obtain ⟨marks, hlog, -, row, hrow₂, -, rfl | hc⟩ := hlooked
            · exact ⟨marks, hlog, Or.inl ⟨row, hrow₂, hterminal⟩⟩
            · exact ⟨marks, hlog, Or.inr fun hrec => hrec.not_crossed hc⟩
          · next hopen =>
            refine giveUp_wp (Store.row_runId hrow) ?_ hlooked
            obtain ⟨row, hrow₁, hcreated⟩ := hb.row
            obtain rfl := Option.some.inj (hrow.symm.trans hrow₁)
            rcases current.status.created_or_active_or_settled with hc | ha | hs
            · exact absurd hc hcreated
            · exact ha
            · exact absurd hs hopen
  · intro w' hr hnone
    obtain ⟨row, hrow', -⟩ := (begun_stable runId since w w' hr hw).row
    rw [hnone] at hrow'
    cases hrow'

end Orchestrator

/-! ## Executing a run -/

/-- The worker has not won the run yet. -/
def Unwon (runId : String) (since : List Mark) (w : World) : Prop :=
  ∃ marks, w.log = since ++ marks ∧ .attempted runId ∉ marks

theorem unwon_stable : Stable runId (Unwon runId since) := by
  intro w w' h hw
  obtain ⟨marks, hlog, hm⟩ := hw
  obtain ⟨more, hmore, honly, -⟩ := h.step
  refine ⟨marks ++ more, by rw [hmore, hlog, List.append_assoc], fun hmem => ?_⟩
  rcases List.mem_append.mp hmem with hmem | hmem
  · exact hm hmem
  · cases honly _ hmem rfl

/-- How an execution ends: the run was not won, or it is accounted for. -/
def Executed (runId : String) (since : List Mark) (w : World) : Prop :=
  Unwon runId since w ∨ Accounted runId since w

theorem executed_stable : Stable runId (Executed runId since) :=
  fun w w' h hw => hw.imp (unwon_stable w w' h) (accounted_stable w w' h)

namespace Orchestrator

/-- An event of the run that must not be missing. -/
theorem appendEventNoting_wp {eventType : RunEventType} {payload : List (String × Infra.Json)}
    {w : World} (hw : Begun runId since w) :
    (self.appendEventNoting (unrecorded runId) runId eventType payload).wp (worker runId)
      (fun _ => Begun runId since) (fun _ => Accounted runId since) w := by
  refine wp_bind (wp_question (worker_mild runId) fun w₁ now hr₁ => ?_)
  have hw₁ : Begun runId since w₁ := begun_stable runId since w w₁ hr₁ hw
  refine wp_storeCallNoting (worker_mild runId) ?_ ?_ ?_
  · exact fun w₂ hr₂ =>
      ⟨Kept.of_noting w₂ _ _, accounted_unrecorded (begun_stable runId since w₁ w₂ hr₂ hw₁)⟩
  · intro w₂ w₃ a hr₂ htx
    obtain ⟨s, hs, rfl⟩ := onRuns_ok htx
    obtain ⟨rfl, -⟩ := Prod.mk.inj (Except.ok.inj hs)
    have hw₂ : Begun runId since w₂ := begun_stable runId since w₁ w₂ hr₂ hw₁
    exact ⟨Kept.of_runs rfl (List.prefix_refl _), hw₂.log, hw₂.row⟩
  · intro w₂ e hr₂ htx
    cases htx

theorem runAttempt_wp {run : Run} {previous : Option String} {w : World} (hown : Own runId run)
    (hactive : run.status.Active) (hw : Begun runId since w) :
    (runAttempt self run previous).wp (worker runId) (fun _ => Accounted runId since)
      (fun _ => Accounted runId since) w := by
  obtain rfl := hown.runId_eq
  refine wp_bind (wp_mono (fun _ w₁ hw₁ => ?_) (fun _ _ h => h) (appendEventNoting_wp hw))
  -- An attempt that fails leaves the run begun, so that its failure can be handled.
  have hdrive : (drive self run previous).wp (worker run.runId)
      (fun _ w => Over run.runId since w ∧ Begun run.runId since w)
      (fun _ w => True ∧ Begun run.runId since w) w₁ :=
    wp_keep (begun_stable run.runId since) (fun _ _ h hb => hb.of_kept h)
      (drive_triple (begun_sound self run.runId since) hactive w₁ ⟨hw₁, hown⟩) hw₁
  refine wp_bind (wp_attempt (wp_mono ?_ ?_ hdrive))
  · exact fun _ w₂ h => h.1.accounted
  · exact fun e w₂ h => handleFailure_wp h.2

/-- The compare-and-swap: the run has begun, or nothing has happened. -/
theorem win_wp {run : Run} {w : World} (hid : run.runId = runId) (hs : Startable run)
    (hw : Unwon runId since w) :
    (win run).wp (worker runId)
      (fun won w => Begun runId since w ∧ Own runId won ∧ won.status.Active)
      (fun _ => Unwon runId since) w := by
  refine wp_bind (wp_ofExcept (fun moved hm => ?_) fun _ _ => hw)
  have he : Edit run (run.won moved) [.started run.runId] := .win hs hm
  have hstatus : (run.won moved).status = .contextualizing := by
    rw [(transition_ok hm).1]
    rfl
  have hown : Own runId (run.won moved) := ⟨he.runId.trans hid, by rw [hstatus]; decide⟩
  refine wp_saveNoting (worker_mild runId) ?_ ?_ ?_
  · intro w' hr
    refine ⟨Kept.of_noting w' _ _, ?_⟩
    rw [nothing, World.noting_nil]
    exact unwon_stable w w' hr hw
  · intro w' s now hr hs
    obtain ⟨marks, hlog, -⟩ := unwon_stable w w' hr hw
    obtain ⟨hk, hb, -⟩ := saved [.attempted run.runId] [.started run.runId] hown
      ⟨marks, hlog.symm⟩ hs
    refine ⟨hk, hb, ⟨hown.runId_eq, hown.ne_created⟩, ?_⟩
    show (run.won moved).status.Active
    rw [hstatus]
    decide
  · exact fun w' e hr _ => unwon_stable w w' hr hw

theorem execute_wp {w : World} (hw : Unwon runId since w) :
    (self.execute runId).wp (worker runId) (fun _ => Executed runId since)
      (fun _ => Executed runId since) w := by
  refine wp_bind (wp_getNoting (worker_mild runId) ?_ ?_ ?_)
  · intro w' hr
    refine ⟨Kept.of_noting w' _ _, Or.inl ?_⟩
    rw [nothing, World.noting_nil]
    exact unwon_stable w w' hr hw
  · intro w₁ run hr₁ hrow
    refine ⟨Kept.of_noting w₁ _ _, ?_⟩
    rw [idle, World.noting_nil]
    have hw₁ : Unwon runId since w₁ := unwon_stable w w₁ hr₁ hw
    refine wp_bind (wp_ofExcept (fun previous _ => ?_) fun _ _ => Or.inl hw₁)
    show (if _ then _ else _ : Prog Unit).wp _ _ _ _
    split
    · exact Or.inl hw₁
    · next hstartable =>
      refine wp_bind (wp_attempt (wp_mono (fun won w₂ h => ?_) (fun e w₂ h => ?_)
        (win_wp (Store.row_runId hrow) (not_not.mp hstartable) hw₁)))
      · exact wp_mono (fun _ _ h => Or.inr h) (fun _ _ h => Or.inr h)
          (runAttempt_wp h.2.1 h.2.2 h.1)
      · show (if _ then _ else _ : Prog Unit).wp _ _ _ _
        split
        · exact Or.inl h
        · exact Or.inl h
  · exact fun w' hr _ => Or.inl (unwon_stable w w' hr hw)

end Orchestrator

end Rules

/-! ## A worker among cancellations -/

variable {self : Orchestrator} {runId : String}

/-- Cancellations keep their discipline whatever else grows the rows. -/
def cancelDiscipline (self : Orchestrator) {env : World → World → Prop}
    (henv : ∀ w w', env w w' → Grown w w') : Pool.Discipline (IsCancel self) env where
  contract := canceller
  inv := fun _ => True
  refl := Grown.refl
  trans := fun _ _ _ => Grown.trans
  rely_of_guar := fun _ _ => Meddles.grown
  rely_of_env := henv
  keep := fun _ _ _ _ => trivial
  started := by
    rintro p w ⟨id, rfl⟩ -
    exact cancel_wp w

/-- What a worker and the cancellations expect of each other. -/
def agreement (self : Orchestrator) (runId : String) :
    Ensemble.Agreement (worker runId) (IsCancel self) (Elsewhere runId) where
  pool := cancelDiscipline self fun _ _ h => h.elim Elsewhere.grown Kept.grown
  refl := Disturbed.refl runId
  trans := fun _ _ _ => Disturbed.trans
  rely_of_env := fun _ _ => Elsewhere.disturbed
  rely_of_pool := fun _ _ h => h.disturbed runId

/-- **No run is abandoned**: a worker that has won the run and is done with it leaves it settled, in
every interleaving with cancellations, when nothing kept it from recording the outcome. Whatever
happened before, `cancel` calls that are still going on may be left from it. -/
theorem settled_of_recorded (self : Orchestrator) (runId : String) (w : World)
    (before : Pool World Answer Failure Run) (session : Ensemble World Answer Failure Unit Run)
    (hbefore : Pool.Reaches (IsCancel self) Grown ⟨[], w⟩ before)
    (hsession : Ensemble.Reaches (IsCancel self) (Elsewhere runId)
      ⟨self.execute runId, before⟩ session)
    (hended : session.main.Ended) (marks : List Mark)
    (hlog : session.state.log = before.state.log ++ marks) (hwon : .attempted runId ∈ marks)
    (hrecorded : Recorded runId marks) : session.state.SettledRun runId := by
  have hdisciplined : Pool.Disciplined (cancelDiscipline self fun _ _ h => h) before :=
    (hbefore.disciplined (Pool.disciplined_empty trivial)).1
  have hagreed : Ensemble.Agreed (agreement self runId) (fun _ => Executed runId before.state.log)
      (fun _ => Executed runId before.state.log) ⟨self.execute runId, before⟩ := by
    refine ⟨Orchestrator.execute_wp ⟨[], (List.append_nil _).symm, List.not_mem_nil⟩, ?_⟩
    exact ⟨trivial, hdisciplined.threads⟩
  have hexecuted : Executed runId before.state.log session.state :=
    Program.wp_ended (hsession.wp (agreement self runId) (fun _ => executed_stable)
      (fun _ => executed_stable) hagreed) hended
  rcases hexecuted with ⟨marks', hlog', hnot⟩ | ⟨marks', hlog', hsettled | hnot⟩
  · obtain rfl := List.append_cancel_left (hlog.symm.trans hlog')
    exact absurd hwon hnot
  · exact hsettled
  · obtain rfl := List.append_cancel_left (hlog.symm.trans hlog')
    exact absurd hrecorded hnot

/-! ## A cancellation that crosses -/

/-- A run has been created. -/
def queuedWorld : World :=
  (Pool.playAll ⟨[], sampleWorld⟩ [
    .spawn (discard (sampleOrchestrator.create "c" "销售额" 200 none)),
    sampleRun 0 "r" firstPrompt]).state

/-- The question cannot be resolved. -/
def unresolvedAnswers (q : Question) : Option (Answer q) :=
  match q with
  | .resolve _ _ _ => some (.error (.runtime "conversation_context_model_unavailable"))
  | q => sampleAnswers "-" firstPrompt q

/-- The worker asks the user back. -/
def waitingSession : Ensemble World Answer Failure Unit Run :=
  Ensemble.playAll ⟨sampleOrchestrator.execute "r", ⟨[], queuedWorld⟩⟩
    [.main 200 (sampleAnswers "-" firstPrompt)]

/-- The worker fails, looks whether it is to be cancelled, and is then cancelled. -/
def crossedSession : Ensemble World Answer Failure Unit Run :=
  Ensemble.playAll ⟨sampleOrchestrator.execute "r", ⟨[], queuedWorld⟩⟩
    [.main 21 unresolvedAnswers,
     .others (.spawn (sampleOrchestrator.cancel "r")), .others (.run 0 200 unresolvedAnswers),
     .main 200 unresolvedAnswers]

theorem waitingSession_settled :
    waitingSession.state.SettledRun "r" := by
  refine settled_of_recorded sampleOrchestrator "r" queuedWorld ⟨[], queuedWorld⟩ waitingSession .refl
    (Ensemble.playAll_reaches _ _ ?_) (by decide +kernel)
    [.attempted "r", .asked "r" "c" "销售额" [] "销售额"] (by decide +kernel) (by simp)
    (by decide)
  intro p hp
  simp only [List.mem_cons, List.not_mem_nil, or_false, reduceCtorEq] at hp

/-- The save of the failure is refused, and the run stays in progress without a worker. -/
theorem crossed_run_abandoned :
    Ensemble.Reaches (IsCancel sampleOrchestrator) (Elsewhere "r")
        ⟨sampleOrchestrator.execute "r", ⟨[], queuedWorld⟩⟩ crossedSession ∧
      crossedSession.main.Ended ∧
      crossedSession.state.log = queuedWorld.log ++
        [.attempted "r", .asked "r" "c" "销售额" [] "销售额", .looked "r", .cancelled "r"] ∧
      (crossedSession.state.runs.row "r").map Run.status = some .contextualizing ∧
      ¬ crossedSession.state.SettledRun "r" := by
  have hstatus : (crossedSession.state.runs.row "r").map Run.status = some .contextualizing := by
    decide +kernel
  refine ⟨Ensemble.playAll_reaches _ _ ?_, by decide +kernel, by decide +kernel, hstatus, ?_⟩
  · intro p hp
    simp only [List.mem_cons, Ensemble.Turn.others.injEq, Pool.Choice.spawn.injEq,
      List.not_mem_nil, or_false, reduceCtorEq, false_or] at hp
    exact ⟨"r", hp⟩
  · rintro ⟨run, hrow, hs⟩
    rw [hrow] at hstatus
    have hrun : run.status = .contextualizing := Option.some.inj hstatus
    rw [hrun] at hs
    exact absurd hs (by decide)

end Runtime
