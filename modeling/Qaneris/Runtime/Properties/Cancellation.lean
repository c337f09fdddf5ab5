import Qaneris.Runtime.Cancellation
import Qaneris.Runtime.Properties.Changes
import Qaneris.Runtime.Properties.Settled

/-!
# Cancellations that are final

Cancelling is a request that workers look for. Once it was made, the run begins no Ask invocation and is
not completed, unless the request came at one of the moments when it is not heeded.

* `final_of_timely` — in every interleaving of a worker with cancellations
* `requeued_run_completed` — a run that is completed although it was cancelled while it was queued
  again
-/

namespace Runtime

open Infra (Ensemble Pool Program)
open Infra.Program (Contract Triple Within attempt ofExcept atomic within_ask within_pure wp_contract
  wp_mono)
open Orchestrator (Startable)

/-! ## Moments of a history -/

section Histories

variable {runId : String} {acts more : List Act}

theorem Raced.append (h : Raced runId acts) (more : List Act) : Raced runId (acts ++ more) := by
  obtain ⟨before, -, hpre, hcommitted⟩ := h
  have hlonger : before ++ [.cancelled runId] <+: acts ++ more :=
    hpre.trans (List.prefix_append acts more)
  exact ⟨before, (List.mem_inits _ _).mpr ((List.prefix_append before _).trans hlonger), hlonger,
    hcommitted⟩

theorem Timely.of_append (h : Timely runId (acts ++ more)) : Timely runId acts where
  not_declined hm := h.not_declined (List.mem_append_left _ hm)
  not_raced hr := h.not_raced (hr.append more)
  not_overran hm := h.not_overran (List.mem_append_left _ hm)
  not_overlooked hm := h.not_overlooked (List.mem_append_left _ hm)

/-- What the others do with a run that a worker has. -/
def Passing (runId : String) (act : Act) : Prop :=
  act.runId = runId → act = .cancelled runId ∨ act = .declined runId ∨ act = .listed runId

theorem aboutToInvoke_passing {act : Act} (h : Passing runId act) (before : Bool) :
    aboutToInvoke runId before act = before := by
  have hcase : act.runId = runId ∨ act.runId ≠ runId := em _
  rcases hcase with hid | hid
  · rcases h hid with rfl | rfl | rfl <;> rfl
  · cases act <;> simp_all [aboutToInvoke, Act.runId]

theorem committed_append (h : ∀ act ∈ more, Passing runId act) :
    committed runId (acts ++ more) = committed runId acts := by
  unfold committed
  rw [List.foldl_append]
  generalize acts.foldl (aboutToInvoke runId) false = before
  induction more with
  | nil => rfl
  | cons act more ih =>
    rw [List.foldl_cons, aboutToInvoke_passing (h act List.mem_cons_self)]
    exact ih fun a ha => h a (List.mem_cons_of_mem _ ha)

/-- A cancellation that meets a worker about to invoke Ask. -/
theorem raced_append (hc : committed runId acts) (h : ∀ act ∈ more, Passing runId act)
    (hm : .cancelled runId ∈ more) : Raced runId (acts ++ more) := by
  obtain ⟨early, late, rfl⟩ := List.append_of_mem hm
  have hbefore : committed runId (acts ++ early) = committed runId acts :=
    committed_append fun act ha => h act (List.mem_append_left _ ha)
  have hpre : acts ++ early ++ [.cancelled runId] <+: acts ++ (early ++ .cancelled runId :: late) :=
    ⟨late, by simp⟩
  refine ⟨acts ++ early, (List.mem_inits _ _).mpr ((List.prefix_append _ _).trans hpre), hpre, ?_⟩
  rw [hbefore]
  exact hc

end Histories

/-! ## Requests -/

/-- There is a request to cancel the run, or it is cancelled. -/
def Halted (run : Run) : Prop :=
  run.cancelRequested = true ∨ run.status = .cancelled

/-- Once a `cancel` call has changed the run, its row says so. -/
def Heeded (runId : String) (w : World) : Prop :=
  .cancelled runId ∈ w.acts → ∃ run, w.runs.row runId = some run ∧ Halted run

theorem CancelledTo.halted {run run' : Run} (h : CancelledTo run run') : Halted run' := by
  rcases h.2 with ⟨-, hr⟩ | ⟨-, hc⟩
  · exact Or.inl hr
  · exact Or.inr hc

namespace Edit

variable {run changed : Run} {acts : List Act}

theorem acts_runId (h : Edit run changed acts) : ∀ act ∈ acts, act.runId = run.runId := by
  cases h <;> simp [Act.runId]

theorem halted (h : Edit run changed acts) (hr : Halted run) : Halted changed :=
  Or.inl (h.requested (hr.resolve_right h.ne_cancelled))

theorem halted_of_cancels {runId : String} (h : Edit run changed acts)
    (hcancelled : .cancelled runId ∈ acts) : Halted changed := by
  have hid : runId = run.runId := h.acts_runId _ hcancelled
  subst hid
  cases h with
  | withdraw hs hm now =>
    obtain ⟨rfl, -⟩ := transition_ok hm
    exact Or.inr rfl
  | request => exact Or.inl rfl
  | win | annotate | advance | stop | wait | complete | block | fail | resume | requeue =>
    simp at hcancelled

end Edit

theorem Change.heeded {runId : String} {w w' : World} (h : Change w w') (hw : Heeded runId w) :
    Heeded runId w' := by
  intro hm
  cases h with
  | aside h =>
    obtain ⟨more, hacts, hminor⟩ := h.acts
    rw [hacts] at hm
    rw [h.row]
    rcases List.mem_append.mp hm with hm | hm
    · exact hw hm
    · exact (hminor _ hm).elim
  | @edits run changed now acts hedit hreplaced hacts =>
    rw [hacts] at hm
    by_cases hid : runId = run.runId
    · subst hid
      refine ⟨_, hreplaced.row', ?_⟩
      show Halted changed
      rcases List.mem_append.mp hm with hm | hm
      · obtain ⟨row, hrow, hhalted⟩ := hw hm
        obtain rfl := Option.some.inj (hreplaced.row.symm.trans hrow)
        exact hedit.halted hhalted
      · exact hedit.halted_of_cancels hm
    · rw [hreplaced.other runId hid]
      rcases List.mem_append.mp hm with hm | hm
      · exact hw hm
      · exact absurd (hedit.acts_runId _ hm) hid
  | creates hnew hfresh hruns hacts =>
    rw [hacts] at hm
    rcases List.mem_append.mp hm with hm | hm
    · obtain ⟨row, hrow, hhalted⟩ := hw hm
      refine ⟨row, ?_, hhalted⟩
      rw [Store.row_append hruns, hrow, Option.some_or]
    · simp at hm

/-! ## What the others do -/

/-- What a worker of the run has to expect of a step of the others. -/
structure Hindered (runId : String) (w w' : World) : Prop where
  grown : Grown w w'
  step : ∃ more, w'.acts = w.acts ++ more ∧ (∀ act ∈ more, Passing runId act) ∧
    (w'.runs.row runId = w.runs.row runId ∧ .cancelled runId ∉ more ∨
      ∃ run run', w.runs.row runId = some run ∧ w'.runs.row runId = some run' ∧
        CancelledTo run run' ∧ (run.cancelRequested = true → run'.cancelRequested = true))

theorem Hindered.of_same {runId : String} {w w' : World} (hgrown : Grown w w')
    (hacts : w'.acts = w.acts) (hrow : w'.runs.row runId = w.runs.row runId) :
    Hindered runId w w' :=
  ⟨hgrown, [], by rw [hacts, List.append_nil], by simp, Or.inl ⟨hrow, List.not_mem_nil⟩⟩

theorem Hindered.refl (runId : String) (w : World) : Hindered runId w w :=
  .of_same (.refl w) rfl rfl

theorem Hindered.trans {runId : String} {a b d : World} (hab : Hindered runId a b)
    (hbd : Hindered runId b d) : Hindered runId a d := by
  obtain ⟨more₁, hacts₁, hpass₁, hrow₁⟩ := hab.step
  obtain ⟨more₂, hacts₂, hpass₂, hrow₂⟩ := hbd.step
  refine ⟨hab.grown.trans hbd.grown, more₁ ++ more₂, by rw [hacts₂, hacts₁, List.append_assoc],
    ?_, ?_⟩
  · intro act ha
    rcases List.mem_append.mp ha with ha | ha
    · exact hpass₁ act ha
    · exact hpass₂ act ha
  · rcases hrow₁ with ⟨hsame₁, hnot₁⟩ | ⟨run, run₁, hrun, hrun₁, hc₁, hr₁⟩
    · rcases hrow₂ with ⟨hsame₂, hnot₂⟩ | ⟨run, run₂, hrun, hrun₂, hc₂, hr₂⟩
      · refine Or.inl ⟨hsame₂.trans hsame₁, fun hm => ?_⟩
        rcases List.mem_append.mp hm with hm | hm
        · exact hnot₁ hm
        · exact hnot₂ hm
      · exact Or.inr ⟨run, run₂, hsame₁.symm.trans hrun, hrun₂, hc₂, hr₂⟩
    · rcases hrow₂ with ⟨hsame₂, -⟩ | ⟨run', run₂, hrun', hrun₂, hc₂, hr₂⟩
      · exact Or.inr ⟨run, run₁, hrun, hsame₂.trans hrun₁, hc₁, hr₁⟩
      · obtain rfl := Option.some.inj (hrun₁.symm.trans hrun')
        exact Or.inr ⟨run, run₂, hrun, hrun₂, hc₁.trans hc₂, fun hr => hr₂ (hr₁ hr)⟩

theorem Apart.hindered {runId : String} {w w' : World} (h : Apart runId w w') :
    Hindered runId w w' := by
  obtain ⟨more, hacts, hmore⟩ := h.acts
  refine ⟨h.grown, more, hacts, fun act ha hid => Or.inr (Or.inr (hmore act ha hid)),
    Or.inl ⟨h.row, fun hm => ?_⟩⟩
  cases hmore _ hm rfl

theorem Meddles.hindered {w w' : World} (h : Meddles w w') (runId : String) :
    Hindered runId w w' := by
  refine ⟨h.grown, ?_⟩
  cases h with
  | aside hruns _ hacts =>
    have hrow : w'.runs.row runId = w.runs.row runId := by
      unfold Store.row
      rw [hruns]
    rcases hacts with hacts | ⟨id, hacts⟩
    · exact ⟨[], by rw [hacts, List.append_nil], by simp, Or.inl ⟨hrow, List.not_mem_nil⟩⟩
    · refine ⟨_, hacts, ?_, Or.inl ⟨hrow, ?_⟩⟩
      · intro act ha hid
        unfold Orchestrator.declined at ha
        split at ha
        · obtain rfl := List.mem_singleton.mp ha
          exact Or.inr (Or.inl (congrArg Act.declined hid))
        · cases ha
      · unfold Orchestrator.declined
        split <;> simp
  | @cancels run changed now hedit hreplaced _ hacts =>
    refine ⟨_, hacts, ?_, ?_⟩
    · intro act ha hid
      obtain rfl := List.mem_singleton.mp ha
      exact Or.inl (congrArg Act.cancelled hid)
    · by_cases hid : runId = run.runId
      · subst hid
        exact Or.inr ⟨run, _, hreplaced.row, hreplaced.row', hedit.cancelledTo, hedit.requested⟩
      · refine Or.inl ⟨hreplaced.other runId hid, fun hm => hid ?_⟩
        exact Act.cancelled.inj (List.mem_singleton.mp hm)

theorem Hindered.heeded {runId : String} {w w' : World} (h : Hindered runId w w')
    (hw : Heeded runId w) : Heeded runId w' := by
  obtain ⟨more, hacts, -, hrow⟩ := h.step
  intro hm
  rcases hrow with ⟨hsame, hnot⟩ | ⟨run, run', -, hrun', hc, -⟩
  · rw [hacts] at hm
    rw [hsame]
    exact hw ((List.mem_append.mp hm).resolve_right hnot)
  · exact ⟨run', hrun', hc.halted⟩

/-! ## What a worker does -/

/-- A step of a worker that heeds cancellations: the run only proceeds when there was none. -/
structure Heeds (runId : String) (w w' : World) : Prop where
  change : Change w w'
  acts : ∃ more, w'.acts = w.acts ++ more ∧ ∀ act ∈ more, Proceeds runId act →
    more = [act] ∧ (Timely runId w.acts → .cancelled runId ∉ w.acts)

/-- Nothing is added to the history but what the recoveries read. -/
structure Listing (w w' : World) : Prop where
  runs : w'.runs.runs = w.runs.runs
  acts : ∃ more, w'.acts = w.acts ++ more ∧ ∀ act ∈ more, ∃ runId, act = .listed runId

theorem Listing.of_same {w w' : World} (hruns : w'.runs.runs = w.runs.runs)
    (hacts : w'.acts = w.acts) : Listing w w' :=
  ⟨hruns, [], by rw [hacts, List.append_nil], by simp⟩

theorem listing_lenient : Lenient Listing where
  refl _ := .of_same rfl rfl
  event _ _ _ _ _ _ := .of_same rfl rfl
  message _ _ _ := .of_same rfl rfl
  federation _ _ := .of_same rfl rfl
  diagnostics _ _ := .of_same rfl rfl
  announce _ _ _ _ := .of_same rfl rfl
  remember _ _ _ _ _ _ := .of_same rfl rfl
  list w := by
    refine ⟨rfl, Orchestrator.listed w, rfl, fun act ha => ?_⟩
    obtain ⟨run, -, rfl⟩ := List.mem_map.mp ha
    exact ⟨run.runId, rfl⟩

section Worker

variable {runId : String} {w w' : World}

theorem Heeds.of_aside (h : Aside w w')
    (hacts : ∃ more, w'.acts = w.acts ++ more ∧ ∀ act ∈ more, ¬ Proceeds runId act) :
    Heeds runId w w' := by
  obtain ⟨more, hacts, hmore⟩ := hacts
  exact ⟨.aside h, more, hacts, fun act ha hp => absurd hp (hmore act ha)⟩

theorem Listing.heeds (h : Listing w w') : Heeds runId w w' := by
  obtain ⟨more, hacts, hmore⟩ := h.acts
  refine .of_aside ⟨h.runs, more, hacts, ?_⟩ ⟨more, hacts, ?_⟩
  · intro act ha
    obtain ⟨id, rfl⟩ := hmore act ha
    trivial
  · intro act ha hp
    obtain ⟨id, rfl⟩ := hmore act ha
    exact hp

theorem Heeds.noting {acts : List Act} (marks : List Mark) (hminor : ∀ act ∈ acts, act.Minor)
    (hnot : ∀ act ∈ acts, ¬ Proceeds runId act) : Heeds runId w (w.noting marks acts) :=
  .of_aside (.noting w marks hminor) ⟨acts, rfl, hnot⟩

/-- A worker counts on what the others do, and heeds their cancellations. -/
def heedful (runId : String) : Contract World Question where
  rely := Hindered runId
  guar := Heeds runId

theorem heedful_mild (runId : String) : Mild (heedful runId) where
  rely_refl := Hindered.refl runId
  rely_trans _ _ _ := Hindered.trans
  guar_refl w := by
    refine .of_aside (.refl w) ⟨[], (List.append_nil _).symm, ?_⟩
    simp
  may _ _ := trivial

theorem heeds_noting (w : World) (marks : List Mark) : Heeds runId w (w.noting marks []) :=
  .noting marks minor_nil (by simp)

/-! ## Where a worker is -/

/-- A worker that goes on with the run would find a request to cancel it. -/
def Live (run : Run) : Prop :=
  run.cancelRequested = true ∨ run.status ≠ .waitingUser ∧ run.status ≠ .cancelled

/-- The worker goes on with the run. -/
structure Going (runId : String) (w : World) : Prop where
  heeded : Heeded runId w
  live : Timely runId w.acts → ∃ run, w.runs.row runId = some run ∧ Live run

/-- The worker is about to begin an Ask invocation. -/
structure Ready (runId : String) (w : World) : Prop extends Going runId w where
  uncancelled : Timely runId w.acts → .cancelled runId ∉ w.acts ∧ committed runId w.acts

/-- The worker has a copy of its run; a request that is in the copy is in the row as well. -/
structure Copy (runId : String) (run : Run) (w : World) : Prop where
  named : run.runId = runId
  held : Held run w
  requested : run.cancelRequested = true →
    ∃ row, w.runs.row runId = some row ∧ row.cancelRequested = true

/-- There is no request in the copy. -/
structure Clean (runId : String) (run : Run) (w : World) : Prop extends Copy runId run w where
  unrequested : Timely runId w.acts → run.cancelRequested = false

theorem Hindered.timely (h : Hindered runId w w') (ht : Timely runId w'.acts) :
    Timely runId w.acts := by
  obtain ⟨more, hacts, -, -⟩ := h.step
  rw [hacts] at ht
  exact ht.of_append

theorem Heeds.timely (h : Heeds runId w w') (ht : Timely runId w'.acts) : Timely runId w.acts := by
  obtain ⟨more, hacts, -⟩ := h.acts
  rw [hacts] at ht
  exact ht.of_append

theorem Going.hindered (h : Hindered runId w w') (hw : Going runId w) : Going runId w' := by
  refine ⟨h.heeded hw.heeded, fun ht => ?_⟩
  obtain ⟨run, hrun, hlive⟩ := hw.live (h.timely ht)
  obtain ⟨more, -, -, hrow⟩ := h.step
  rcases hrow with ⟨hsame, -⟩ | ⟨old, run', hold, hrun', hc, hr⟩
  · exact ⟨run, hsame.trans hrun, hlive⟩
  · obtain rfl := Option.some.inj (hrun.symm.trans hold)
    refine ⟨run', hrun', Or.inl ?_⟩
    rcases hlive with hrequested | ⟨hwaiting, -⟩
    · exact hr hrequested
    · rcases hc.2 with ⟨-, hrequested⟩ | ⟨hwaits, -⟩
      · exact hrequested
      · exact absurd hwaits hwaiting

/-- A step of the worker that leaves its row alone. -/
theorem Going.same_row (h : Heeds runId w w') (hrow : w'.runs.row runId = w.runs.row runId)
    (hw : Going runId w) : Going runId w' := by
  refine ⟨h.change.heeded hw.heeded, fun ht => ?_⟩
  rw [hrow]
  exact hw.live (h.timely ht)

theorem Going.listing (h : Listing w w') (hw : Going runId w) : Going runId w' := by
  refine hw.same_row h.heeds ?_
  unfold Store.row
  rw [h.runs]

theorem Ready.hindered (h : Hindered runId w w') (hw : Ready runId w) : Ready runId w' := by
  refine ⟨hw.toGoing.hindered h, fun ht => ?_⟩
  obtain ⟨hnot, hcommitted⟩ := hw.uncancelled (h.timely ht)
  obtain ⟨more, hacts, hpass, -⟩ := h.step
  rw [hacts] at ht ⊢
  refine ⟨fun hm => ?_, ?_⟩
  · rcases List.mem_append.mp hm with hm | hm
    · exact hnot hm
    · exact ht.not_raced (raced_append hcommitted hpass hm)
  · rw [committed_append hpass]
    exact hcommitted

/-- A request in a row stays. -/
theorem Hindered.requested (h : Hindered runId w w')
    (hw : ∃ row, w.runs.row runId = some row ∧ row.cancelRequested = true) :
    ∃ row, w'.runs.row runId = some row ∧ row.cancelRequested = true := by
  obtain ⟨row, hrow, hr⟩ := hw
  obtain ⟨more, -, -, hrows⟩ := h.step
  rcases hrows with ⟨hsame, -⟩ | ⟨run, run', hrun, hrun', -, hr'⟩
  · exact ⟨row, hsame.trans hrow, hr⟩
  · obtain rfl := Option.some.inj (hrow.symm.trans hrun)
    exact ⟨run', hrun', hr' hr⟩

theorem Change.requested (h : Change w w')
    (hw : ∃ row, w.runs.row runId = some row ∧ row.cancelRequested = true) :
    ∃ row, w'.runs.row runId = some row ∧ row.cancelRequested = true := by
  obtain ⟨row, hrow, hr⟩ := hw
  cases h with
  | aside h => exact ⟨row, (h.row runId).trans hrow, hr⟩
  | @edits run changed now acts hedit hreplaced _ =>
    by_cases hid : runId = run.runId
    · subst hid
      obtain rfl := Option.some.inj (hreplaced.row.symm.trans hrow)
      exact ⟨_, hreplaced.row', hedit.requested hr⟩
    · exact ⟨row, (hreplaced.other runId hid).trans hrow, hr⟩
  | creates _ _ hruns _ =>
    refine ⟨row, ?_, hr⟩
    rw [Store.row_append hruns, hrow, Option.some_or]

theorem Copy.hindered {run : Run} (h : Hindered runId w w') (hw : Copy runId run w) :
    Copy runId run w' :=
  ⟨hw.named, hw.held.of_grown h.grown, fun hr => h.requested (hw.requested hr)⟩

theorem Copy.heeds {run : Run} (h : Heeds runId w w') (hw : Copy runId run w) :
    Copy runId run w' :=
  ⟨hw.named, hw.held.of_grown h.change.grown, fun hr => h.change.requested (hw.requested hr)⟩

/-- A request that is not in the row is not in the copy. -/
theorem Copy.unrequested_of_row {run row : Run} (hw : Copy runId run w)
    (hrow : w.runs.row runId = some row) (hr : row.cancelRequested = false) :
    run.cancelRequested = false := by
  by_contra hrun
  obtain ⟨row', hrow', hr'⟩ := hw.requested (by simpa using hrun)
  obtain rfl := Option.some.inj (hrow.symm.trans hrow')
  rw [hr] at hr'
  cases hr'

/-- The copy that has just been read. -/
theorem Copy.of_row {run : Run} (h : w.runs.row runId = some run) : Copy runId run w := by
  have hid : run.runId = runId := Store.row_runId h
  refine ⟨hid, ⟨run, ?_, Or.inl rfl⟩, fun hr => ⟨run, h, hr⟩⟩
  rw [hid]
  exact h

/-- **A worker that holds a run without a request knows that it was not cancelled.** -/
theorem Going.not_cancelled {run : Run} (hw : Going runId w) (hrow : w.runs.row runId = some run)
    (hr : run.cancelRequested = false) (ht : Timely runId w.acts) : .cancelled runId ∉ w.acts := by
  intro hm
  obtain ⟨row, hrow', hhalted⟩ := hw.heeded hm
  obtain rfl := Option.some.inj (hrow.symm.trans hrow')
  obtain ⟨row', hrow', hlive⟩ := hw.live ht
  obtain rfl := Option.some.inj (hrow.symm.trans hrow')
  rcases hlive with hlive | ⟨-, hne⟩
  · rw [hr] at hlive
    cases hlive
  · rcases hhalted with hhalted | hhalted
    · rw [hr] at hhalted
      cases hhalted
    · exact hne hhalted

end Worker

/-! ## Checkpoints -/

section Rules

variable {runId : String} {self : Orchestrator} {inv : World → Prop}

/-- A run is read, and nothing but the history is changed. -/
theorem read_heedful {lost : World → List Mark} {seen : List Mark} {acts : World → List Act}
    (hinv : ∀ w w', Hindered runId w w' → inv w → inv w')
    (hminor : ∀ w, ∀ act ∈ acts w, act.Minor) (hnot : ∀ w, ∀ act ∈ acts w, ¬ Proceeds runId act) :
    Triple (heedful runId) inv (Orchestrator.getNoting lost seen runId acts) fun run w' =>
      ∃ w, inv w ∧ w.runs.row runId = some run ∧ w' = w.noting seen (acts w) ∧ Heeds runId w w' := by
  intro w hw
  refine wp_getNoting (heedful_mild runId) ?_ ?_ fun _ _ _ => trivial
  · exact fun w' _ => ⟨heeds_noting w' _, trivial⟩
  · intro w' run hr hrow
    have hheeds : Heeds runId w' (w'.noting seen (acts w')) := .noting seen (hminor w') (hnot w')
    exact ⟨hheeds, w', hinv w w' hr hw, hrow, rfl, hheeds⟩

/-- A run that is held is saved, and its row was the copy. -/
theorem save_heedful {lost : World → List Mark} {done : List Mark} {run changed : Run}
    {acts : List Act} (he : Edit run changed acts) (hid : run.runId = runId)
    (hinv : ∀ w w', Hindered runId w w' → inv w → inv w')
    (hheld : ∀ w, inv w → Held run w)
    (hacts : ∀ w, inv w → w.runs.row runId = some run → ∀ act ∈ acts, Proceeds runId act →
      acts = [act] ∧ (Timely runId w.acts → .cancelled runId ∉ w.acts)) :
    Triple (heedful runId) inv (Orchestrator.saveNoting lost done changed acts) fun saved w' =>
      ∃ w, inv w ∧ w'.acts = w.acts ++ acts ∧ w.runs.row runId = some run ∧
        w'.runs.row runId = some saved ∧ Saved changed saved ∧ Heeds runId w w' := by
  intro w hw
  refine wp_saveNoting (heedful_mild runId) ?_ ?_ fun _ _ _ _ => trivial
  · exact fun w' _ => ⟨heeds_noting w' _, trivial⟩
  · intro w' s now hr hs
    have hw' : inv w' := hinv w w' hr hw
    have hreplaced : Replaced run (Store.updated changed changed.revision now) w'
        ({ w' with runs := s }.noting done acts) := (hheld w' hw').replaced he hs
    have hrow : w'.runs.row runId = some run := by
      rw [← hid]
      exact hreplaced.row
    have hrow' : ({ w' with runs := s }.noting done acts).runs.row runId =
        some (Store.updated changed changed.revision now) := by
      rw [← hid]
      exact hreplaced.row'
    have hheeds : Heeds runId w' ({ w' with runs := s }.noting done acts) :=
      ⟨.edits he hreplaced rfl, acts, rfl, hacts w' hw' hrow⟩
    exact ⟨hheeds, w', hw', rfl, hrow, hrow', ⟨now, rfl⟩, hheeds⟩

theorem not_proceeds_nil : ∀ act ∈ ([] : List Act), ¬ Proceeds runId act := by
  intro act h
  cases h

/-- A program that only lists. -/
theorem listing_heedful {α : Type} {p : Prog α} (hp : Within Listing p)
    (hinv : ∀ w w', Hindered runId w w' → inv w → inv w')
    (hkeep : ∀ w w', Listing w w' → inv w → inv w') :
    Triple (heedful runId) inv p fun _ => inv :=
  hp.triple (fun _ _ h => h.heeds) (fun _ _ => trivial) hinv hkeep

theorem going_rely (w w' : World) (h : Hindered runId w w') (hw : Going runId w) :
    Going runId w' := hw.hindered h

theorem heeded_rely (w w' : World) (h : Hindered runId w w') (hw : Heeded runId w) :
    Heeded runId w' := h.heeded hw

theorem heeded_listing (w w' : World) (h : Listing w w') (hw : Heeded runId w) :
    Heeded runId w' := by
  have hheeds : Heeds runId w w' := h.heeds
  exact hheeds.change.heeded hw

/-- What a worker has while it looks for a request. -/
theorem looking_rely {run : Run} (w w' : World) (h : Hindered runId w w')
    (hw : Going runId w ∧ Copy runId run w) : Going runId w' ∧ Copy runId run w' :=
  ⟨hw.1.hindered h, hw.2.hindered h⟩

/-- A look for a request: there is none in the row, nor in the copy; or the worker stops. -/
theorem look_heedful {run : Run} {acts : World → List Act} {post : Option Run → World → Prop}
    (hid : run.runId = runId) (hminor : ∀ w, ∀ act ∈ acts w, act.Minor)
    (hnot : ∀ w, ∀ act ∈ acts w, ¬ Proceeds runId act)
    (hnone : ∀ w latest, Going runId w → Copy runId run w → w.runs.row runId = some latest →
      latest.cancelRequested = false → Heeds runId w (w.noting [] (acts w)) →
        post none (w.noting [] (acts w)))
    (hsome : ∀ found w, Heeded runId w → post (some found) w) :
    Triple (heedful runId) (fun w => Going runId w ∧ Copy runId run w)
      (self.cancelIfRequestedNoting nothing [] run acts) post := by
  unfold Orchestrator.cancelIfRequestedNoting
  rw [hid]
  refine (read_heedful looking_rely hminor hnot).bind fun latest => ?_
  show Triple _ _ (if _ then _ else _) _
  split
  · next hrequested =>
    refine Triple.pure ?_
    rintro w ⟨w', ⟨hgoing, hcopy⟩, hrow, rfl, hheeds⟩
    exact hnone w' latest hgoing hcopy hrow (by simpa using hrequested) hheeds
  · next hrequested =>
    split
    · refine Triple.pure ?_
      rintro w ⟨w', ⟨hgoing, -⟩, -, -, hheeds⟩
      exact hsome latest w (hheeds.change.heeded hgoing.heeded)
    · -- The run is cancelled, as its user asked.
      have hread : ∀ w, (∃ w', (Going runId w' ∧ Copy runId run w') ∧
          w'.runs.row runId = some latest ∧ w = w'.noting [] (acts w') ∧ Heeds runId w' w) →
          Heeded runId w ∧ Copy runId latest w := by
        rintro w ⟨w', ⟨hgoing, -⟩, hrow, rfl, hheeds⟩
        exact ⟨hheeds.change.heeded hgoing.heeded, Copy.of_row hrow⟩
      have hrely : ∀ w w', Hindered runId w w' → Heeded runId w ∧ Copy runId latest w →
          Heeded runId w' ∧ Copy runId latest w' :=
        fun w w' h hw => ⟨h.heeded hw.1, hw.2.hindered h⟩
      have hclock : Triple (heedful runId) (fun w => Heeded runId w ∧ Copy runId latest w)
          (ask .clock) fun _ w => Heeded runId w ∧ Copy runId latest w :=
        listing_heedful within_ask hrely fun w w' h hw =>
          ⟨heeded_listing w w' h hw.1, hw.2.heeds h.heeds⟩
      refine Triple.bind (hclock.conseq hread fun _ _ h => h) fun now => ?_
      refine Triple.bind (m := fun _ => Heeded runId) ?_ fun cancelled => ?_
      · refine Triple.bind (m := fun moved w => (Heeded runId w ∧ Copy runId latest w) ∧
          latest.runId = runId ∧ transition latest .cancelled = .ok moved)
          (Triple.ofExcept fun moved w hm hw => ⟨hw, hw.2.named, hm⟩) fun moved =>
          Triple.assuming fun hm => ?_
        refine (save_heedful (.stop (by simpa using hrequested) hm.2 now) hm.1 hrely
          (fun _ h => h.2.held) fun _ _ _ act ha => absurd ha List.not_mem_nil).conseq
          (fun _ h => h) ?_
        rintro saved w ⟨w', hw', -, -, -, -, hheeds⟩
        exact hheeds.change.heeded hw'.1
      · refine Triple.bind (listing_heedful
          (appendEvent_within listing_lenient.toQuiet (by decide)) heeded_rely
          heeded_listing) fun _ => ?_
        exact Triple.pure fun w hw => hsome cancelled w hw

/-- A save that the run does not proceed by leaves a stopped worker. -/
theorem stop_heedful {pre : World → Prop} {run changed : Run} {acts : List Act}
    (he : Edit run changed acts) (hpre : ∀ w, pre w → Going runId w ∧ Copy runId run w)
    (hacts : ∀ act ∈ acts, ¬ Proceeds runId act) :
    Triple (heedful runId) pre (Orchestrator.saveNoting nothing [] changed acts)
      fun _ => Heeded runId := by
  intro w hw
  refine wp_mono ?_ (fun _ _ h => h) (save_heedful he (hpre w hw).2.named looking_rely
    (fun _ h => h.2.held) (fun _ _ _ act ha hp => absurd hp (hacts act ha)) w (hpre w hw))
  rintro saved w' ⟨w₁, hw₁, -, -, -, -, hheeds⟩
  exact hheeds.change.heeded hw₁.1.heeded

theorem not_proceeds_overran (w : World) :
    ∀ act ∈ Orchestrator.overran runId w, ¬ Proceeds runId act := by
  unfold Orchestrator.overran
  split <;> simp [Proceeds]

theorem not_proceeds_overlooked (w : World) :
    ∀ act ∈ Orchestrator.overlooked runId w, ¬ Proceeds runId act := by
  unfold Orchestrator.overlooked
  split <;> simp [Proceeds]

theorem not_proceeds_cleared (id : String) (w : World) :
    ∀ act ∈ Orchestrator.cleared id w, ¬ Proceeds runId act := by
  unfold Orchestrator.cleared
  split <;> simp [Proceeds]

/-! ## A worker that heeds cancellations -/

/-- Where a worker is while it drives its run. -/
def heedLogic (runId : String) : Logic where
  contract := heedful runId
  still := Listing
  going := Going runId
  ready := Ready runId
  paused := Heeded runId
  stopped := Heeded runId
  ended := Heeded runId
  copy := Copy runId
  clean := Clean runId

open Orchestrator in
theorem heed_sound (self : Orchestrator) (runId : String) :
    (heedLogic runId).Sound self runId where
  mild := heedful_mild runId
  lenient := listing_lenient
  guar _ _ h := h.heeds
  going := ⟨going_rely, fun _ _ h hw => hw.listing h⟩
  stopped := ⟨heeded_rely, heeded_listing⟩
  clean run := ⟨fun _ _ h hw => ⟨hw.toCopy.hindered h, fun ht => hw.unrequested (h.timely ht)⟩,
    fun _ _ h hw => ⟨hw.toCopy.heeds h, fun ht => hw.unrequested (h.timely ht)⟩⟩
  named _ _ h := h.named
  copy_of_clean _ _ h := h.toCopy
  paused_of_going _ h := h.heeded
  paused_of_stopped _ h := h
  ended_of_stopped _ h := h
  get := by
    refine (read_heedful going_rely minor_idle fun _ => not_proceeds_nil).conseq (fun _ h => h) ?_
    rintro run w ⟨w', hw', hrow, rfl, hheeds⟩
    exact ⟨hw'.same_row hheeds rfl, Copy.of_row hrow⟩
  reread := by
    refine (read_heedful heeded_rely (minor_overran runId) not_proceeds_overran).conseq
      (fun _ h => h) ?_
    rintro run w ⟨w', hw', hrow, rfl, hheeds⟩
    have hheeded : Heeded runId (w'.noting [] (overran runId w')) := hheeds.change.heeded hw'
    refine ⟨fun _ => hheeded, fun hwaiting => ⟨hheeded, fun ht => ⟨run, hrow, ?_⟩⟩⟩
    by_cases hr : run.cancelRequested = true
    · exact Or.inl hr
    · refine Or.inr ⟨hwaiting, fun hc => ht.not_overran ?_⟩
      simp [World.noting, overran, hrow, hc, hr]
  reopen := by
    refine (read_heedful going_rely (minor_overlooked runId) not_proceeds_overlooked).conseq
      (fun _ h => h) ?_
    rintro run w ⟨w', hw', hrow, rfl, hheeds⟩
    refine ⟨hw'.same_row hheeds rfl, Copy.of_row hrow, fun ht => ?_⟩
    by_contra hr
    refine ht.not_overlooked ?_
    simp [World.noting, overlooked, hrow, (by simpa using hr : run.cancelRequested = true)]
  poll run := by
    refine Triple.knowing (fun w hw => hw.2.named) fun hid => ?_
    refine look_heedful hid minor_idle (fun _ => not_proceeds_nil) ?_ ?_
    · intro w latest hgoing hcopy hrow hr hheeds
      refine ⟨fun _ => ⟨hgoing.same_row hheeds rfl, hcopy.heeds hheeds, fun _ => ?_⟩,
        fun h => absurd rfl h⟩
      exact hcopy.unrequested_of_row hrow hr
    · exact fun found w hw => ⟨fun h => (by cases h), fun _ => hw⟩
  clear run := by
    refine Triple.knowing (fun w hw => hw.2.named) fun hid => ?_
    subst hid
    refine look_heedful rfl (minor_cleared run.runId) (not_proceeds_cleared run.runId) ?_ ?_
    · intro w latest hgoing hcopy hrow hr hheeds
      have hcleared : cleared run.runId w = [.cleared run.runId] := by
        simp [cleared, hrow, hr]
      refine ⟨fun _ => ⟨⟨hgoing.same_row hheeds rfl, fun ht => ?_⟩, hcopy.heeds hheeds,
        fun _ => hcopy.unrequested_of_row hrow hr⟩, fun h => absurd rfl h⟩
      have hnot := hgoing.not_cancelled hrow hr (hheeds.timely ht)
      rw [World.noting, hcleared]
      refine ⟨by simpa using hnot, ?_⟩
      simp [committed, aboutToInvoke]
    · exact fun found w hw => ⟨fun h => (by cases h), fun _ => hw⟩
  save run changed he ha := by
    refine Triple.knowing (fun w hw => hw.2.named) fun hid => ?_
    refine (save_heedful he hid ?_ (fun w hw => hw.2.held) fun _ _ _ act h =>
      absurd h List.not_mem_nil).conseq (fun _ h => h) ?_
    · exact fun w w' h hw => ⟨hw.1.hindered h, hw.2.toCopy.hindered h,
        fun ht => hw.2.unrequested (h.timely ht)⟩
    · rintro saved w' ⟨w, hw, -, hrow, hrow', hsaved, hheeds⟩
      have hstatus : saved.status.Active := by
        rw [hsaved.status]
        exact ha
      refine ⟨⟨⟨hheeds.change.heeded hw.1.heeded, fun _ => ⟨saved, hrow', Or.inr ⟨?_, ?_⟩⟩⟩,
        Copy.of_row hrow', fun ht => ?_⟩, hsaved⟩
      · intro hc
        rw [hc] at hstatus
        revert hstatus
        decide
      · intro hc
        rw [hc] at hstatus
        revert hstatus
        decide
      · rw [hsaved.cancelRequested, he.cancelRequested (by simp)]
        exact hw.2.unrequested (hheeds.timely ht)
  wait run changed taskId he := stop_heedful he (fun _ h => h) (by simp [Proceeds])
  complete run changed he := by
    refine Triple.knowing (fun w hw => hw.2.named) fun hid => ?_
    refine (save_heedful he hid ?_ (fun w hw => hw.2.held) ?_).conseq (fun _ h => h) ?_
    · exact fun w w' h hw => ⟨hw.1.hindered h, hw.2.toCopy.hindered h,
        fun ht => hw.2.unrequested (h.timely ht)⟩
    · rintro w hw hrow act ha -
      obtain rfl := List.mem_singleton.mp ha
      exact ⟨rfl, fun ht => hw.1.not_cancelled hrow (hw.2.unrequested ht) ht⟩
    · rintro saved w' ⟨w, hw, -, -, -, -, hheeds⟩
      exact hheeds.change.heeded hw.1.heeded
  block run changed he _ := stop_heedful he (fun _ h => ⟨h.1, h.2.toCopy⟩) not_proceeds_nil
  invoke taskId request := by
    refine Triple.bind (m := fun _ => Going runId) ?_ fun _ =>
      listing_heedful within_ask going_rely fun _ _ h hw => hw.listing h
    refine Triple.atomic (heedful_mild runId).guar_refl fun w w' w'' a hw hr htx => ?_
    obtain ⟨rfl, -⟩ := Prod.mk.inj (Except.ok.inj htx)
    have hready : Ready runId w' := hw.hindered hr
    have hheeds : Heeds runId w' (w'.noting [] [.invoked runId taskId request.question]) := by
      refine ⟨.aside (.noting w' [] (minor_singleton trivial)), _, rfl, fun act ha _ => ?_⟩
      obtain rfl := List.mem_singleton.mp ha
      exact ⟨rfl, fun ht => (hready.uncancelled ht).1⟩
    exact ⟨hheeds, hready.toGoing.same_row hheeds rfl⟩
  passOver := by
    refine Triple.atomic (heedful_mild runId).guar_refl fun w w' w'' a hw hr htx => ?_
    obtain ⟨rfl, -⟩ := Prod.mk.inj (Except.ok.inj htx)
    have hheeds : Heeds runId w' _ := heeds_noting w' [.passedOver runId]
    exact ⟨hheeds, hheeds.change.heeded (hr.heeded hw.heeded)⟩
  messages run _ := by
    intro w hw
    refine wp_storeCallNoting (heedful_mild runId) ?_ ?_ fun _ _ _ _ => trivial
    · exact fun w' _ => ⟨heeds_noting w' _, trivial⟩
    · intro w' w'' a hr htx
      obtain ⟨rfl, -⟩ := Prod.mk.inj (Except.ok.inj htx)
      have hheeds : Heeds runId w' _ := heeds_noting w' (askedMarks run
        (w'.conversations.messagesOf self.safeValue run.conversationId))
      exact ⟨hheeds, (hw.hindered hr).same_row hheeds rfl⟩

end Rules

/-! ## Failures -/

/-- The step adds to the history, but nothing that `kind` excludes. -/
def Adds (kind : Act → Prop) (w w' : World) : Prop :=
  ∃ more, w'.acts = w.acts ++ more ∧ ∀ act ∈ more, kind act

section Adds

variable {kind : Act → Prop} {self : Orchestrator} {runId : String}

theorem Adds.of_same {w w' : World} (h : w'.acts = w.acts) : Adds kind w w' :=
  ⟨[], by rw [h, List.append_nil], by simp⟩

theorem adds_lenient (hlisted : ∀ runId, kind (.listed runId)) : Lenient (Adds kind) where
  refl _ := .of_same rfl
  event _ _ _ _ _ _ := .of_same rfl
  message _ _ _ := .of_same rfl
  federation _ _ := .of_same rfl
  diagnostics _ _ := .of_same rfl
  announce _ _ _ _ := .of_same rfl
  remember _ _ _ _ _ _ := .of_same rfl
  list w := by
    refine ⟨Orchestrator.listed w, rfl, fun act ha => ?_⟩
    obtain ⟨run, -, rfl⟩ := List.mem_map.mp ha
    exact hlisted run.runId

theorem adds_noting (w : World) (marks : List Mark) : Adds kind w (w.noting marks []) :=
  .of_same (List.append_nil _)

namespace Orchestrator

theorem getNoting_adds {lost : World → List Mark} {seen : List Mark} (hg : Quiet (Adds kind)) :
    Within (Adds kind) (getNoting lost seen runId) := by
  refine within_storeCallNoting hg (fun w => adds_noting w _) ?_
  intro w w' a h
  obtain ⟨w₁, h₁, rfl⟩ := marked_ok h
  obtain ⟨s, hs, rfl⟩ := onRuns_ok h₁
  exact .of_same (List.append_nil _)

theorem saveNoting_adds {lost : World → List Mark} {done : List Mark} {run : Run}
    (hg : Quiet (Adds kind)) : Within (Adds kind) (saveNoting lost done run) := by
  refine within_ask.bind fun now => within_storeCallNoting hg (fun w => adds_noting w _) ?_
  intro w w' a h
  obtain ⟨w₁, h₁, rfl⟩ := marked_ok h
  obtain ⟨s, hs, rfl⟩ := onRuns_ok h₁
  exact .of_same (List.append_nil _)

theorem cancelIfRequestedNoting_adds {lost : World → List Mark} {seen : List Mark} {run : Run}
    (hg : Quiet (Adds kind)) :
    Within (Adds kind) (self.cancelIfRequestedNoting lost seen run) := by
  refine (getNoting_adds hg).bind fun latest => ?_
  show Within _ (if _ then _ else _)
  split
  · exact within_pure
  · split
    · exact within_pure
    · refine within_ask.bind fun now => Within.bind ?_ fun cancelled => ?_
      · exact Infra.Program.within_ofExcept.bind fun moved => saveNoting_adds hg
      · exact (appendEvent_within hg (by decide)).bind fun _ => within_pure

theorem giveUp_adds {current : Run} {e : Failure} (hg : Quiet (Adds kind)) :
    Within (Adds kind) (giveUp self current e) := by
  refine within_ask.bind fun now => Infra.Program.within_ofExcept.bind fun moved => ?_
  refine (saveNoting_adds hg).bind fun _ => appendEvent_within hg ?_
  split
  · decide
  · decide

/-- Giving an attempt up adds nothing to the history, but what its recovery reads. -/
theorem handleFailure_adds {e : Failure} (hlisted : ∀ runId, kind (.listed runId)) :
    Within (Adds kind) (handleFailure self runId e) := by
  have hg : Lenient (Adds kind) := adds_lenient hlisted
  refine (getNoting_adds hg.toQuiet).bind fun current => ?_
  show Within _ (if _ then _ else _)
  split
  · exact recoverCompletions_within hg
  · split
    · exact recoverClarifications_within hg.toQuiet
    · refine (cancelIfRequestedNoting_adds hg.toQuiet).bind fun found => ?_
      cases found with
      | some run => exact within_pure
      | none =>
        show Within _ (if _ then _ else _)
        split
        · exact within_pure
        · exact giveUp_adds hg.toQuiet

end Orchestrator

end Adds

/-! ## Executing a run -/

namespace Orchestrator

variable {self : Orchestrator} {runId : String}

theorem handleFailure_heedful {e : Failure} :
    Triple (heedful runId) (fun _ => True) (handleFailure self runId e) fun _ _ => True := by
  intro w _
  have hadds : Within (Adds fun act => ¬ Proceeds runId act) (handleFailure self runId e) :=
    handleFailure_adds fun _ h => h
  refine wp_contract ?_ ?_ ?_ (hadds.wp_and (handleFailure_triple w trivial))
  · exact fun _ _ h => h.grown
  · rintro w w' ⟨hchange, more, hacts, hmore⟩
    exact ⟨hchange, more, hacts, fun act ha hp => absurd hp (hmore act ha)⟩
  · exact fun _ _ h => h

/-- A worker that wins a run goes on with it. -/
theorem win_heedful {run : Run} (hid : run.runId = runId) (hs : Startable run) :
    Triple (heedful runId) (fun w => Heeded runId w ∧ Held run w) (win run) fun won w =>
      (Going runId w ∧ Copy runId won w) ∧ won.runId = runId ∧ won.status.Active := by
  refine Triple.bind (m := fun moved w => (Heeded runId w ∧ Held run w) ∧
    transition run .contextualizing = .ok moved)
    (Triple.ofExcept fun moved w hm hw => ⟨hw, hm⟩) fun moved => Triple.assuming fun hm => ?_
  refine (save_heedful (.win hs hm) hid ?_ (fun _ h => h.2) ?_).conseq (fun _ h => h) ?_
  · exact fun w w' h hw => ⟨h.heeded hw.1, hw.2.of_grown h.grown⟩
  · rintro w - - act ha hp
    obtain rfl := List.mem_singleton.mp ha
    exact hp.elim
  · rintro won w' ⟨w, hw, -, -, hrow, hsaved, hheeds⟩
    have hstatus : won.status = .contextualizing := by
      rw [hsaved.status, (transition_ok hm).1]
      rfl
    have hlive : Live won := by
      rw [Live, hstatus]
      exact Or.inr ⟨by decide, by decide⟩
    have hcopy : Copy runId won w' := Copy.of_row hrow
    refine ⟨⟨⟨hheeds.change.heeded hw.1, fun _ => ⟨won, hrow, hlive⟩⟩, hcopy⟩, hcopy.named, ?_⟩
    rw [hstatus]
    decide

theorem runAttempt_heedful {run : Run} {previous : Option String} (hid : run.runId = runId)
    (ha : run.status.Active) :
    Triple (heedful runId) (fun w => Going runId w ∧ Copy runId run w) (runAttempt self run previous)
      fun _ _ => True := by
  subst hid
  have hstarted : Within Listing (self.appendEventNoting (unrecorded run.runId) run.runId
      .runStarted [("attempt", .int run.attempt)]) :=
    appendEventNoting_within listing_lenient.toQuiet
      (fun w => .of_same rfl (List.append_nil w.acts)) fun w now => .of_same rfl rfl
  refine Triple.bind (listing_heedful hstarted looking_rely fun w w' h hw =>
    ⟨hw.1.listing h, hw.2.heeds h.heeds⟩) fun _ => ?_
  refine Triple.bind (m := fun _ _ => True) (Triple.attempt ?_ fun _ _ => trivial) fun outcome => ?_
  · exact (drive_triple (heed_sound self run.runId) ha).conseq (fun _ h => h) fun _ _ _ => trivial
  · cases outcome with
    | ok _ => exact Triple.pure fun _ _ => trivial
    | error e => exact handleFailure_heedful

/-- **Whoever executes a run heeds the cancellations of others.** -/
theorem execute_heedful :
    Triple (heedful runId) (Heeded runId) (self.execute runId) fun _ _ => True := by
  have hread : Triple (heedful runId) (Heeded runId) (get runId) fun run w =>
      (Heeded runId w ∧ Held run w) ∧ run.runId = runId := by
    refine (read_heedful heeded_rely minor_idle fun _ => not_proceeds_nil).conseq (fun _ h => h) ?_
    rintro run w ⟨w', hw', hrow, rfl, hheeds⟩
    have hcopy : Copy runId run (w'.noting [] (idle w')) := Copy.of_row hrow
    exact ⟨⟨hheeds.change.heeded hw', hcopy.held⟩, hcopy.named⟩
  refine hread.bind fun run => Triple.assuming fun hid => ?_
  refine Triple.bind (m := fun _ w => Heeded runId w ∧ Held run w)
    (Triple.ofExcept fun _ _ _ h => h) fun previous => ?_
  show Triple _ _ (if _ then _ else _) _
  split
  · exact Triple.pure fun _ _ => trivial
  · next hstartable =>
    refine Triple.bind (m := fun won w => ∀ run, won = .ok run →
      (Going runId w ∧ Copy runId run w) ∧ run.runId = runId ∧ run.status.Active)
      (Triple.attempt ?_ fun e w run h => by cases h) fun won => ?_
    · refine (win_heedful hid (not_not.mp hstartable)).conseq (fun _ h => h) ?_
      intro won w h run hrun
      obtain rfl := Except.ok.inj hrun
      exact h
    · cases won with
      | error e =>
        show Triple _ _ (if _ then _ else _) _
        split
        · exact Triple.pure fun _ _ => trivial
        · exact Triple.throw
      | ok run =>
        intro w hw
        obtain ⟨hgoing, hwon, ha⟩ := hw run rfl
        exact runAttempt_heedful hwon ha w hgoing

end Orchestrator

/-! ## Cancelling -/

/-- What a `cancel` call leaves in the history, whatever else is added to it. -/
def recorder : Contract World Question where
  rely w w' := w.acts <+: w'.acts
  guar _ _ := True

theorem recorder_mild : Mild recorder where
  rely_refl w := List.prefix_refl w.acts
  rely_trans _ _ _ := List.IsPrefix.trans
  guar_refl _ := trivial
  may _ _ := trivial

namespace Orchestrator

variable {self : Orchestrator} {runId : String}

/-- A save by which the run is cancelled. -/
theorem save_recorded {changed : Run} :
    Triple recorder (fun _ => True)
      (saveNoting nothing [.cancelled runId] changed [.cancelled runId])
      fun _ w => .cancelled runId ∈ w.acts := by
  intro w _
  refine wp_saveNoting recorder_mild ?_ ?_ fun _ _ _ _ => trivial
  · exact fun _ _ => ⟨trivial, trivial⟩
  · intro w' s now _ _
    refine ⟨trivial, ?_⟩
    simp [World.noting]

/-- **A `cancel` call that returns has cancelled the run**, unless the run was queued again after a
failure, or neither queued nor in progress. -/
theorem cancel_recorded :
    Triple recorder (fun _ => True) (cancel self runId) fun run w =>
      .cancelled runId ∈ w.acts ∨ .declined runId ∈ w.acts ∨ ¬ Pending run := by
  have hread : Triple recorder (fun _ => True) (getNoting nothing [] runId (declined runId))
      fun run w => run.status = .failed ∧ run.currentStage = "retry_queued" →
        .declined runId ∈ w.acts := by
    intro w _
    refine wp_getNoting recorder_mild ?_ ?_ fun _ _ _ => trivial
    · exact fun _ _ => ⟨trivial, trivial⟩
    · intro w' run _ hrow
      refine ⟨trivial, fun hqueued => ?_⟩
      simp [World.noting, declined, hrow, hqueued]
  refine hread.bind fun run => ?_
  show Triple _ _ (if _ then _ else _) _
  split
  · refine Triple.bind (m := fun _ _ => True) (Triple.ask (fun _ _ _ _ => trivial)
      fun _ _ _ _ _ => trivial) fun now => ?_
    refine Triple.bind (m := fun _ _ => True) (Triple.ofExcept fun _ _ _ _ => trivial)
      fun moved => save_recorded.bind fun cancelled => ?_
    refine Triple.bind (m := fun _ w => .cancelled runId ∈ w.acts) ?_ fun _ =>
      Triple.pure fun w hw => Or.inl hw
    have hevent : Within (fun w w' : World => w.acts <+: w'.acts)
        (self.appendEvent runId .runCancelled []) :=
      appendEventNoting_within ⟨fun w => List.prefix_refl w.acts, fun w _ _ _ _ _ =>
        List.prefix_refl w.acts, fun w _ _ => List.prefix_refl w.acts, fun w _ =>
        List.prefix_refl w.acts, fun w _ => List.prefix_refl w.acts⟩
        (fun w => List.prefix_append w.acts _) fun w _ => List.prefix_refl w.acts
    exact hevent.triple (fun _ _ _ => trivial) (fun _ _ => trivial) (fun _ _ h hw => h.subset hw)
      fun _ _ h hw => h.subset hw
  · next hwaiting =>
    split
    · next hterminal =>
      refine Triple.pure fun w hw => ?_
      by_cases hqueued : run.status = .failed ∧ run.currentStage = "retry_queued"
      · exact Or.inr (Or.inl (hw hqueued))
      · refine Or.inr (Or.inr ?_)
        rintro (hc | ha | ⟨hw', -⟩ | hf)
        · rw [hc] at hterminal
          revert hterminal
          decide
        · exact ha.not_settled hterminal
        · exact hwaiting hw'
        · exact hqueued hf
    · exact (save_recorded.conseq (fun _ _ => trivial) fun _ _ h => Or.inl h)

end Orchestrator

/-! ## A worker among cancellations -/

/-- What a worker that heeds cancellations and the `cancel` calls expect of each other. -/
def heedAgreement (self : Orchestrator) (runId : String) :
    Ensemble.Agreement (heedful runId) (IsCancel self) (Apart runId) where
  pool := cancelDiscipline self fun _ _ h => h.elim Apart.grown fun h => h.change.grown
  refl := Hindered.refl runId
  trans := fun _ _ _ => Hindered.trans
  rely_of_env := fun _ _ => Apart.hindered
  rely_of_pool := fun _ _ h => h.hindered runId

/-- In what was added since, the run has not proceeded after it was cancelled. -/
structure Final (runId : String) (since : List Act) (w : World) : Prop where
  acts : ∃ added, w.acts = since ++ added ∧ (Timely runId w.acts →
    ∀ early late act, added = early ++ act :: late → Proceeds runId act →
      .cancelled runId ∉ since ++ early)

theorem Final.append {runId : String} {since more : List Act} {w w' : World}
    (h : Final runId since w) (hacts : w'.acts = w.acts ++ more)
    (hmore : Timely runId w.acts → ∀ early late act, more = early ++ act :: late →
      Proceeds runId act → .cancelled runId ∉ w.acts ++ early) : Final runId since w' := by
  obtain ⟨added, hadded, hfinal⟩ := h.acts
  refine ⟨added ++ more, by rw [hacts, hadded, List.append_assoc], ?_⟩
  intro ht early late act heq hp
  rw [hacts] at ht
  rcases List.append_eq_append_iff.mp heq with ⟨rest, rfl, hrest⟩ | ⟨rest, hrest, hlate⟩
  · have hnot := hmore ht.of_append rest late act hrest hp
    rwa [hadded, List.append_assoc] at hnot
  · cases rest with
    | nil =>
      rw [List.append_nil] at hrest
      subst hrest
      have hnot := hmore ht.of_append [] late act hlate.symm hp
      rwa [hadded, List.append_nil] at hnot
    | cons a rest =>
      obtain ⟨rfl, -⟩ := List.cons.inj hlate
      exact hfinal ht.of_append early rest act hrest hp

theorem Final.hindered {runId : String} {since : List Act} {w w' : World}
    (h : Hindered runId w w') (hw : Final runId since w) : Final runId since w' := by
  obtain ⟨more, hacts, hpass, -⟩ := h.step
  refine hw.append hacts fun _ early late act heq hp => ?_
  have hact : act ∈ more := by simp [heq]
  have hid : act.runId = runId := by
    cases act <;> first | exact hp | exact hp.elim
  rcases hpass act hact hid with rfl | rfl | rfl
  · exact hp.elim
  · exact hp.elim
  · exact hp.elim

theorem Final.heeds {runId : String} {since : List Act} {w w' : World} (h : Heeds runId w w')
    (hw : Final runId since w) : Final runId since w' := by
  obtain ⟨more, hacts, hmore⟩ := h.acts
  refine hw.append hacts fun ht early late act heq hp => ?_
  obtain ⟨hsingle, hnot⟩ := hmore act (by simp [heq]) hp
  rw [hsingle] at heq
  have hearly : early = [] := by
    rcases List.append_eq_singleton_iff.mp heq.symm with ⟨rfl, -⟩ | ⟨-, hnil⟩
    · rfl
    · cases hnil
  rw [hearly, List.append_nil]
  exact hnot ht

/-! ## Completed runs -/

/-- A run that is stored as completed was completed in the history. -/
def Logged (runId : String) (w : World) : Prop :=
  ∀ run, w.runs.row runId = some run → run.status = .completed → .completed runId ∈ w.acts

theorem Edit.completed {run changed : Run} {acts : List Act} (h : Edit run changed acts)
    (hc : changed.status = .completed) : .completed run.runId ∈ acts := by
  cases h with
  | complete => simp
  | win hs hm | stop _ hm | wait hm | block hm | withdraw _ hm =>
    obtain ⟨rfl, -⟩ := transition_ok hm
    cases hc
  | annotate ha =>
    rw [hc] at ha
    exact absurd ha (by decide)
  | advance _ ht hm =>
    obtain ⟨rfl, -⟩ := transition_ok hm
    obtain rfl : _ = RunStatus.completed := hc
    exact absurd ht (by decide)
  | fail hm ht =>
    obtain ⟨rfl, -⟩ := transition_ok hm
    obtain rfl : _ = RunStatus.completed := hc
    simp at ht
  | resume hs | requeue hs => exact absurd (hs.symm.trans hc) (by decide)
  | request hs =>
    rw [hc] at hs
    exact absurd (by decide) hs

theorem Change.logged {runId : String} {w w' : World} (h : Change w w') (hw : Logged runId w) :
    Logged runId w' := by
  intro run hrow hc
  cases h with
  | aside h =>
    obtain ⟨more, hacts, -⟩ := h.acts
    rw [hacts]
    rw [h.row] at hrow
    exact List.mem_append_left _ (hw run hrow hc)
  | @edits edited changed now acts hedit hreplaced hacts =>
    rw [hacts]
    by_cases hid : runId = edited.runId
    · subst hid
      obtain rfl := Option.some.inj (hreplaced.row'.symm.trans hrow)
      exact List.mem_append_right _ (hedit.completed hc)
    · rw [hreplaced.other runId hid] at hrow
      exact List.mem_append_left _ (hw run hrow hc)
  | @creates new hnew _ hruns hacts =>
    rw [hacts]
    rw [Store.row_append hruns] at hrow
    cases hold : w.runs.row runId with
    | some old =>
      rw [hold, Option.some_or] at hrow
      exact List.mem_append_left _ (hw run (hold.trans hrow) hc)
    | none =>
      rw [hold, Option.none_or] at hrow
      split at hrow
      · obtain rfl := Option.some.inj hrow
        exact absurd (hnew.status.symm.trans hc) (by decide)
      · cases hrow

theorem Hindered.logged {runId : String} {w w' : World} (h : Hindered runId w w')
    (hw : Logged runId w) : Logged runId w' := by
  obtain ⟨more, hacts, -, hrows⟩ := h.step
  intro run hrow hc
  rw [hacts]
  refine List.mem_append_left _ ?_
  rcases hrows with ⟨hsame, -⟩ | ⟨old, new, hold, hnew, hcancelled, -⟩
  · exact hw run (hsame.symm.trans hrow) hc
  · obtain rfl := Option.some.inj (hnew.symm.trans hrow)
    rcases hcancelled.2 with ⟨hstatus, -⟩ | ⟨-, hcancelled⟩
    · exact hw old hold (hstatus.symm.trans hc)
    · exact absurd (hcancelled.symm.trans hc) (by decide)

/-- `cancel` calls that are heeded, whatever else changes the runs. -/
def heedDiscipline (self : Orchestrator) (runId : String) :
    Pool.Discipline (IsCancel self) Change where
  contract := { rely := Evolves, guar := Meddles }
  inv w := Heeded runId w ∧ Logged runId w
  refl _ := .refl
  trans _ _ _ := .trans
  rely_of_guar _ _ h := .single h.change
  rely_of_env _ _ := .single
  keep _ _ h hw := ⟨h.keeps (fun _ _ => Change.heeded) hw.1, h.keeps (fun _ _ => Change.logged) hw.2⟩
  started := by
    rintro p w ⟨id, rfl⟩ -
    exact wp_contract (c := canceller) (fun _ _ h => h.grown) (fun _ _ h => h) (fun _ _ h => h)
      (cancel_wp w)

section Sessions

variable (self : Orchestrator) (runId : String) (w : World)
  (before : Pool World Answer Failure Run) (session : Ensemble World Answer Failure Unit Run)

/-- **A cancellation is final**: a `cancel` call that returns has cancelled the run, unless it was
declined or the run was neither queued nor in progress; and once the run is cancelled, a worker
invokes no Ask for it and does not complete it, however it interleaves with the cancellations, when
each of them was timely. Whatever happened before, `cancel` calls that are still going on may be left
from it. -/
theorem final_of_timely (hruns : w.runs.runs = []) (hacts : w.acts = [])
    (hbefore : Pool.Reaches (IsCancel self) Change ⟨[], w⟩ before)
    (hsession : Ensemble.Reaches (IsCancel self) (Apart runId) ⟨self.execute runId, before⟩ session)
    (htimely : Timely runId session.state.acts) :
    Triple recorder (fun _ => True) (self.cancel runId) (fun run w =>
        .cancelled runId ∈ w.acts ∨ .declined runId ∈ w.acts ∨ ¬ Pending run) ∧
      (∀ run, session.state.runs.row runId = some run → run.status = .completed →
        .completed runId ∈ session.state.acts) ∧
      ∀ early late act, session.state.acts = before.state.acts ++ early ++ act :: late →
        Proceeds runId act → .cancelled runId ∉ before.state.acts ++ early := by
  have hw : Heeded runId w ∧ Logged runId w := by
    refine ⟨fun hm => ?_, fun run hrow => ?_⟩
    · simp [hacts] at hm
    · simp [Store.row, hruns] at hrow
  obtain ⟨hheeded, hlogged⟩ :=
    (hbefore.disciplined (Pool.disciplined_empty (d := heedDiscipline self runId) hw)).1.inv
  have hthreads : Pool.Disciplined (cancelDiscipline self fun _ _ => Change.grown) before :=
    (hbefore.disciplined (Pool.disciplined_empty trivial)).1
  have hagreed : Ensemble.Agreed (heedAgreement self runId) (fun _ _ => True) (fun _ _ => True)
      ⟨self.execute runId, before⟩ :=
    ⟨Orchestrator.execute_heedful before.state hheeded, trivial, hthreads.threads⟩
  have hstart : Final runId before.state.acts before.state := by
    refine ⟨[], (List.append_nil _).symm, fun _ early late act heq _ => ?_⟩
    simp at heq
  obtain ⟨added, hadded, hfinal⟩ := (hsession.invariant (heedAgreement self runId)
    (fun _ _ => Final.hindered) (fun _ _ => Final.heeds) hagreed hstart).acts
  refine ⟨Orchestrator.cancel_recorded, ?_, ?_⟩
  · exact hsession.invariant (heedAgreement self runId) (fun _ _ => Hindered.logged)
      (fun _ _ h => h.change.logged) hagreed hlogged
  · intro early late act hsplit hp
    refine hfinal htimely early late act ?_ hp
    rw [List.append_assoc] at hsplit
    exact List.append_cancel_left (hadded.symm.trans hsplit)

end Sessions

/-! ## A cancellation in time, and one that is declined -/

/-- An Ask invocation that answers. -/
def answering : AskStream where
  records := [{
    event := { eventType := .resultReady, sequence := 1, payload := .null,
               correlationId := ⟨"ask-1", Contracts.length_ask1⟩, sequence_range := Contracts.firstSequence_range }
    response := some { question := "", status := .completed, answer := "42" } }]

/-- The run is cancelled while its worker waits for the answer. -/
def stoppedSession : Ensemble World Answer Failure Unit Run :=
  Ensemble.playAll ⟨sampleOrchestrator.execute "r", ⟨[], queuedWorld⟩⟩
    [.main 42 (sampleAnswers "-" answering),
     .others (.spawn (sampleOrchestrator.cancel "r")),
     .others (.run 0 200 (sampleAnswers "-" answering)), .main 200 (sampleAnswers "-" answering)]

theorem none_transient : ∀ c ∈ blockedCodes, c ∉ ([] : List String) := fun _ _ => List.not_mem_nil

/-- The run fails for a moment, and is queued again. -/
def requeuedPool : Pool World Answer Failure Unit :=
  let transient : AskStream := { records := [], raised := some (.federationTransient "timeout" [] none_transient) }
  Pool.playAll ⟨[], sampleWorld⟩ [
    .spawn (discard (sampleOrchestrator.create "c" "销售额" 200 none)), sampleRun 0 "r" firstPrompt,
    .spawn (sampleOrchestrator.execute "r"), sampleRun 1 "-" transient,
    .spawn (discard (Orchestrator.retry "r")), sampleRun 2 "-" firstPrompt]

/-- It is cancelled before its worker begins. -/
def requeuedSession : Ensemble World Answer Failure Unit Run :=
  Ensemble.playAll ⟨sampleOrchestrator.execute "r", ⟨[], requeuedPool.state⟩⟩
    [.others (.spawn (sampleOrchestrator.cancel "r")),
     .others (.run 0 200 (sampleAnswers "-" answering)), .main 200 (sampleAnswers "-" answering)]

theorem cancels_reached {w : World} {turns : List (Ensemble.Turn World Answer Failure Run)}
    (h : ∀ p, Ensemble.Turn.others (.spawn p) ∈ turns → p = sampleOrchestrator.cancel "r") :
    Ensemble.Reaches (IsCancel sampleOrchestrator) (Apart "r")
      ⟨sampleOrchestrator.execute "r", ⟨[], w⟩⟩
      (Ensemble.playAll ⟨sampleOrchestrator.execute "r", ⟨[], w⟩⟩ turns) :=
  Ensemble.playAll_reaches _ _ fun p hp => ⟨"r", h p hp⟩

theorem reaches_of_evolves {start : Prog Run → Prop} {w w' : World} (h : Evolves w w') :
    Pool.Reaches start Change ⟨[], w⟩ ⟨[], w'⟩ := by
  induction h with
  | refl => exact Relation.ReflTransGen.refl
  | tail _ hc ih => exact ih.tail (.env hc)

theorem queuedWorld_reached :
    Pool.Reaches (IsCancel sampleOrchestrator) Change ⟨[], sampleWorld⟩ ⟨[], queuedWorld⟩ := by
  have hreached : Pool.Reaches (IsOperation sampleOrchestrator) Untouched ⟨[], sampleWorld⟩
      (Pool.playAll ⟨[], sampleWorld⟩ [
        .spawn (discard (sampleOrchestrator.create "c" "销售额" 200 none)),
        sampleRun 0 "r" firstPrompt]) := by
    refine Pool.playAll_reaches _ _ fun p hp => ?_
    simp only [sampleRun, List.mem_cons, Pool.Choice.spawn.injEq, List.not_mem_nil, or_false,
      reduceCtorEq] at hp
    rcases hp with rfl
    exact .create _ _ _ _
  exact reaches_of_evolves (evolves_of_reaches hreached)

theorem stoppedSession_final :
    stoppedSession.state.acts = queuedWorld.acts ++
        [.started "r", .cleared "r", .invoked "r" none "销售额", .cancelled "r"] ∧
      (stoppedSession.state.runs.row "r").map Run.status = some .cancelled ∧
      .cancelled "r" ∉ queuedWorld.acts ++ [.started "r", .cleared "r"] := by
  have hacts : stoppedSession.state.acts = queuedWorld.acts ++
      [.started "r", .cleared "r", .invoked "r" none "销售额", .cancelled "r"] := by decide +kernel
  have hreached : Ensemble.Reaches (IsCancel sampleOrchestrator) (Apart "r")
      ⟨sampleOrchestrator.execute "r", ⟨[], queuedWorld⟩⟩ stoppedSession := by
    refine cancels_reached fun p hp => ?_
    simpa using hp
  refine ⟨hacts, by decide +kernel, ?_⟩
  refine (final_of_timely sampleOrchestrator "r" sampleWorld ⟨[], queuedWorld⟩ stoppedSession rfl rfl
    queuedWorld_reached hreached (by decide +kernel)).2.2 [.started "r", .cleared "r"]
    [.cancelled "r"] (.invoked "r" none "销售额") ?_ rfl
  rw [List.append_assoc]
  exact hacts

/-- `cancel` returns, and the run is asked and completed all the same. -/
theorem requeued_run_completed :
    Pool.Reaches (IsOperation sampleOrchestrator) Untouched ⟨[], sampleWorld⟩ requeuedPool ∧
      (requeuedPool.state.runs.row "r").any (fun run => Pending run) ∧
      Ensemble.Reaches (IsCancel sampleOrchestrator) (Apart "r")
        ⟨sampleOrchestrator.execute "r", ⟨[], requeuedPool.state⟩⟩ requeuedSession ∧
      (requeuedSession.others.threads.map fun p => p.result.map Run.status) = [some .failed] ∧
      requeuedSession.state.acts = requeuedPool.state.acts ++
        [.declined "r", .started "r", .cleared "r", .invoked "r" none "销售额", .completed "r"] ∧
      (requeuedSession.state.runs.row "r").map Run.status = some .completed := by
  refine ⟨Pool.playAll_reaches _ _ fun p hp => ?_, by decide +kernel,
    cancels_reached fun p hp => ?_, by decide +kernel, by decide +kernel, by decide +kernel⟩
  · simp only [sampleRun, List.mem_cons, Pool.Choice.spawn.injEq, List.not_mem_nil, or_false,
      reduceCtorEq, false_or] at hp
    rcases hp with rfl | rfl | rfl
    · exact .create _ _ _ _
    · exact .execute _
    · exact .retry _
  · simpa using hp

end Runtime
