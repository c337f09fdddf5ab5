import Qaneris.Runtime.Properties.Edits
import Qaneris.Runtime.Properties.Operations
import Qaneris.Runtime.Settled

/-!
# Checkpoints

Rules for the programs that read a run and save it again. Between the two the row may get a newer
revision, and then the save is refused.

* `Held.replaced` — a save that succeeds replaces exactly the run that was read
* `cancel_wp` — what a `cancel` call does, step by step
-/

namespace Runtime

open Infra (Json Pool Program Transaction)
open Infra.Program (Contract Triple Within attempt ofExcept atomic wp_ask wp_atomic wp_bind wp_keep
  wp_mono wp_ofExcept)

/-! ## Growing rows -/

theorem Grown.refl (w : World) : Grown w w :=
  fun _ run h => ⟨run, h, Or.inl rfl⟩

theorem Grown.trans {a b d : World} (hab : Grown a b) (hbd : Grown b d) : Grown a d := by
  intro runId run h
  obtain ⟨run₁, h₁, hr₁⟩ := hab runId run h
  obtain ⟨run₂, h₂, hr₂⟩ := hbd runId run₁ h₁
  refine ⟨run₂, h₂, ?_⟩
  rcases hr₁ with rfl | hr₁
  · exact hr₂
  · rcases hr₂ with rfl | hr₂
    · exact Or.inr hr₁
    · exact Or.inr (hr₁.trans hr₂)

theorem Grown.of_runs {w w' : World} (h : w'.runs.runs = w.runs.runs) : Grown w w' := by
  intro runId run hrow
  refine ⟨run, ?_, Or.inl rfl⟩
  unfold Store.row at hrow ⊢
  rw [h]
  exact hrow

/-- A save is a new revision of one row. -/
theorem Grown.of_save {w w' : World} {run run' : Run} {s : Store} {now : Contracts.Instant}
    (h : w.runs.save run run.revision now = .ok (s, run')) (hw : w'.runs = s) : Grown w w' := by
  obtain ⟨rfl, -, row, hrow, hrev, hself, hother⟩ := Store.save_ok h
  intro runId r hr
  by_cases he : runId = run.runId
  · subst he
    obtain rfl := Option.some.inj (hrow.symm.trans hr)
    refine ⟨_, by rw [hw]; exact hself, Or.inr ?_⟩
    show row.revision < run.revision + 1
    omega
  · exact ⟨r, by rw [hw, hother _ he]; exact hr, Or.inl rfl⟩

/-! ## Calls to the stores -/

/-- What the rules below need of a contract. -/
structure Mild (c : Contract World Question) : Prop where
  rely_refl : ∀ w, c.rely w w
  rely_trans : ∀ a b d, c.rely a b → c.rely b d → c.rely a d
  guar_refl : ∀ w, c.guar w w
  may : ∀ q w, c.may q w

section Calls

variable {c : Contract World Question} {α : Type} {post : α → World → Prop}
  {exc : Failure → World → Prop} {w : World}

theorem wp_question {q : Question} {post : Answer q → World → Prop} (hc : Mild c)
    (h : ∀ w' r, c.rely w w' → post r w') : (ask q).wp c post exc w :=
  fun w' hr => ⟨hc.may q w', fun r => h w' r hr⟩

theorem wp_storeCallNoting {lost : World → List Mark} {tx : Transaction World Failure α}
    (hc : Mild c)
    (hlost : ∀ w', c.rely w w' → c.guar w' (w'.noting (lost w') []) ∧
      exc .operational (w'.noting (lost w') []))
    (hok : ∀ w' w'' a, c.rely w w' → tx w' = .ok (w'', a) → c.guar w' w'' ∧ post a w'')
    (herr : ∀ w' e, c.rely w w' → tx w' = .error e → exc e w') :
    (storeCallNoting lost tx).wp c post exc w := by
  refine wp_bind (wp_question hc fun w₁ fails hr₁ => ?_)
  cases fails with
  | true =>
    refine wp_bind (wp_atomic hc.guar_refl ?_ ?_)
    · intro w' w'' a hr htx
      obtain ⟨rfl, -⟩ := Prod.mk.inj (Except.ok.inj htx)
      exact hlost w' (hc.rely_trans _ _ _ hr₁ hr)
    · intro w' e _ htx
      cases htx
  | false =>
    refine wp_atomic hc.guar_refl ?_ ?_
    · exact fun w' w'' a hr htx => hok w' w'' a (hc.rely_trans _ _ _ hr₁ hr) htx
    · exact fun w' e hr htx => herr w' e (hc.rely_trans _ _ _ hr₁ hr) htx

/-- A run is read as it is stored. -/
theorem wp_getNoting {lost : World → List Mark} {seen : List Mark} {runId : String}
    {acts : World → List Act} {post : Run → World → Prop} (hc : Mild c)
    (hlost : ∀ w', c.rely w w' → c.guar w' (w'.noting (lost w') []) ∧
      exc .operational (w'.noting (lost w') []))
    (hok : ∀ w' run, c.rely w w' → w'.runs.row runId = some run →
      c.guar w' (w'.noting seen (acts w')) ∧ post run (w'.noting seen (acts w')))
    (herr : ∀ w', c.rely w w' → w'.runs.row runId = none → exc (.key runId) w') :
    (Orchestrator.getNoting lost seen runId acts).wp c post exc w := by
  refine wp_storeCallNoting hc hlost ?_ ?_
  · intro w' w'' run hr htx
    obtain ⟨w₁, h₁, rfl⟩ := marked_ok htx
    obtain ⟨s, hs, rfl⟩ := onRuns_ok h₁
    obtain ⟨rfl, hget⟩ := reading_ok hs
    have hrow : w'.runs.row runId = some run := by
      unfold Store.get at hget
      split at hget
      · next r hr =>
        obtain rfl := Except.ok.inj hget
        exact hr
      · cases hget
    exact hok w' run hr hrow
  · intro w' e hr htx
    cases hrow : w'.runs.row runId with
    | none =>
      simp only [marked, onRuns, reading, Store.get, hrow, Except.map, bind, Except.bind,
        Except.error.injEq] at htx
      rw [← htx]
      exact herr w' hr hrow
    | some run =>
      simp [marked, onRuns, reading, Store.get, hrow, Except.map, bind, Except.bind, pure,
        Except.pure] at htx

/-- A save meets the row at the revision it expects, or is refused. -/
theorem wp_saveNoting {lost : World → List Mark} {done : List Mark} {run : Run}
    {acts : List Act} {post : Run → World → Prop} (hc : Mild c)
    (hlost : ∀ w', c.rely w w' → c.guar w' (w'.noting (lost w') []) ∧
      exc .operational (w'.noting (lost w') []))
    (hok : ∀ w' s now, c.rely w w' → w'.runs.save run run.revision now =
        .ok (s, Store.updated run run.revision now) →
      c.guar w' ({ w' with runs := s }.noting done acts) ∧
        post (Store.updated run run.revision now) ({ w' with runs := s }.noting done acts))
    (herr : ∀ w' e, c.rely w w' →
      (∀ row, w'.runs.row run.runId = some row → row.revision ≠ run.revision) → exc e w') :
    (Orchestrator.saveNoting lost done run acts).wp c post exc w := by
  refine wp_bind (wp_question hc fun w₁ now hr₁ => wp_storeCallNoting hc ?_ ?_ ?_)
  · exact fun w' hr => hlost w' (hc.rely_trans _ _ _ hr₁ hr)
  · intro w' w'' run' hr htx
    obtain ⟨w₂, h₂, rfl⟩ := marked_ok htx
    obtain ⟨s, hs, rfl⟩ := onRuns_ok h₂
    obtain rfl := (Store.save_ok hs).1
    exact hok w' s now (hc.rely_trans _ _ _ hr₁ hr) hs
  · intro w' e hr htx
    refine herr w' e (hc.rely_trans _ _ _ hr₁ hr) ?_
    cases hs : w'.runs.save run run.revision now with
    | error e' => exact Store.save_error hs
    | ok x => simp [marked, onRuns, hs, bind, Except.bind, pure, Except.pure] at htx

end Calls

/-! ## What was read and what is written -/

/-- The run is stored as it was read, unless it has got a newer revision since. -/
def Held (run : Run) (w : World) : Prop :=
  ∃ row, w.runs.row run.runId = some row ∧ (row = run ∨ run.revision < row.revision)

theorem Held.of_grown {run : Run} {w w' : World} (h : Held run w) (hg : Grown w w') :
    Held run w' := by
  obtain ⟨row, hrow, hr⟩ := h
  obtain ⟨row', hrow', hr'⟩ := hg run.runId row hrow
  refine ⟨row', hrow', ?_⟩
  rcases hr with rfl | hr
  · exact hr'
  · rcases hr' with rfl | hr'
    · exact Or.inr hr
    · exact Or.inr (hr.trans hr')

/-- The row of `run` is replaced, and no other. -/
structure Replaced (run saved : Run) (w w' : World) : Prop where
  row : w.runs.row run.runId = some run
  row' : w'.runs.row run.runId = some saved
  other : ∀ other, other ≠ run.runId → w'.runs.row other = w.runs.row other
  events : w'.runs.events = w.runs.events

/-- **A save that succeeds meets the run that was read.** -/
theorem Held.replaced {run changed : Run} {w : World} {s : Store} {acts more : List Act}
    {marks : List Mark} {now : Contracts.Instant} (hheld : Held run w) (he : Edit run changed acts)
    (hs : w.runs.save changed changed.revision now =
      .ok (s, Store.updated changed changed.revision now)) :
    Replaced run (Store.updated changed changed.revision now) w
      ({ w with runs := s }.noting marks more) := by
  obtain ⟨-, hevents, row, hrow, hrev, hself, hother⟩ := Store.save_ok hs
  rw [he.runId] at hrow hself hother
  have hrun : row = run := by
    obtain ⟨row', hrow', hr | hlt⟩ := hheld
    · exact (Option.some.inj (hrow.symm.trans hrow')).trans hr
    · obtain rfl := Option.some.inj (hrow.symm.trans hrow')
      have := he.revision
      omega
  subst hrun
  refine ⟨hrow, hself.trans ?_, hother, hevents⟩
  show some (Store.updated (Store.setColumns row changed) changed.revision now) = _
  rw [he.setColumns]

theorem Replaced.grown {run changed : Run} {acts : List Act} {w w' : World}
    {now : Contracts.Instant} (he : Edit run changed acts)
    (h : Replaced run (Store.updated changed changed.revision now) w w') : Grown w w' := by
  intro runId r hr
  by_cases hid : runId = run.runId
  · subst hid
    obtain rfl := Option.some.inj (h.row.symm.trans hr)
    refine ⟨_, h.row', Or.inr ?_⟩
    show run.revision < changed.revision + 1
    have := he.revision
    omega
  · exact ⟨r, by rw [h.other _ hid]; exact hr, Or.inl rfl⟩

/-! ## Cancellations -/

/-- A step of a `cancel` call: it changes the run it has read, or no run. -/
inductive Meddles (w w' : World) : Prop where
  | aside (runs : w'.runs.runs = w.runs.runs) (log : w'.log = w.log)
      (acts : w'.acts = w.acts ∨ ∃ runId, w'.acts = w.acts ++ Orchestrator.declined runId w)
  | cancels {run changed : Run} {now : Contracts.Instant}
      (edit : Edit run changed [.cancelled run.runId])
      (replaced : Replaced run (Store.updated changed changed.revision now) w w')
      (log : w'.log = w.log ++ [.cancelled run.runId])
      (acts : w'.acts = w.acts ++ [.cancelled run.runId])

theorem Meddles.grown {w w' : World} (h : Meddles w w') : Grown w w' := by
  cases h with
  | aside hruns _ _ => exact Grown.of_runs hruns
  | cancels hedit hreplaced _ _ => exact hreplaced.grown hedit

/-- A `cancel` call counts on growing rows. -/
def canceller : Contract World Question where
  rely := Grown
  guar := Meddles

theorem canceller_mild : Mild canceller where
  rely_refl := Grown.refl
  rely_trans _ _ _ := Grown.trans
  guar_refl _ := .aside rfl rfl (Or.inl rfl)
  may _ _ := trivial

theorem meddles_noting (w : World) : Meddles w (w.noting (nothing w) []) :=
  .aside rfl (List.append_nil _) (Or.inl (List.append_nil _))

section Cancel

variable {self : Orchestrator} {runId : String}

/-- A change that cancels the run that was read. -/
theorem cancel_save_wp {run changed : Run} {w : World} (hheld : Held run w)
    (he : Edit run changed [.cancelled run.runId]) :
    (Orchestrator.saveNoting nothing [.cancelled run.runId] changed [.cancelled run.runId]).wp
      canceller (fun _ _ => True) (fun _ _ => True) w := by
  refine wp_saveNoting canceller_mild ?_ ?_ fun _ _ _ _ => trivial
  · exact fun w' _ => ⟨meddles_noting w', trivial⟩
  · exact fun w' s now hr hs =>
      ⟨.cancels he ((hheld.of_grown hr).replaced he hs) rfl rfl, trivial⟩

/-- **A `cancel` call takes only such steps.** -/
theorem cancel_wp (w : World) :
    (self.cancel runId).wp canceller (fun _ _ => True) (fun _ _ => True) w := by
  refine wp_bind (wp_getNoting canceller_mild ?_ ?_ fun _ _ _ => trivial)
  · exact fun w' _ => ⟨meddles_noting w', trivial⟩
  · intro w' run _ hrow
    refine ⟨.aside rfl (List.append_nil _) (Or.inr ⟨runId, rfl⟩), ?_⟩
    have hid : run.runId = runId := Store.row_runId hrow
    subst hid
    have hheld : Held run (w'.noting [] (Orchestrator.declined run.runId w')) :=
      ⟨run, hrow, Or.inl rfl⟩
    show (if _ then _ else _ : Prog Run).wp _ _ _ _
    split
    · next hwaiting =>
      refine wp_bind (wp_question canceller_mild fun w₁ now hr₁ => ?_)
      refine wp_bind (wp_ofExcept (fun moved hm => ?_) fun _ _ => trivial)
      refine wp_bind (wp_mono (fun _ _ _ => ?_) (fun _ _ _ => trivial)
        (cancel_save_wp (hheld.of_grown hr₁) (.withdraw hwaiting hm now)))
      refine wp_bind (wp_mono (fun _ _ _ => trivial) (fun _ _ _ => trivial)
        (Within.wp (c := canceller) ?_ (fun _ _ => trivial) _))
      refine appendEventNoting_within ⟨?_, ?_, ?_, ?_, ?_⟩ meddles_noting ?_
      all_goals intros; exact .aside rfl rfl (Or.inl rfl)
    · split
      · trivial
      · next hopen => exact cancel_save_wp hheld (.request hopen)

end Cancel

end Runtime
