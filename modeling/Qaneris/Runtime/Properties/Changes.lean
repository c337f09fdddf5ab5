import Qaneris.Runtime.Properties.Attempts
import Qaneris.Runtime.Properties.Clarifications

/-!
# Changes of the runs

Every step of every operation adds a new run, saves an edited copy of one that is stored as it was
read, or leaves the runs alone. What holds of all runs in all states is derived from this.

* `operation_triple` — every operation takes only such steps, while the others do the same
* `evolves_of_reaches` — whatever operations interleave, the runs go through a sequence of changes
-/

namespace Runtime

open Infra (Json Pool Program Transaction)
open Infra.Program (Contract Triple Within attempt ofExcept atomic within_ask within_pure wp_atomic
  wp_attempt wp_bind wp_contract wp_mono wp_ofExcept)
open Orchestrator (Startable)

/-! ## Changes -/

/-- An act that comes with no change of a run. -/
def Act.Minor : Act → Prop
  | .queued _ _ | .started _ | .cancelled _ | .prompted _ _ | .completed _ => False
  | .cleared _ | .declined _ | .overran _ | .overlooked _ | .invoked _ _ _ | .answered _ _
  | .listed _ => True

/-- A step that changes no row of a run. -/
structure Aside (w w' : World) : Prop where
  runs : w'.runs.runs = w.runs.runs
  acts : ∃ more, w'.acts = w.acts ++ more ∧ ∀ act ∈ more, act.Minor

/-- The run as `create` inserts it. -/
structure New (run : Run) : Prop where
  status : run.status = .created
  attempt : run.attempt = 1
  responseJson : run.responseJson = none
  failureCode : run.failureCode = none
  retryable : run.retryable = false
  currentStage : run.currentStage = "created"

/-- What a step of an operation does to the runs. -/
inductive Change (w w' : World) : Prop where
  | aside (h : Aside w w')
  | edits {run changed : Run} {now : Contracts.Instant} {acts : List Act}
      (edit : Edit run changed acts)
      (replaced : Replaced run (Store.updated changed changed.revision now) w w')
      (acts : w'.acts = w.acts ++ acts)
  | creates {run : Run} (new : New run) (fresh : w.runs.row run.runId = none)
      (runs : w'.runs.runs = w.runs.runs ++ [run])
      (acts : w'.acts = w.acts ++ [.queued run.runId .created])

theorem Aside.of_same {w w' : World} (hruns : w'.runs.runs = w.runs.runs) (hacts : w'.acts = w.acts) :
    Aside w w' :=
  ⟨hruns, [], by rw [hacts, List.append_nil], by simp⟩

theorem Aside.refl (w : World) : Aside w w := .of_same rfl rfl

theorem Aside.noting (w : World) (marks : List Mark) {acts : List Act}
    (h : ∀ act ∈ acts, act.Minor) : Aside w (w.noting marks acts) :=
  ⟨rfl, acts, rfl, h⟩

theorem Aside.row {w w' : World} (h : Aside w w') (runId : String) :
    w'.runs.row runId = w.runs.row runId := by
  unfold Store.row
  rw [h.runs]

theorem minor_listed (w : World) : ∀ act ∈ Orchestrator.listed w, act.Minor := by
  intro act h
  obtain ⟨run, -, rfl⟩ := List.mem_map.mp h
  trivial

theorem aside_lenient : Lenient Aside where
  refl := Aside.refl
  event _ _ _ _ _ _ := .of_same rfl rfl
  message _ _ _ := .of_same rfl rfl
  federation _ _ := .of_same rfl rfl
  diagnostics _ _ := .of_same rfl rfl
  announce _ _ _ _ := .of_same rfl rfl
  remember _ _ _ _ _ _ := .of_same rfl rfl
  list w := .noting w [] (minor_listed w)

/-- A run that is appended to the table is found by its id, and no other row is. -/
theorem Store.row_append {s s' : Store} {run : Run} (h : s'.runs = s.runs ++ [run])
    (runId : String) :
    s'.row runId = (s.row runId).or (if run.runId = runId then some run else none) := by
  unfold Store.row
  rw [h, List.find?_append, List.find?_singleton]
  simp

theorem Change.grown {w w' : World} (h : Change w w') : Grown w w' := by
  cases h with
  | aside h => exact Grown.of_runs h.runs
  | edits hedit hreplaced _ => exact hreplaced.grown hedit
  | creates _ _ hruns _ =>
    intro runId run hrow
    refine ⟨run, ?_, Or.inl rfl⟩
    rw [Store.row_append hruns, hrow, Option.some_or]

theorem minor_nil : ∀ act ∈ ([] : List Act), act.Minor := by
  intro act h
  cases h

theorem minor_singleton {act : Act} (h : act.Minor) : ∀ a ∈ [act], a.Minor := by
  intro a ha
  obtain rfl := List.mem_singleton.mp ha
  exact h

theorem minor_ite {c : Prop} [Decidable c] {xs ys : List Act} (hx : ∀ act ∈ xs, act.Minor)
    (hy : ∀ act ∈ ys, act.Minor) : ∀ act ∈ if c then xs else ys, act.Minor := by
  split
  · exact hx
  · exact hy

theorem minor_idle (w : World) : ∀ act ∈ idle w, act.Minor := minor_nil

theorem minor_cleared (runId : String) (w : World) :
    ∀ act ∈ Orchestrator.cleared runId w, act.Minor :=
  minor_ite minor_nil (minor_singleton trivial)

theorem minor_overran (runId : String) (w : World) :
    ∀ act ∈ Orchestrator.overran runId w, act.Minor :=
  minor_ite (minor_singleton trivial) minor_nil

theorem minor_overlooked (runId : String) (w : World) :
    ∀ act ∈ Orchestrator.overlooked runId w, act.Minor :=
  minor_ite (minor_singleton trivial) minor_nil

theorem minor_declined (runId : String) (w : World) :
    ∀ act ∈ Orchestrator.declined runId w, act.Minor :=
  minor_ite (minor_singleton trivial) minor_nil

theorem Meddles.change {w w' : World} (h : Meddles w w') : Change w w' := by
  cases h with
  | aside hruns _ hacts =>
    refine .aside ⟨hruns, ?_⟩
    rcases hacts with hacts | ⟨runId, hacts⟩
    · exact ⟨[], by rw [hacts, List.append_nil], by simp⟩
    · exact ⟨_, hacts, minor_declined runId w⟩
  | cancels hedit hreplaced _ hacts => exact .edits hedit hreplaced hacts

/-! ## The contract -/

/-- An operation counts on growing rows, and makes only changes. -/
def editor : Contract World Question where
  rely := Grown
  guar := Change

theorem editor_mild : Mild editor where
  rely_refl := Grown.refl
  rely_trans _ _ _ := Grown.trans
  guar_refl w := .aside (.refl w)
  may _ _ := trivial

theorem change_noting (w : World) (marks : List Mark) : Change w (w.noting marks []) :=
  .aside (.noting w marks (by simp))

section Rules

variable {runId : String} {w : World}

/-- A program that changes no row of a run. -/
theorem aside_triple {α : Type} {p : Prog α} (hp : Within Aside p) :
    Triple editor (fun _ => True) p fun _ _ => True :=
  hp.triple (fun _ _ h => .aside h) (fun _ _ => trivial) (fun _ _ _ _ => trivial)
    fun _ _ _ _ => trivial

/-- A run is held by whoever has just read it. -/
theorem get_held_triple {lost : World → List Mark} {seen : List Mark} {acts : World → List Act}
    (hacts : ∀ w, ∀ act ∈ acts w, act.Minor) :
    Triple editor (fun _ => True) (Orchestrator.getNoting lost seen runId acts) fun run w =>
      run.runId = runId ∧ Held run w := by
  intro w _
  refine wp_getNoting editor_mild ?_ ?_ fun _ _ _ => trivial
  · exact fun w' _ => ⟨change_noting w' _, trivial⟩
  · intro w' run _ hrow
    have hid : run.runId = runId := Store.row_runId hrow
    refine ⟨.aside (.noting w' seen (hacts w')), hid, run, ?_, Or.inl rfl⟩
    rw [hid]
    exact hrow

/-- An edit of a run that is held, and what is held afterwards. -/
theorem save_held_triple {lost : World → List Mark} {done : List Mark} {run changed : Run}
    {acts : List Act} (he : Edit run changed acts) :
    Triple editor (Held run) (Orchestrator.saveNoting lost done changed acts) fun saved w =>
      Saved changed saved ∧ Held saved w := by
  intro w hheld
  refine wp_saveNoting editor_mild ?_ ?_ fun _ _ _ _ => trivial
  · exact fun w' _ => ⟨change_noting w' _, trivial⟩
  · intro w' s now hr hs
    have hreplaced : Replaced run (Store.updated changed changed.revision now) w'
        ({ w' with runs := s }.noting done acts) := (hheld.of_grown hr).replaced he hs
    refine ⟨.edits he hreplaced rfl, ⟨now, rfl⟩, _, ?_, Or.inl rfl⟩
    show _ = some (Store.updated changed changed.revision now)
    rw [← hreplaced.row']
    exact congrArg _ he.runId

theorem held_rely (run : Run) (w w' : World) (h : Grown w w') (hw : Held run w) : Held run w' :=
  hw.of_grown h

theorem held_guar (run : Run) (w w' : World) (h : Change w w') (hw : Held run w) : Held run w' :=
  hw.of_grown h.grown

/-- What is held is still held after a program that only makes changes. -/
theorem keeping_held {α : Type} {run : Run} {p : Prog α} {post : α → World → Prop}
    (h : Triple editor (fun _ => True) p post) :
    Triple editor (Held run) p fun a w => post a w ∧ Held run w :=
  (h.frame (held_rely run) (held_guar run)).conseq (fun _ hw => ⟨trivial, hw⟩) fun _ _ h => h

/-! ## The checkpoints of an attempt -/

variable {self : Orchestrator}

theorem cancelIfRequestedNoting_triple {lost : World → List Mark} {seen : List Mark} {run : Run}
    {acts : World → List Act} (hacts : ∀ w, ∀ act ∈ acts w, act.Minor) :
    Triple editor (fun _ => True) (self.cancelIfRequestedNoting lost seen run acts)
      fun _ _ => True := by
  refine (get_held_triple hacts).bind fun latest => ?_
  show Triple _ _ (if _ then _ else _) _
  split
  · exact Triple.pure fun _ _ => trivial
  · next hrequested =>
    split
    · exact Triple.pure fun _ _ => trivial
    · have hask : Triple editor (Held latest) (ask .clock) fun _ => Held latest :=
        Triple.ask (fun _ _ _ _ => trivial) fun w w' _ hw hr => hw.of_grown hr
      refine Triple.bind (hask.conseq (fun _ h => h.2) fun _ _ h => h) fun now => ?_
      refine Triple.bind (m := fun _ _ => True) ?_ fun cancelled => ?_
      · refine Triple.bind (m := fun moved w => Held latest w ∧ transition latest .cancelled = .ok moved)
          (Triple.ofExcept fun moved w hm hw => ⟨hw, hm⟩) fun moved => Triple.assuming fun hm => ?_
        exact (save_held_triple (.stop (by simpa using hrequested) hm now)).conseq (fun _ h => h)
          fun _ _ _ => trivial
      · exact aside_triple ((appendEvent_within aside_lenient.toQuiet (by decide)).bind fun _ =>
          within_pure)

/-- Whoever drives a run makes only changes, and holds the run. -/
def editLogic (runId : String) : Logic where
  contract := editor
  still := Aside
  going _ := True
  ready _ := True
  paused _ := True
  stopped _ := True
  ended _ := True
  copy run w := run.runId = runId ∧ Held run w
  clean run w := run.runId = runId ∧ Held run w

open Orchestrator in
theorem edit_sound (self : Orchestrator) (runId : String) : (editLogic runId).Sound self runId where
  mild := editor_mild
  lenient := aside_lenient
  guar _ _ h := .aside h
  going := ⟨fun _ _ _ h => h, fun _ _ _ h => h⟩
  stopped := ⟨fun _ _ _ h => h, fun _ _ _ h => h⟩
  clean run := ⟨fun w w' h hw => ⟨hw.1, held_rely run w w' h hw.2⟩,
    fun w w' h hw => ⟨hw.1, held_guar run w w' h hw.2⟩⟩
  named _ _ h := h.1
  copy_of_clean _ _ h := h
  paused_of_going _ h := h
  paused_of_stopped _ h := h
  ended_of_stopped _ h := h
  get := (get_held_triple minor_idle).conseq (fun _ h => h) fun _ _ h => ⟨trivial, h⟩
  reread := (get_held_triple (minor_overran runId)).conseq (fun _ h => h) fun _ _ _ =>
    ⟨fun _ => trivial, fun _ => trivial⟩
  reopen := (get_held_triple (minor_overlooked runId)).conseq (fun _ h => h) fun _ _ h =>
    ⟨trivial, h⟩
  poll run := by
    refine (Triple.assuming fun hid => ?_ : Triple editor (fun w => Held run w ∧ run.runId = runId)
      _ _).conseq (fun w hw => ⟨hw.2.2, hw.2.1⟩) fun _ _ h => h
    exact (keeping_held (cancelIfRequestedNoting_triple minor_idle)).conseq
      (fun _ h => h) fun found w h => ⟨fun _ => ⟨trivial, hid, h.2⟩, fun _ => trivial⟩
  clear run := by
    refine (Triple.assuming fun hid => ?_ : Triple editor (fun w => Held run w ∧ run.runId = runId)
      _ _).conseq (fun w hw => ⟨hw.2.2, hw.2.1⟩) fun _ _ h => h
    exact (keeping_held (cancelIfRequestedNoting_triple (minor_cleared run.runId))).conseq
      (fun _ h => h) fun found w h => ⟨fun _ => ⟨trivial, hid, h.2⟩, fun _ => trivial⟩
  save run changed he _ := by
    refine (Triple.assuming fun hid => ?_ : Triple editor (fun w => Held run w ∧ run.runId = runId)
      _ _).conseq (fun w hw => ⟨hw.2.2, hw.2.1⟩) fun _ _ h => h
    refine (save_held_triple he).conseq (fun _ h => h) fun saved w h => ⟨⟨trivial, ?_, h.2⟩, h.1⟩
    rw [h.1.runId, he.runId]
    exact hid
  wait run changed taskId he := (save_held_triple he).conseq (fun _ h => h.2.2) fun _ _ _ => trivial
  complete run changed he := (save_held_triple he).conseq (fun _ h => h.2.2) fun _ _ _ => trivial
  block run changed he _ := (save_held_triple he).conseq (fun _ h => h.2.2) fun _ _ _ => trivial
  invoke taskId request := by
    refine Triple.bind (m := fun _ _ => True) ?_ fun _ =>
      aside_triple Infra.Program.within_ask
    refine Triple.atomic editor_mild.guar_refl fun w w' w'' a _ _ htx => ?_
    obtain ⟨rfl, -⟩ := Prod.mk.inj (Except.ok.inj htx)
    exact ⟨.aside (.noting w' [] (minor_singleton trivial)), trivial⟩
  passOver := by
    refine Triple.atomic editor_mild.guar_refl fun w w' w'' a _ _ htx => ?_
    obtain ⟨rfl, -⟩ := Prod.mk.inj (Except.ok.inj htx)
    exact ⟨change_noting w' _, trivial⟩
  messages run _ := by
    intro w _
    refine wp_storeCallNoting editor_mild ?_ ?_ fun _ _ _ _ => trivial
    · exact fun w' _ => ⟨change_noting w' _, trivial⟩
    · intro w' w'' a _ htx
      obtain ⟨rfl, -⟩ := Prod.mk.inj (Except.ok.inj htx)
      exact ⟨change_noting w' _, trivial⟩

end Rules

/-! ## The operations -/

namespace Orchestrator

variable {self : Orchestrator} {runId : String}

/-- What a run that has failed becomes. -/
theorem giveUp_triple {current : Run} {e : Failure} :
    Triple editor (Held current) (giveUp self current e) fun _ _ => True := by
  refine Triple.bind (m := fun _ => Held current) ?_ fun now => ?_
  · exact Triple.ask (fun _ _ _ _ => trivial) fun _ _ _ hw hr => hw.of_grown hr
  refine Triple.bind (m := fun moved w => Held current w ∧
    transition current (if e.blocks then .blocked else .failed) = .ok moved)
    (Triple.ofExcept fun moved w hm hw => ⟨hw, hm⟩) fun moved => Triple.assuming fun hm => ?_
  have htarget : (if e.blocks then RunStatus.blocked else .failed) = .failed ∨
      (if e.blocks then RunStatus.blocked else .failed) = .blocked := by
    split
    · exact Or.inr rfl
    · exact Or.inl rfl
  have hretries : (if e.blocks then RunStatus.blocked else .failed) = .blocked →
      e.retries = false := by
    intro h
    have hblocks : e.blocks = true := by
      by_contra hb
      rw [if_neg hb] at h
      cases h
    have hnot := e.oneWay
    rw [RawFailure.OneWay] at hnot
    simpa [hblocks] using hnot
  refine Triple.bind (m := fun _ _ => True) ?_ fun _ => aside_triple ?_
  · exact (save_held_triple (.fail hm htarget e.failureCode (e.message self.safeError) e.retries
      (some now) hretries)).conseq (fun _ h => h) fun _ _ _ => trivial
  · refine appendEvent_within aside_lenient.toQuiet ?_
    split
    · decide
    · decide

theorem handleFailure_triple {e : Failure} :
    Triple editor (fun _ => True) (handleFailure self runId e) fun _ _ => True := by
  refine (get_held_triple minor_idle).bind fun current => ?_
  show Triple _ _ (if _ then _ else _) _
  split
  · exact (aside_triple (recoverCompletions_within aside_lenient)).conseq (fun _ _ => trivial)
      fun _ _ h => h
  · split
    · exact (aside_triple (recoverClarifications_within aside_lenient.toQuiet)).conseq
        (fun _ _ => trivial) fun _ _ h => h
    · have hlook : Triple editor (Held current) (self.cancelIfRequestedNoting (unrecorded runId)
          [.looked runId] current) fun _ => Held current :=
        (keeping_held (cancelIfRequestedNoting_triple minor_idle)).conseq (fun _ h => h)
          fun _ _ h => h.2
      refine Triple.bind (hlook.conseq (fun _ h => h.2) fun _ _ h => h) fun found => ?_
      cases found with
      | some run => exact Triple.pure fun _ _ => trivial
      | none =>
        show Triple _ _ (if _ then _ else _) _
        split
        · exact Triple.pure fun _ _ => trivial
        · exact giveUp_triple

/-- The compare-and-swap that wins a run. -/
theorem win_triple {run : Run} (hs : Startable run) :
    Triple editor (Held run) (win run) fun won w => Held won w ∧ won.status.Active := by
  refine Triple.bind (m := fun moved w => Held run w ∧ transition run .contextualizing = .ok moved)
    (Triple.ofExcept fun moved w hm hw => ⟨hw, hm⟩) fun moved => Triple.assuming fun hm => ?_
  refine (save_held_triple (.win hs hm)).conseq (fun _ h => h) fun won w h => ⟨h.2, ?_⟩
  rw [h.1.status, (transition_ok hm).1]
  show RunStatus.contextualizing.Active
  decide

theorem runAttempt_triple {run : Run} {previous : Option String} (ha : run.status.Active) :
    Triple editor (Held run) (runAttempt self run previous) fun _ _ => True := by
  have hstarted : Within Aside (self.appendEventNoting (unrecorded run.runId) run.runId .runStarted
      [("attempt", .int run.attempt)]) :=
    appendEventNoting_within aside_lenient.toQuiet (fun w => .noting w _ minor_nil)
      fun w now => .of_same rfl rfl
  refine Triple.bind (keeping_held (aside_triple hstarted)) fun _ => ?_
  refine Triple.bind (m := fun _ _ => True) (Triple.attempt ?_ fun _ _ => trivial) fun outcome => ?_
  · exact (drive_triple (edit_sound self run.runId) ha).conseq (fun _ h => ⟨trivial, rfl, h.2⟩)
      fun _ _ _ => trivial
  · cases outcome with
    | ok _ => exact Triple.pure fun _ _ => trivial
    | error e => exact handleFailure_triple

theorem execute_triple :
    Triple editor (fun _ => True) (self.execute runId) fun _ _ => True := by
  refine (get_held_triple minor_idle).bind fun run => ?_
  refine Triple.bind (m := fun _ => Held run) (Triple.ofExcept fun _ _ _ h => h.2) fun previous => ?_
  show Triple _ _ (if _ then _ else _) _
  split
  · exact Triple.pure fun _ _ => trivial
  · next hstartable =>
    refine Triple.bind (m := fun won w => ∀ run, won = .ok run → Held run w ∧ run.status.Active)
      (Triple.attempt ?_ fun e w run h => by cases h) fun won => ?_
    · refine (win_triple (not_not.mp hstartable)).conseq (fun _ h => h) fun won w h run hrun => ?_
      obtain rfl := Except.ok.inj hrun
      exact h
    · cases won with
      | error e =>
        show Triple _ _ (if _ then _ else _) _
        split
        · exact Triple.pure fun _ _ => trivial
        · exact Triple.throw
      | ok run => exact fun w hw => runAttempt_triple (hw run rfl).2 w (hw run rfl).1

theorem userMessage_triple {messageId conversationId content : String}
    {messageKind : Conversations.MessageKind} {acts : List Act} (hacts : ∀ act ∈ acts, act.Minor) :
    Triple editor (fun _ => True)
      (self.userMessage messageId conversationId content runId messageKind acts)
      fun _ _ => True := by
  refine Triple.bind (m := fun _ _ => True) (aside_triple Infra.Program.within_ask) fun now => ?_
  intro w _
  refine wp_storeCallNoting editor_mild ?_ ?_ fun _ _ _ _ => trivial
  · exact fun w' _ => ⟨change_noting w' _, trivial⟩
  · intro w' w'' a _ htx
    obtain ⟨w₁, h₁, rfl⟩ := marked_ok htx
    obtain ⟨s, hs, rfl⟩ := onConversations_ok h₁
    exact ⟨.aside ⟨rfl, acts, rfl, hacts⟩, trivial⟩

theorem submit_triple : Triple editor (fun _ => True) (submit runId) fun _ _ => True := by
  refine Triple.atomic editor_mild.guar_refl fun w w' w'' a _ _ htx => ?_
  obtain ⟨rfl, -⟩ := Prod.mk.inj (Except.ok.inj htx)
  exact ⟨.aside (.of_same rfl rfl), trivial⟩

theorem create_triple {conversationId question : String} {maxRows : Int}
    {clientRequestId : Option String} :
    Triple editor (fun _ => True) (create self conversationId question maxRows clientRequestId)
      fun _ _ => True := by
  refine Triple.bind (aside_triple (within_readConversations aside_lenient.toQuiet))
    fun conversation => ?_
  show Triple _ _ (if _ then _ else _) _
  split
  · exact Triple.throw
  · split
    · exact Triple.throw
    · refine Triple.bind (aside_triple Infra.Program.within_ask) fun newId => ?_
      refine Triple.bind (aside_triple Infra.Program.within_ask) fun userMessageId => ?_
      refine Triple.bind (aside_triple Infra.Program.within_ask) fun now => ?_
      refine Triple.bind (m := fun _ _ => True) ?_ fun created => ?_
      · intro w _
        refine wp_storeCallNoting editor_mild ?_ ?_ fun _ _ _ _ => trivial
        · exact fun w' _ => ⟨change_noting w' _, trivial⟩
        · intro w' w'' a _ htx
          obtain ⟨w₁, h₁, rfl⟩ := marked_ok htx
          obtain ⟨s, hs, rfl⟩ := onRuns_ok h₁
          refine ⟨?_, trivial⟩
          rcases Store.create_ok hs with ⟨rfl, hgiven, hexisting⟩ | ⟨hruns, -, -, hrow, hnot⟩
          · refine .aside (.noting _ _ ?_)
            rw [queuedNew, if_pos ⟨hgiven, hexisting⟩]
            exact minor_nil
          · refine .creates ⟨rfl, rfl, rfl, rfl, rfl, rfl⟩ hrow hruns ?_
            show w'.acts ++ _ = _
            rw [queuedNew, if_neg hnot]
      · show Triple _ _ (if _ then _ else _) _
        split
        · refine (userMessage_triple minor_nil).bind fun _ => submit_triple.bind fun _ => ?_
          exact Triple.pure fun _ _ => trivial
        · exact Triple.pure fun _ _ => trivial

theorem clarify_triple {answer : String} :
    Triple editor (fun _ => True) (clarify self runId answer) fun _ _ => True := by
  unfold clarify
  split
  · exact Triple.throw
  · refine (get_held_triple minor_idle).bind fun run => ?_
    show Triple _ _ (if _ then _ else _) _
    split
    · exact Triple.throw
    · next hwaiting =>
      rw [not_or, not_not, not_not] at hwaiting
      refine (Triple.assuming fun hid => ?_ : Triple editor (fun w => Held run w ∧
        run.runId = runId) _ _).conseq (fun _ h => h.symm) fun _ _ h => h
      subst hid
      refine Triple.bind ((save_held_triple (.resume hwaiting.1 hwaiting.2)).conseq (fun _ h => h)
        fun _ _ _ => trivial) fun queued => ?_
      refine Triple.bind (aside_triple Infra.Program.within_ask) fun messageId => ?_
      refine (userMessage_triple (minor_singleton (by trivial))).bind fun _ => ?_
      exact submit_triple.bind fun _ => Triple.pure fun _ _ => trivial

theorem cancel_triple :
    Triple editor (fun _ => True) (cancel self runId) fun _ _ => True :=
  fun w _ => wp_contract (c := canceller) (fun _ _ h => h) (fun _ _ h => h.change)
    (fun _ _ h => h) (cancel_wp w)

theorem retry_triple : Triple editor (fun _ => True) (retry runId) fun _ _ => True := by
  refine (get_held_triple minor_idle).bind fun run => ?_
  show Triple _ _ (if _ then _ else _) _
  split
  · exact Triple.throw
  · next hretryable =>
    rw [not_or, not_or, not_not, not_not] at hretryable
    obtain ⟨hfailed, hretryable, hstage⟩ := hretryable
    refine (Triple.assuming fun hid => ?_ : Triple editor (fun w => Held run w ∧
      run.runId = runId) _ _).conseq (fun _ h => h.symm) fun _ _ h => h
    subst hid
    refine Triple.bind ((save_held_triple (.requeue hfailed hretryable hstage)).conseq
      (fun _ h => h) fun _ _ _ => trivial) fun queued => ?_
    exact submit_triple.bind fun _ => Triple.pure fun _ _ => trivial

/-! ## Starting the process -/

theorem interrupt_triple :
    Triple editor (fun _ => True) (interrupt self runId) fun _ _ => True := by
  refine (get_held_triple minor_idle).bind fun current => ?_
  refine Triple.bind (m := fun _ _ => True) (Triple.attempt ?_ fun _ _ => trivial)
    fun interrupted => ?_
  · refine Triple.bind (m := fun _ _ => True) ?_ fun _ =>
      aside_triple (appendEvent_within aside_lenient.toQuiet (by decide))
    refine Triple.bind (m := fun moved w => Held current w ∧ transition current .failed = .ok moved)
      (Triple.ofExcept fun moved w hm hw => ⟨hw.2, hm⟩) fun moved => Triple.assuming fun hm => ?_
    exact (save_held_triple (.fail hm (Or.inl rfl) "run_interrupted" "运行被进程重启中断，可重试" true
      moved.completedAt nofun)).conseq (fun _ h => h) fun _ _ _ => trivial
  · cases interrupted with
    | ok _ => exact Triple.pure fun _ _ => trivial
    | error e =>
      show Triple _ _ (if _ then _ else _) _
      split
      · exact Triple.pure fun _ _ => trivial
      · exact Triple.throw

theorem forEach_triple {α : Type} {f : α → Prog Unit} {items : List α}
    (h : ∀ item, Triple editor (fun _ => True) (f item) fun _ _ => True) :
    Triple editor (fun _ => True) (forEach f items) fun _ _ => True := by
  induction items with
  | nil => exact Triple.pure fun _ _ => trivial
  | cons item items ih => exact (h item).bind fun _ => ih

theorem start_triple : Triple editor (fun _ => True) (start self) fun _ _ => True := by
  refine (aside_triple (recoverDiagnosticTasks_within aside_lenient.toQuiet)).bind fun _ => ?_
  refine (aside_triple (recoverSourceTasks_within aside_lenient.toQuiet)).bind fun _ => ?_
  refine Triple.bind (m := fun _ _ => True) ?_ fun _ => ?_
  · refine (aside_triple (within_readRuns aside_lenient.toQuiet)).bind fun runs => ?_
    exact forEach_triple fun run => interrupt_triple
  · refine (aside_triple (recoverCompletions_within aside_lenient)).bind fun _ => ?_
    refine (aside_triple (recoverClarifications_within aside_lenient.toQuiet)).bind fun _ => ?_
    refine (aside_triple (within_readRuns aside_lenient.toQuiet)).bind fun queued => ?_
    exact forEach_triple fun runId => submit_triple

end Orchestrator

/-- **Every operation makes only changes.** -/
theorem operation_triple {self : Orchestrator} {p : Prog Unit} (hp : IsOperation self p) :
    Triple editor (fun _ => True) p fun _ _ => True := by
  cases hp with
  | start => exact Orchestrator.start_triple
  | execute runId => exact Orchestrator.execute_triple
  | create => exact Orchestrator.create_triple.bind fun _ => Triple.pure fun _ _ => trivial
  | clarify => exact Orchestrator.clarify_triple.bind fun _ => Triple.pure fun _ _ => trivial
  | cancel => exact Orchestrator.cancel_triple.bind fun _ => Triple.pure fun _ _ => trivial
  | retry => exact Orchestrator.retry_triple.bind fun _ => Triple.pure fun _ _ => trivial

/-! ## Pools of operations -/

/-- Something else happens, to neither the runs nor their history. -/
structure Untouched (w w' : World) : Prop where
  runs : w'.runs.runs = w.runs.runs
  acts : w'.acts = w.acts

abbrev Evolves : World → World → Prop := Relation.ReflTransGen Change

theorem Evolves.grown {w w' : World} (h : Evolves w w') : Grown w w' := by
  induction h with
  | refl => exact Grown.refl w
  | tail _ hc ih => exact ih.trans hc.grown

/-- What every change keeps is kept. -/
theorem Evolves.keeps {inv : World → Prop} {w w' : World} (h : Evolves w w')
    (hinv : ∀ a b, Change a b → inv a → inv b) (hw : inv w) : inv w' := by
  induction h with
  | refl => exact hw
  | tail _ hc ih => exact hinv _ _ hc ih

/-- The operations count on nothing but the changes of the others. -/
def changeDiscipline (self : Orchestrator) : Pool.Discipline (IsOperation self) Untouched where
  contract := { rely := Evolves, guar := Change }
  inv _ := True
  refl _ := .refl
  trans _ _ _ := .trans
  rely_of_guar _ _ := .single
  rely_of_env _ _ h := .single (.aside (.of_same h.runs h.acts))
  keep _ _ _ _ := trivial
  started _ w hp _ := wp_mono (fun _ _ _ => trivial) (fun _ _ _ => trivial)
    (wp_contract (c := editor) (fun _ _ h => h.grown) (fun _ _ h => h) (fun _ _ h => h)
      (operation_triple hp w trivial))

section Pools

variable {self : Orchestrator} {w : World} {pool pool' : Pool World Answer Failure Unit}

/-- **All that happens to the runs is a sequence of changes.** -/
theorem evolves_of_reaches (h : Pool.Reaches (IsOperation self) Untouched ⟨[], w⟩ pool) :
    Evolves w pool.state :=
  (h.disciplined (Pool.disciplined_empty (d := changeDiscipline self) trivial)).2

theorem change_of_step (h : Pool.Reaches (IsOperation self) Untouched ⟨[], w⟩ pool)
    (hstep : Pool.Step (IsOperation self) Untouched pool pool') : Change pool.state pool'.state := by
  have hd : Pool.Disciplined (changeDiscipline self) pool :=
    (h.disciplined (Pool.disciplined_empty trivial)).1
  rcases hd.step_guar hstep with hsame | henv | hchange
  · rw [hsame]
    exact .aside (.refl _)
  · exact .aside (.of_same henv.runs henv.acts)
  · exact hchange

end Pools

end Runtime
