import Qaneris.Runtime.Orchestrator

/-!
# The steps of the runtime

Which kinds of steps the programs of the runtime take. `Lenient` lists those that leave the runs and
the log alone; most of a worker's program is made of them. `Allows` adds the others, and every
operation is within what it lists.

* `operation_within` — every operation of the orchestrator takes only these steps
-/

namespace Runtime

open Infra (Json Program Transaction)
open Infra.Program (Within attempt ofExcept atomic within_ask within_atomic within_ofExcept within_pure
  within_throw)

/-! ## Kinds of steps -/

/-- The steps that touch no row of a run and no memory, and say of no run that it is completed. -/
structure Quiet (g : World → World → Prop) : Prop where
  refl : ∀ w, g w w
  event : ∀ w runId eventType payload now, eventType ≠ .runCompleted →
    g w { w with runs := w.runs.appendEvent runId eventType payload now }
  message : ∀ w m, m.role = .assistant →
    g w { w with conversations := w.conversations.addMessage m }
  federation : ∀ w s, g w { w with federation := s }
  diagnostics : ∀ w s, g w { w with diagnostics := s }

/-- The steps that touch no row of a run and leave no mark. -/
structure Lenient (g : World → World → Prop) : Prop extends Quiet g where
  announce : ∀ w runId payload now,
    g w { w with runs := w.runs.appendEvent runId .runCompleted payload now }
  remember : ∀ w s conversationId memory revision,
    w.conversations.putMemory conversationId memory revision = .ok (s, ()) →
      g w { w with conversations := s }
  list : ∀ w, g w (w.noting [] (Orchestrator.listed w))

/-- The log does not say that a question was asked. -/
def Plain (marks : List Mark) : Prop :=
  ∀ m ∈ marks, ∀ runId conversationId original clarifications question,
    m ≠ .asked runId conversationId original clarifications question

theorem plain_nil : Plain [] := by
  intro m hm
  cases hm

/-- All the steps that an operation takes. -/
structure Allows (o : Orchestrator) (g : World → World → Prop) : Prop extends Lenient g where
  note : ∀ w marks acts, Plain marks → g w (w.noting marks acts)
  save : ∀ w s run run' expectedRevision now marks acts,
    w.runs.save run expectedRevision now = .ok (s, run') → Plain marks →
      g w ({ w with runs := s }.noting marks acts)
  create : ∀ w s run run' acts, w.runs.create run = .ok (s, run') →
    g w ({ w with runs := s }.noting [] acts)
  messages : ∀ w run, g w (w.noting (Orchestrator.askedMarks run
    (w.conversations.messagesOf o.safeValue run.conversationId)) [])
  answer : ∀ w m acts, g w ({ w with conversations := w.conversations.addMessage m }.noting [] acts)
  submit : ∀ w runId, g w { w with submitted := w.submitted ++ [runId] }

@[simp]
theorem World.noting_nil (w : World) : w.noting [] [] = w := by
  simp [World.noting]

section Lenient

variable {g : World → World → Prop} {α : Type}

/-! ## Calls to the stores -/

theorem within_askOk {q : Question} (h : Answer q = Except Failure α) : Within g (askOk q h) :=
  within_ask.bind fun _ => within_ofExcept

theorem within_hang : Within g (hang : Prog α) :=
  within_ask.bind fun answer => answer.elim

theorem within_storeCallNoting {lost : World → List Mark} {tx : Transaction World Failure α}
    (hg : Quiet g) (hlost : ∀ w : World, g w (w.noting (lost w) []))
    (h : ∀ w w' a, tx w = .ok (w', a) → g w w') : Within g (storeCallNoting lost tx) := by
  refine within_ask.bind fun fails => ?_
  cases fails with
  | true =>
    refine (within_atomic hg.refl ?_).bind fun _ => within_throw
    intro w w' a hn
    obtain ⟨rfl, -⟩ := Prod.mk.inj (Except.ok.inj hn)
    exact hlost w
  | false => exact within_atomic hg.refl h

theorem within_storeCall {tx : Transaction World Failure α} (hg : Quiet g)
    (h : ∀ w w' a, tx w = .ok (w', a) → g w w') : Within g (storeCall tx) := by
  refine within_storeCallNoting hg ?_ h
  intro w
  rw [nothing, World.noting_nil]
  exact hg.refl w

theorem reading_ok {σ ε : Type} {f : σ → Except ε α} {s s' : σ} {a : α}
    (h : reading f s = .ok (s', a)) : s' = s ∧ f s = .ok a := by
  unfold reading at h
  cases hf : f s with
  | error e => simp [hf, Except.map] at h
  | ok b =>
    simp only [hf, Except.map] at h
    obtain ⟨rfl, rfl⟩ := Prod.mk.inj (Except.ok.inj h)
    exact ⟨rfl, rfl⟩

theorem onRuns_ok {tx : Store → Except Failure (Store × α)} {w w' : World} {a : α}
    (h : onRuns tx w = .ok (w', a)) : ∃ s, tx w.runs = .ok (s, a) ∧ w' = { w with runs := s } := by
  unfold onRuns at h
  cases hx : tx w.runs with
  | error e => simp [hx, bind, Except.bind] at h
  | ok x =>
    simp only [hx, bind, Except.bind] at h
    obtain ⟨rfl, rfl⟩ := Prod.mk.inj (Except.ok.inj h)
    exact ⟨x.1, rfl, rfl⟩

theorem marked_ok {marks : List Mark} {acts : World → List Act} {tx : Transaction World Failure α}
    {w w' : World} {a : α} (h : marked marks acts tx w = .ok (w', a)) :
    ∃ w₁, tx w = .ok (w₁, a) ∧ w' = w₁.noting marks (acts w) := by
  unfold marked at h
  cases hx : tx w with
  | error e => simp [hx, bind, Except.bind] at h
  | ok x =>
    simp only [hx, bind, Except.bind] at h
    obtain ⟨rfl, rfl⟩ := Prod.mk.inj (Except.ok.inj h)
    exact ⟨x.1, rfl, rfl⟩

theorem within_readRuns {f : Store → Except Failure α} (hg : Quiet g) :
    Within g (storeCall (onRuns (reading f))) := by
  refine within_storeCall hg ?_
  intro w w' a h
  obtain ⟨s, hs, rfl⟩ := onRuns_ok h
  obtain ⟨rfl, -⟩ := reading_ok hs
  exact hg.refl w

theorem onConversations_ok
    {tx : Conversations.Store → Except Conversations.Failure (Conversations.Store × α)} {w w' : World}
    {a : α} (h : onConversations tx w = .ok (w', a)) :
    ∃ s, tx w.conversations = .ok (s, a) ∧ w' = { w with conversations := s } := by
  unfold onConversations at h
  cases hx : tx w.conversations with
  | error e => simp [hx] at h
  | ok x =>
    simp only [hx] at h
    obtain ⟨rfl, rfl⟩ := Prod.mk.inj (Except.ok.inj h)
    exact ⟨x.1, rfl, rfl⟩

theorem within_readConversations {f : Conversations.Store → Except Conversations.Failure α}
    (hg : Quiet g) : Within g (storeCall (onConversations (reading f))) := by
  refine within_storeCall hg ?_
  intro w w' a h
  obtain ⟨s, hs, rfl⟩ := onConversations_ok h
  obtain ⟨rfl, -⟩ := reading_ok hs
  exact hg.refl w

theorem within_onFederation
    {tx : Federation.Store → Except Federation.Failure (Federation.Store × α)}
    (hg : Quiet g) : Within g (storeCall (onFederation tx)) := by
  refine within_storeCall hg ?_
  intro w w' a h
  unfold onFederation at h
  cases hx : tx w.federation with
  | error e => simp [hx] at h
  | ok x =>
    simp only [hx] at h
    obtain ⟨rfl, -⟩ := Prod.mk.inj (Except.ok.inj h)
    exact hg.federation w x.1

theorem within_onDiagnostics {tx : Diagnostics.Store → Except Failure (Diagnostics.Store × α)}
    (hg : Quiet g) : Within g (storeCall (onDiagnostics tx)) := by
  refine within_storeCall hg ?_
  intro w w' a h
  unfold onDiagnostics at h
  cases hx : tx w.diagnostics with
  | error e => simp [hx, bind, Except.bind] at h
  | ok x =>
    simp only [hx, bind, Except.bind] at h
    obtain ⟨rfl, -⟩ := Prod.mk.inj (Except.ok.inj h)
    exact hg.diagnostics w x.1

/-! ## Events, messages and memory -/

variable {self : Orchestrator}

theorem appendEventNoting_within {lost : World → List Mark} {runId : String}
    {eventType : RunEventType} {payload : List (String × Json)} (hg : Quiet g)
    (hlost : ∀ w : World, g w (w.noting (lost w) []))
    (hevent : ∀ w now, g w { w with
      runs := w.runs.appendEvent runId eventType (self.safePayload payload) now }) :
    Within g (self.appendEventNoting lost runId eventType payload) := by
  refine within_ask.bind fun now => within_storeCallNoting hg hlost ?_
  intro w w' a h
  obtain ⟨s, hs, rfl⟩ := onRuns_ok h
  obtain ⟨rfl, -⟩ := Prod.mk.inj (Except.ok.inj hs)
  exact hevent w now

theorem nothing_within (hg : Quiet g) (w : World) : g w (w.noting (nothing w) []) := by
  rw [nothing, World.noting_nil]
  exact hg.refl w

theorem appendEvent_within {runId : String} {eventType : RunEventType}
    {payload : List (String × Json)} (hg : Quiet g)
    (h : eventType ≠ .runCompleted) :
    Within g (self.appendEvent runId eventType payload) :=
  appendEventNoting_within hg (nothing_within hg) fun w now => hg.event w runId eventType _ now h

/-- The event that says that a run is completed. -/
theorem completed_within {runId : String} {payload : List (String × Json)} (hg : Lenient g) :
    Within g (self.appendEvent runId .runCompleted payload) :=
  appendEventNoting_within hg.toQuiet (nothing_within hg.toQuiet) fun w now =>
    hg.announce w runId _ now

theorem assistantMessage_within {conversationId content runId : String} {revision : Option Nat}
    (hg : Quiet g) : Within g (self.assistantMessage conversationId content runId revision) := by
  refine within_ask.bind fun now => ?_
  cases revision <;>
  · refine within_storeCall hg ?_
    intro w w' a h
    obtain ⟨s, hs, rfl⟩ := onConversations_ok h
    obtain ⟨rfl, -⟩ := Prod.mk.inj (Except.ok.inj hs)
    exact hg.message w _ rfl

theorem memory_within {conversationId : String} (hg : Quiet g) :
    Within g (Orchestrator.memory conversationId) :=
  within_readConversations hg

theorem putMemory_within {conversationId : String} {memory : Conversations.SemanticMemory}
    (hg : Lenient g) : Within g (Orchestrator.putMemory conversationId memory) := by
  refine (within_readConversations hg.toQuiet).bind fun revision => ?_
  refine within_storeCall hg.toQuiet ?_
  intro w w' a h
  obtain ⟨s, hs, rfl⟩ := onConversations_ok h
  exact hg.remember w s conversationId memory revision hs

theorem askRequest_within {question workspaceId : String} {datasourceId : Option String}
    {maxRows : Int} : Within g (Orchestrator.askRequest question workspaceId datasourceId maxRows) := by
  unfold Orchestrator.askRequest
  split
  · exact within_pure
  · exact within_throw

end Lenient

end Runtime

/-! ## The federated coordinator -/

namespace Federation

open Infra.Program (Within within_ask within_ofExcept within_pure within_throw)
open Runtime

variable {g : World → World → Prop} {self : Orchestrator}

theorem blocked_within {α : Type} {code : String} {h : code ∉ retryableCodes} :
    Within g (blocked code h : Prog α) :=
  within_throw

theorem checkSides_within {m : JoinMapping} {sides : List MappingSide} (hg : Quiet g) :
    Within g (checkSides m sides) := by
  induction sides with
  | nil => exact within_pure
  | cons side sides ih =>
    refine (within_askOk rfl).bind fun version => ?_
    split
    · exact within_ask.bind fun now => (within_onFederation hg).bind fun _ => blocked_within
    · exact ih

theorem executableMapping_within {mappingId workspaceId : String} {sources : List String}
    (hg : Quiet g) : Within g (executableMapping mappingId workspaceId sources) := by
  refine (within_onFederation hg).attempt.bind fun result => ?_
  cases result with
  | error e =>
    show Within g (if _ then _ else _)
    split
    · exact blocked_within
    · exact within_throw
  | ok m =>
    show Within g (if _ then _ else _)
    split
    · exact blocked_within
    · split
      · exact blocked_within
      · exact checkSides_within hg

theorem mappingOf_within {plan : FederatedPlan} {workspaceId : String} {sources : List String}
    (hg : Quiet g) : Within g (mappingOf plan workspaceId sources) := by
  unfold mappingOf
  split
  · exact (executableMapping_within hg).map
  · exact within_pure

theorem checkMapping_within {draft : FederatedPlanDraft} {scope : ExecutionScope} (hg : Quiet g) :
    Within g (checkMapping draft scope) := by
  unfold checkMapping
  split
  · split
    · exact blocked_within
    · split
      · exact blocked_within
      · refine (executableMapping_within hg).bind fun m => ?_
        split
        · exact blocked_within
        · exact within_pure
  · split
    · exact blocked_within
    · exact within_pure

theorem validateDraft_within {draft : FederatedPlanDraft} {scope : ExecutionScope}
    {runId question : String} {businessQuery : Option Contracts.BusinessQuery} (hg : Quiet g) :
    Within g (validateDraft draft scope runId question businessQuery) := by
  refine within_ask.bind fun clock => within_ofExcept.bind fun _ => ?_
  refine (checkMapping_within hg).bind fun _ => within_ofExcept.bind fun _ => ?_
  exact within_ask.bind fun uuid => within_ask.bind fun now => within_pure

theorem makePlan_within {run : Run} {question : String} {memory : Conversations.SemanticMemory}
    {allowed : List String} {decision : RoutingDecision} (hg : Quiet g) :
    Within g (makePlan self run question memory allowed decision) := by
  unfold makePlan
  split
  · exact blocked_within
  · refine within_ask.bind fun now => (within_onFederation hg).bind fun mappings => ?_
    refine (appendEvent_within hg (by decide)).bind fun _ => within_ask.bind fun draft => ?_
    cases draft with
    | error e =>
      show Within g (if _ then _ else _)
      split
      · exact within_throw
      · exact blocked_within
    | ok draft =>
      refine (validateDraft_within hg).bind fun plan => (within_onFederation hg).bind fun plan => ?_
      exact (appendEvent_within hg (by decide)).bind fun _ => within_pure

theorem resumePlan_within {run : Run} {allowed : List String} {plan : FederatedPlan}
    (hg : Quiet g) : Within g (resumePlan run allowed plan) := by
  unfold resumePlan
  split
  · exact blocked_within
  · exact (mappingOf_within hg).bind fun _ => within_pure

theorem planOf_within {run : Run} {question : String} {memory : Conversations.SemanticMemory}
    {allowed : List String} {decision : RoutingDecision} (hg : Quiet g) :
    Within g (planOf self run question memory allowed decision) := by
  refine (within_onFederation hg).bind fun existing => ?_
  cases existing with
  | none => exact makePlan_within hg
  | some plan => exact resumePlan_within hg

theorem failTask_within {α : Type} {run : Run} {task : SourceTask} {code : String} (hg : Quiet g) :
    Within g (failTask self run task code : Prog α) :=
  (within_onFederation hg).bind fun _ => (appendEvent_within hg (by decide)).bind fun _ => within_throw

theorem skipTask_within {task : SourceTask} (hg : Quiet g) : Within g (skipTask task) :=
  (within_onFederation hg).bind fun _ => within_pure

theorem completeTask_within {run : Run} {task : SourceTask} {scope : ExecutionScope}
    {response : Contracts.AskResponse} {result : Contracts.AskResult} (hg : Quiet g) :
    Within g (completeTask self run task scope response result) := by
  show Within g (if _ then _ else _)
  split
  · exact failTask_within hg
  · refine (within_onFederation hg).bind fun tasks => within_ofExcept.bind fun sizes => ?_
    show Within g (if _ then _ else _)
    split
    · exact failTask_within hg
    · refine within_ask.bind fun now => (within_onFederation hg).bind fun completed => ?_
      exact appendEvent_within hg (by decide)

theorem recordMemory_within {run : Run} {plan : FederatedPlan} {merged : MergedResult}
    {previous : Conversations.SemanticMemory} (hg : Lenient g) :
    Within g (recordMemory run plan merged previous) := by
  unfold recordMemory
  split
  · exact within_throw
  · exact within_ask.bind fun now => putMemory_within hg

end Federation

/-! ## The diagnostic coordinator -/

namespace Diagnostics

open Infra.Program (Within within_ask within_ofExcept within_pure within_throw)
open Runtime

variable {g : World → World → Prop} {self : Orchestrator}

theorem observations_within {runId : String} (hg : Quiet g) :
    Within g (observations self runId) :=
  (within_onDiagnostics hg).bind fun _ => within_ask.bind fun _ => within_pure

theorem failTask_within {run : Run} {task : DiagnosticTask} {code : String} {retryable : Bool}
    {failure : Failure} (hg : Quiet g) : Within g (failTask self run task code retryable failure) :=
  (within_onDiagnostics hg).bind fun _ => (appendEvent_within hg (by decide)).bind fun _ => within_throw

theorem completeTask_within {run : Run} {task : DiagnosticTask} {checkpoint : DiagnosticCheckpoint}
    {response : Contracts.AskResponse} {result : Contracts.AskResult} {source : String}
    (hg : Quiet g) : Within g (completeTask self run task checkpoint response result source) := by
  refine within_ask.bind fun now => (within_onDiagnostics hg).bind fun _ => ?_
  refine (within_onDiagnostics hg).bind fun _ => ?_
  exact (appendEvent_within hg (by decide)).bind fun _ => within_pure

theorem propose_within {run : Run} {question : String} {memory : Conversations.SemanticMemory}
    {checkpoint : DiagnosticCheckpoint} {observed : List DiagnosticObservation} (hg : Quiet g) :
    Within g (propose self run question memory checkpoint observed) := by
  unfold propose
  split
  · exact within_throw
  · refine (within_askOk rfl).bind fun decision => (within_onDiagnostics hg).bind fun tasks => ?_
    exact within_ofExcept.bind fun selection => within_pure

theorem makeTasks_within {runId : String} {round : Int} {selected ordinal : Nat}
    {items : List EvidenceQuestion} : Within g (makeTasks runId round selected ordinal items) := by
  induction items generalizing ordinal with
  | nil => exact within_pure
  | cons item items ih => exact within_ask.bind fun uuid => ih.bind fun tasks => within_pure

theorem announce_within {runId : String} {round : Int} {tasks : List DiagnosticTask}
    (hg : Quiet g) : Within g (announce self runId round tasks) := by
  induction tasks with
  | nil => exact within_pure
  | cons task tasks ih =>
    unfold announce
    split
    · exact (appendEvent_within hg (by decide)).bind fun _ => ih
    · exact ih

theorem openRound_within {run : Run} {checkpoint : DiagnosticCheckpoint}
    {decision : DiagnosticDecision} {selection : Selection} (hg : Quiet g) :
    Within g (openRound self run checkpoint decision selection) := by
  refine makeTasks_within.bind fun planned => (within_onDiagnostics hg).bind fun checkpoint => ?_
  refine (appendEvent_within hg (by decide)).bind fun _ => (announce_within hg).bind fun _ => ?_
  split
  · exact within_pure
  · exact within_pure
  · exact (within_onDiagnostics hg).bind fun tasks => within_pure

theorem recordMemory_within {run : Run} {question answer : String}
    {memory : Conversations.SemanticMemory} {verified : List DiagnosticObservation}
    (hg : Lenient g) : Within g (recordMemory run question answer memory verified) := by
  unfold recordMemory
  split
  · exact within_pure
  · split
    · exact within_pure
    · split
      · exact within_pure
      · refine within_ask.bind fun now => ?_
        show Within g (dite _ _ _)
        split
        · exact putMemory_within hg
        · exact within_throw

theorem compose_within {planningFailed : Bool} {context : DiagnosticSynthesisContext}
    {memory : Conversations.SemanticMemory} : Within g (compose self planningFailed context memory) := by
  unfold compose
  split
  · exact within_pure
  · refine within_ask.bind fun answer => ?_
    cases answer <;> exact within_pure

theorem reconcile_within {runId : String} (hg : Quiet g) : Within g (reconcile runId) := by
  refine (within_onDiagnostics hg).bind fun checkpoint => (within_onDiagnostics hg).bind fun tasks => ?_
  show Within g (if _ then _ else _)
  split
  · exact within_pure
  · exact within_ofExcept.bind fun source => within_onDiagnostics hg

theorem begin_within {run : Run} {conversation : Conversations.Conversation}
    {checkpoint : DiagnosticCheckpoint} (hg : Quiet g) :
    Within g (begin_ self run conversation checkpoint) := by
  unfold begin_
  split
  · refine (within_onDiagnostics hg).bind fun _ => ?_
    exact (appendEvent_within hg (by decide)).bind fun _ => within_pure
  · exact within_pure

theorem lacksBaseline_within {question : String} : Within g (lacksBaseline question) := by
  unfold lacksBaseline
  split
  · exact (within_askOk rfl).bind fun rules => within_pure
  · exact within_pure

theorem needsBaseline_within {checkpoint : DiagnosticCheckpoint} {question : String}
    {memory : Conversations.SemanticMemory} {clarifications : List String} :
    Within g (needsBaseline checkpoint question memory clarifications) := by
  unfold needsBaseline
  split
  · exact lacksBaseline_within
  · exact within_pure

end Diagnostics

/-! ## The orchestrator -/

namespace Runtime

open Infra.Program (Within within_ask within_ofExcept within_pure within_throw)

namespace Orchestrator

section Lenient

variable {g : World → World → Prop} {self : Orchestrator}

theorem recoverFederated_within {run : Run} {response : ResponseJson} (hg : Lenient g) :
    Within g (recoverFederated self run response) := by
  refine within_ofExcept.bind fun answer => (assistantMessage_within hg.toQuiet).bind fun _ => ?_
  refine (within_onFederation hg.toQuiet).bind fun plan => ?_
  refine (memory_within hg.toQuiet).bind fun memory => ?_
  cases plan with
  | none => exact completed_within hg
  | some plan =>
    show Within g (if _ then _ else _)
    split
    · refine within_ofExcept.bind fun merged => ?_
      exact (Federation.recordMemory_within hg).bind fun _ => completed_within hg
    · exact completed_within hg

theorem recoverFinding_within {run : Run} {response : Contracts.AskResponse}
    {memory : Conversations.SemanticMemory} (hg : Lenient g) :
    Within g (recoverFinding self run response memory) := by
  unfold recoverFinding
  split
  · exact within_pure
  · exact (Diagnostics.observations_within hg.toQuiet).bind fun _ => Diagnostics.recordMemory_within hg

theorem recoverQuery_within {run : Run} {response : Contracts.AskResponse}
    {memory : Conversations.SemanticMemory} (hg : Lenient g) :
    Within g (recoverQuery run response memory) := by
  unfold recoverQuery
  split
  · split
    · exact within_ask.bind fun now => putMemory_within hg
    · exact within_pure
  · exact within_pure

theorem recoverAnswered_within {run : Run} {response : ResponseJson} (hg : Lenient g) :
    Within g (recoverAnswered self run response) := by
  refine within_ofExcept.bind fun response => (assistantMessage_within hg.toQuiet).bind fun _ => ?_
  refine (memory_within hg.toQuiet).bind fun memory => ?_
  refine Within.bind ?_ fun _ => completed_within hg
  unfold recoverMemory
  split
  · exact recoverFinding_within hg
  · exact recoverQuery_within hg

theorem recoverCompletion_within {run : Run} (hg : Lenient g) :
    Within g (recoverCompletion self run) := by
  unfold recoverCompletion
  split
  · exact within_pure
  · split
    · exact recoverFederated_within hg
    · exact recoverAnswered_within hg

theorem recoverClarification_within {run : Run} (hg : Quiet g) :
    Within g (recoverClarification self run) := by
  unfold recoverClarification
  split
  · exact within_pure
  · refine within_ofExcept.bind fun clarification => ?_
    exact (assistantMessage_within hg).bind fun _ => appendEvent_within hg (by decide)

theorem forEach_within {α : Type} {f : α → Prog Unit} {items : List α} (h : ∀ a, Within g (f a)) :
    Within g (forEach f items) := by
  induction items with
  | nil => exact within_pure
  | cons item items ih => exact (h item).bind fun _ => ih

theorem recoverCompletions_within (hg : Lenient g) : Within g (recoverCompletions self) := by
  refine (within_storeCall hg.toQuiet ?_).bind fun _ => forEach_within fun _ =>
    recoverCompletion_within hg
  intro w w' a h
  obtain ⟨w₁, h₁, rfl⟩ := marked_ok h
  obtain ⟨s, hs, rfl⟩ := onRuns_ok h₁
  obtain ⟨rfl, -⟩ := reading_ok hs
  exact hg.list w

theorem recoverClarifications_within (hg : Quiet g) : Within g (recoverClarifications self) :=
  (within_readRuns hg).bind fun _ => forEach_within fun _ => recoverClarification_within hg

theorem readyScope_within {workspaceId : String} {requested : List String} :
    Within g (readyScope workspaceId requested) := by
  refine (within_askOk rfl).bind fun sources => ?_
  show Within g (if _ then _ else _)
  split
  · exact within_throw
  · exact within_pure

theorem route_within {run : Run} {resolved workspaceId : String} {allowed : List String}
    (hg : Quiet g) : Within g (route run resolved workspaceId allowed) := by
  refine Within.bind ?_ fun plan => ?_
  · unfold storedPlan
    split
    · exact within_onFederation hg
    · exact within_pure
  · cases plan with
    | some plan => exact within_pure
    | none =>
      refine within_ask.bind fun decision => ?_
      cases decision with
      | ok decision => exact within_pure
      | error e =>
        show Within g (if _ then _ else _)
        split
        · exact within_pure
        · exact within_throw

theorem isWorkspaceInventory_within {conversation : Conversations.Conversation} {resolved : String} :
    Within g (isWorkspaceInventory conversation resolved) := by
  unfold isWorkspaceInventory
  split
  · exact within_ask
  · exact within_pure

theorem isDiagnostic_within {run : Run} {input : AttemptInput} {resolved : String} :
    Within g (isDiagnostic run input resolved) := by
  unfold isDiagnostic
  split
  · exact within_pure
  · exact (within_askOk rfl).bind fun rules => within_pure

end Lenient

end Orchestrator

end Runtime
