import Qaneris.Runtime.Properties.Changes
import Qaneris.Runtime.Properties.Clarifications
import Qaneris.Runtime.Recovery

/-!
# Recovery

The two recoveries when nobody else acts: what they do with each run that they find, and when they get
through.

* `recoverBoth_total` — they raise nothing but what the database raises, when all that they read fits,
  and leave nothing to be done again
* `rerouted_prompt_raises` — a waiting run whose response does not fit its kind
-/

namespace Runtime

open Contracts (AskResponse Instant)
open Infra (Json Pool Program Transaction)
open Infra.Program (Contract Reaches attempt ofExcept atomic solo wp_bind wp_mono wp_ofExcept wp_pure)

/-! ## Programs on their own -/

theorem solo_mild {g : World → World → Prop} (hg : ∀ w, g w w) : Mild (solo g) where
  rely_refl _ := rfl
  rely_trans _ _ _ hab hbd := hbd.trans hab
  guar_refl := hg
  may _ _ := trivial

section Solo

variable {α : Type} {g : World → World → Prop} {post : α → World → Prop}
  {exc : Failure → World → Prop} {w : World}

theorem solo_ask {q : Question} {post : Answer q → World → Prop} (h : ∀ r, post r w) :
    (ask q).wp (solo g) post exc w := by
  rintro w' rfl
  exact ⟨trivial, h⟩

/-- A call to a store: the database fails, or the transaction is made. -/
theorem solo_storeCall {tx : Transaction World Failure α} (hg : ∀ w, g w w)
    (hdb : exc .operational w) (hok : ∀ w' a, tx w = .ok (w', a) → g w w' ∧ post a w')
    (herr : ∀ e, tx w = .error e → exc e w) : (storeCall tx).wp (solo g) post exc w := by
  refine wp_storeCallNoting (solo_mild hg) ?_ ?_ ?_
  · rintro w' rfl
    rw [nothing, World.noting_nil]
    exact ⟨hg w', hdb⟩
  · rintro w' w'' a rfl htx
    exact hok w'' a htx
  · rintro w' e rfl htx
    exact herr e htx

theorem solo_readRuns {f : Store → Except Failure α} (hg : ∀ w, g w w) (hdb : exc .operational w)
    (hok : ∀ a, f w.runs = .ok a → post a w) (herr : ∀ e, f w.runs = .error e → exc e w) :
    (storeCall (onRuns (reading f))).wp (solo g) post exc w := by
  refine solo_storeCall hg hdb ?_ ?_
  · intro w' a h
    obtain ⟨s, hs, rfl⟩ := onRuns_ok h
    obtain ⟨rfl, ha⟩ := reading_ok hs
    exact ⟨hg w, hok a ha⟩
  · intro e h
    refine herr e ?_
    cases hf : f w.runs with
    | error e' =>
      simp only [onRuns, reading, hf, Except.map, bind, Except.bind, Except.error.injEq] at h
      rw [h]
    | ok a => simp [onRuns, reading, hf, Except.map, bind, Except.bind, pure, Except.pure] at h

theorem solo_readFederation {f : Federation.Store → α} (hg : ∀ w, g w w)
    (hdb : exc .operational w) (h : post (f w.federation) w) :
    (storeCall (onFederation (reading fun s => .ok (f s)))).wp (solo g) post exc w := by
  refine solo_storeCall hg hdb ?_ ?_
  · intro w' a h'
    simp only [onFederation, reading, Except.map, Except.ok.injEq, Prod.mk.injEq] at h'
    obtain ⟨rfl, rfl⟩ := h'
    exact ⟨hg w, h⟩
  · intro e h'
    simp [onFederation, reading, Except.map] at h'

theorem solo_readDiagnostics {f : Diagnostics.Store → α} (hg : ∀ w, g w w)
    (hdb : exc .operational w) (h : post (f w.diagnostics) w) :
    (storeCall (onDiagnostics (reading fun s => .ok (f s)))).wp (solo g) post exc w := by
  refine solo_storeCall hg hdb ?_ ?_
  · intro w' a h'
    simp only [onDiagnostics, reading, Except.map, bind, Except.bind, pure, Except.pure,
      Except.ok.injEq, Prod.mk.injEq] at h'
    obtain ⟨rfl, rfl⟩ := h'
    exact ⟨hg w, h⟩
  · intro e h'
    simp [onDiagnostics, reading, Except.map, bind, Except.bind, pure, Except.pure] at h'

variable {self : Orchestrator}

theorem solo_appendEvent {runId : String} {eventType : RunEventType}
    {payload : List (String × Json)} {post : Unit → World → Prop} (hg : ∀ w, g w w)
    (hdb : exc .operational w)
    (h : ∀ payload now, g w { w with runs := w.runs.appendEvent runId eventType payload now } ∧
      post () { w with runs := w.runs.appendEvent runId eventType payload now }) :
    (self.appendEvent runId eventType payload).wp (solo g) post exc w := by
  refine wp_bind (solo_ask fun now => solo_storeCall hg hdb ?_ ?_)
  · intro w' a h'
    obtain ⟨s, hs, rfl⟩ := onRuns_ok h'
    obtain ⟨rfl, -⟩ := Prod.mk.inj (Except.ok.inj hs)
    exact h _ now
  · intro e h'
    simp [onRuns, bind, Except.bind, pure, Except.pure] at h'

/-- The identifier of a message of the assistant. -/
def assistantId (self : Orchestrator) (runId : String) : Option Nat → String
  | none => self.uuid5 ("assistant:" ++ runId)
  | some revision => self.uuid5 ("clarification:" ++ runId ++ ":" ++ Nat.repr revision)

theorem solo_assistantMessage {conversationId content runId : String} {revision : Option Nat}
    {post : Unit → World → Prop} (hg : ∀ w, g w w) (hdb : exc .operational w)
    (h : ∀ m : Conversations.Message, m.messageId = assistantId self runId revision →
      g w { w with conversations := w.conversations.addMessage m } ∧
        post () { w with conversations := w.conversations.addMessage m }) :
    (self.assistantMessage conversationId content runId revision).wp (solo g) post exc w := by
  refine wp_bind (solo_ask fun now => ?_)
  cases revision with
  | none =>
    refine solo_storeCall hg hdb ?_ fun e h' => by simp [onConversations] at h'
    intro w' a h'
    obtain ⟨s, hs, rfl⟩ := onConversations_ok h'
    obtain ⟨rfl, -⟩ := Prod.mk.inj (Except.ok.inj hs)
    exact h _ rfl
  | some revision =>
    refine solo_storeCall hg hdb ?_ fun e h' => by simp [onConversations] at h'
    intro w' a h'
    obtain ⟨s, hs, rfl⟩ := onConversations_ok h'
    obtain ⟨rfl, -⟩ := Prod.mk.inj (Except.ok.inj hs)
    exact h _ rfl

theorem solo_memory {conversationId : String} {post : Conversations.SemanticMemory → World → Prop}
    (hg : ∀ w, g w w) (hdb : exc .operational w)
    (hok : ∀ memory, (w.conversations.memoryRow conversationId).isOk → post memory w)
    (herr : ∀ e, ¬ (w.conversations.memoryRow conversationId).isOk → exc e w) :
    (Orchestrator.memory conversationId).wp (solo g) post exc w := by
  refine solo_storeCall hg hdb ?_ ?_
  · intro w' memory h
    obtain ⟨s, hs, rfl⟩ := onConversations_ok h
    obtain ⟨rfl, hm⟩ := reading_ok hs
    refine ⟨hg w, hok memory ?_⟩
    cases hrow : w.conversations.memoryRow conversationId with
    | error e => simp [Conversations.Store.memory, hrow, Except.map] at hm
    | ok row => rfl
  · intro e h
    refine herr e fun hrow => ?_
    cases hm : w.conversations.memoryRow conversationId with
    | error e =>
      rw [hm] at hrow
      cases hrow
    | ok row =>
      simp [onConversations, reading, Conversations.Store.memory, hm, Except.map] at h

/-- Nobody else writes the memory, so that it is at the revision that was read. -/
theorem solo_putMemory {conversationId : String} {memory : Conversations.SemanticMemory}
    {post : Unit → World → Prop} (hg : ∀ w, g w w) (hdb : exc .operational w)
    (hrow : (w.conversations.memoryRow conversationId).isOk)
    (h : ∀ s : Conversations.Store, s.messages = w.conversations.messages →
      (∀ id, (s.memoryRow id).isOk = (w.conversations.memoryRow id).isOk) →
        g w { w with conversations := s } ∧ post () { w with conversations := s }) :
    (Orchestrator.putMemory conversationId memory).wp (solo g) post exc w := by
  cases hm : w.conversations.memoryRow conversationId with
  | error e =>
    rw [hm] at hrow
    cases hrow
  | ok row =>
    have hread : ∀ revision, w.conversations.memoryRevision conversationId = .ok revision →
        row.revision = revision := by
      intro revision hr
      simp only [Conversations.Store.memoryRevision, hm, Except.map, Except.ok.injEq] at hr
      exact hr
    refine wp_bind (solo_storeCall hg hdb ?_ ?_)
    · intro w' revision h'
      obtain ⟨s, hs, rfl⟩ := onConversations_ok h'
      obtain ⟨rfl, hr⟩ := reading_ok hs
      refine ⟨hg w, solo_storeCall hg hdb ?_ ?_⟩
      · intro w'' a h''
        obtain ⟨s, hs, rfl⟩ := onConversations_ok h''
        obtain ⟨-, hmessages, row', -, -, hself, hother⟩ := Conversations.Store.putMemory_ok hs
        refine h s hmessages fun id => ?_
        by_cases hid : id = conversationId
        · rw [hid, hself, hm]
          rfl
        · rw [hother id hid]
      · intro e h''
        simp [onConversations, Conversations.Store.putMemory, hm, hread revision hr] at h''
    · intro e h'
      simp [onConversations, reading, Conversations.Store.memoryRevision, hm, Except.map] at h'

end Solo

/-! ## What a recovery changes -/

/-- Only these runs get events; no row of a run changes, and no message is lost. -/
structure Recovered (ids : String → Prop) (w w' : World) : Prop where
  rows : w'.runs.runs = w.runs.runs
  events : ∃ more, w'.runs.events = w.runs.events ++ more ∧ ∀ e ∈ more, ids e.runId
  messages : ∀ m ∈ w.conversations.messages, m ∈ w'.conversations.messages
  memories : ∀ id, (w'.conversations.memoryRow id).isOk = (w.conversations.memoryRow id).isOk
  federation : w'.federation = w.federation
  diagnostics : w'.diagnostics = w.diagnostics
  submitted : w'.submitted = w.submitted

namespace Recovered

variable {ids ids' : String → Prop} {w w' a b d : World}

theorem refl (w : World) : Recovered ids w w :=
  ⟨rfl, ⟨[], by simp, by simp⟩, fun _ h => h, fun _ => rfl, rfl, rfl, rfl⟩

theorem trans (hab : Recovered ids a b) (hbd : Recovered ids b d) : Recovered ids a d := by
  obtain ⟨more₁, he₁, hids₁⟩ := hab.events
  obtain ⟨more₂, he₂, hids₂⟩ := hbd.events
  refine ⟨hbd.rows.trans hab.rows, ⟨more₁ ++ more₂, by rw [he₂, he₁, List.append_assoc], ?_⟩,
    fun m hm => hbd.messages m (hab.messages m hm),
    fun id => (hbd.memories id).trans (hab.memories id), hbd.federation.trans hab.federation,
    hbd.diagnostics.trans hab.diagnostics, hbd.submitted.trans hab.submitted⟩
  intro e he
  rcases List.mem_append.mp he with he | he
  · exact hids₁ e he
  · exact hids₂ e he

theorem mono (h : Recovered ids w w') (hids : ∀ id, ids id → ids' id) : Recovered ids' w w' := by
  obtain ⟨more, he, hmore⟩ := h.events
  exact ⟨h.rows, ⟨more, he, fun e hm => hids _ (hmore e hm)⟩, h.messages, h.memories, h.federation,
    h.diagnostics, h.submitted⟩

theorem row (h : Recovered ids w w') (runId : String) :
    w'.runs.row runId = w.runs.row runId := by
  unfold Store.row
  rw [h.rows]

theorem noting (w : World) (acts : List Act) : Recovered ids w (w.noting [] acts) :=
  ⟨rfl, ⟨[], by simp [World.noting], by simp⟩, fun _ h => h, fun _ => rfl, rfl, rfl, rfl⟩

theorem message (w : World) (m : Conversations.Message) :
    Recovered ids w { w with conversations := w.conversations.addMessage m } := by
  refine ⟨rfl, ⟨[], by simp, by simp⟩, fun m' hm => ?_, fun id => ?_, rfl, rfl, rfl⟩
  · show m' ∈ (w.conversations.addMessage m).messages
    unfold Conversations.Store.addMessage
    split
    · exact hm
    · exact List.mem_append_left _ hm
  · unfold Conversations.Store.addMessage
    split <;> rfl

theorem memory {s : Conversations.Store} (hm : s.messages = w.conversations.messages)
    (hr : ∀ id, (s.memoryRow id).isOk = (w.conversations.memoryRow id).isOk) :
    Recovered ids w { w with conversations := s } := by
  refine ⟨rfl, ⟨[], by simp, by simp⟩, fun m h => ?_, hr, rfl, rfl, rfl⟩
  rw [← hm] at h
  exact h

theorem event (w : World) {runId : String} (h : ids runId) (eventType : RunEventType)
    (payload : List (String × Json)) (now : Instant) :
    Recovered ids w { w with runs := w.runs.appendEvent runId eventType payload now } := by
  refine ⟨rfl, ⟨_, rfl, fun e he => ?_⟩, fun _ h => h, fun _ => rfl, rfl, rfl, rfl⟩
  obtain rfl := List.mem_singleton.mp he
  exact h

end Recovered

/-- There is an event that says that the run is completed. -/
def Announced (runId : String) (w : World) : Prop :=
  ∃ e ∈ w.runs.events, e.runId = runId ∧ e.eventType = .runCompleted

theorem Recovered.announced {ids : String → Prop} {runId : String} {w w' : World}
    (h : Recovered ids w w') (hw : Announced runId w) : Announced runId w' := by
  obtain ⟨e, he, hrun⟩ := hw
  obtain ⟨more, hevents, -⟩ := h.events
  exact ⟨e, by rw [hevents]; exact List.mem_append_left _ he, hrun⟩

theorem announced_append (w : World) (runId : String) (payload : List (String × Json))
    (now : Instant) :
    Announced runId { w with runs := w.runs.appendEvent runId .runCompleted payload now } := by
  refine ⟨_, List.mem_append_right _ (List.mem_singleton.mpr rfl), rfl, rfl⟩

/-! ## One completed run -/

section Completion

variable {self : Orchestrator} {run : Run} {exc : Failure → World → Prop} {w w₁ : World}

/-- What the recovery of a completed run leaves. -/
def CompletionDone (run : Run) (w w' : World) : Prop :=
  Recovered (· = run.runId) w w' ∧ (run.responseJson.isSome → Announced run.runId w')

/-- The event that ends a recovery. -/
theorem announce_wp (hdb : ∀ w, exc .operational w) (hr : Recovered (· = run.runId) w w₁) :
    (self.appendEvent run.runId .runCompleted []).wp (solo fun _ _ => True)
      (fun _ => CompletionDone run w) exc w₁ :=
  solo_appendEvent (fun _ => trivial) (hdb w₁) fun payload now =>
    ⟨trivial, hr.trans (.event w₁ (by rfl) _ payload now), fun _ => announced_append w₁ _ payload now⟩

theorem putMemory_wp {memory : Conversations.SemanticMemory} (hdb : ∀ w, exc .operational w)
    (hrow : (w.conversations.memoryRow run.conversationId).isOk)
    (hr : Recovered (· = run.runId) w w₁) :
    (Orchestrator.putMemory run.conversationId memory).wp (solo fun _ _ => True)
      (fun _ => Recovered (· = run.runId) w) exc w₁ := by
  refine solo_putMemory (fun _ => trivial) (hdb w₁) ?_ fun s hm hrows =>
    ⟨trivial, hr.trans (.memory hm hrows)⟩
  rw [hr.memories]
  exact hrow

theorem recoverFederated_wp {response : ResponseJson} (hresponse : run.responseJson = some response)
    (hkind : run.runKind = .federated) (hdb : ∀ w, exc .operational w)
    (hexc : ∀ e w', ¬ CompletionFits self w run → exc e w') :
    (Orchestrator.recoverFederated self run response).wp (solo fun _ _ => True)
      (fun _ => CompletionDone run w) exc w := by
  have hanswer : CompletionFits self w run → ∃ answer, response = .federated answer :=
    fun hfits => (hfits.response response hresponse).federated hkind
  refine wp_bind (wp_ofExcept (fun text _ => ?_) fun e he => hexc e w fun hfits => ?_)
  · refine wp_bind (solo_assistantMessage (fun _ => trivial) (hdb w) fun m _ => ⟨trivial, ?_⟩)
    have hr₁ : Recovered (· = run.runId) w { w with conversations := w.conversations.addMessage m } :=
      .message w m
    generalize { w with conversations := w.conversations.addMessage m } = w₁ at hr₁ ⊢
    refine wp_bind (solo_readFederation (fun _ => trivial) (hdb w₁) ?_)
    rw [hr₁.federation]
    refine wp_bind (solo_memory (fun _ => trivial) (hdb w₁) (fun memory hrow => ?_)
      fun e hrow => hexc e w₁ fun hfits => hrow ?_)
    · rw [hr₁.memories] at hrow
      cases hplan : w.federation.plan run.runId with
      | none => exact announce_wp hdb hr₁
      | some plan =>
        show (if _ then _ else _ : Prog Unit).wp _ _ _ _
        split
        · refine wp_bind (wp_ofExcept (fun merged _ => ?_) fun e he => hexc e w₁ fun hfits => ?_)
          · unfold Federation.recordMemory
            cases hquery : plan.businessQuery with
            | none =>
              refine wp_bind (hexc .validation w₁ fun hfits => ?_)
              have hsome := hfits.plan plan hplan
              rw [hquery] at hsome
              cases hsome
            | some query =>
              refine wp_bind (wp_bind (solo_ask fun now => ?_))
              exact wp_mono (fun _ w₂ hr₂ => announce_wp hdb hr₂) (fun _ _ h => h)
                (putMemory_wp hdb hrow hr₁)
          · obtain ⟨answer, rfl⟩ := hanswer hfits
            cases he
        · exact announce_wp hdb hr₁
    · rw [hr₁.memories]
      exact hfits.memory
  · obtain ⟨answer, rfl⟩ := hanswer hfits
    cases he

/-- What the memory takes of a diagnosis. -/
theorem recordFinding_wp {question answer : String} {memory : Conversations.SemanticMemory}
    {verified : List Diagnostics.DiagnosticObservation} (hdb : ∀ w, exc .operational w)
    (hrow : (w.conversations.memoryRow run.conversationId).isOk)
    (hr : Recovered (· = run.runId) w w₁)
    (hexc : ∀ e w', ¬ (∀ item ∈ verified, item.evidenceRef.isSome) → exc e w') :
    (Diagnostics.recordMemory run question answer memory verified).wp (solo fun _ _ => True)
      (fun _ => Recovered (· = run.runId) w) exc w₁ := by
  unfold Diagnostics.recordMemory
  split
  · exact wp_pure hr
  · next first rest =>
    split
    · exact wp_pure hr
    · split
      · exact wp_pure hr
      · refine wp_bind (solo_ask fun now => ?_)
        show (dite _ _ _ : Prog Unit).wp _ _ _ _
        split
        · exact putMemory_wp hdb hrow hr
        · next hrefs =>
          refine hexc .validation w₁ fun hall => hrefs ?_
          obtain ⟨ref, href⟩ := Option.isSome_iff_exists.mp (hall first List.mem_cons_self)
          rw [List.filterMap_cons, href]
          simp

theorem recoverFinding_wp {response : AskResponse} {memory : Conversations.SemanticMemory}
    (hdb : ∀ w, exc .operational w)
    (hrow : (w.conversations.memoryRow run.conversationId).isOk)
    (hr : Recovered (· = run.runId) w w₁)
    (hexc : ∀ e w', ¬ FindingFits self w run.runId → exc e w') :
    (Orchestrator.recoverFinding self run response memory).wp (solo fun _ _ => True)
      (fun _ => Recovered (· = run.runId) w) exc w₁ := by
  unfold Orchestrator.recoverFinding
  split
  · exact wp_pure hr
  · refine wp_bind (wp_bind (solo_readDiagnostics (fun _ => trivial) (hdb w₁) ?_))
    refine wp_bind (solo_ask fun now => wp_pure ?_)
    refine recordFinding_wp hdb hrow hr fun e w' hmisfit => hexc e w' fun hfits => hmisfit ?_
    intro item hitem
    obtain ⟨hmem, hverified⟩ := List.mem_filter.mp hitem
    obtain ⟨task, htask, hobserve⟩ := List.mem_filterMap.mp hmem
    rw [hr.diagnostics] at htask
    exact hfits task htask now item hobserve hverified

theorem recoverMemory_wp {response : AskResponse} {memory : Conversations.SemanticMemory}
    (hdb : ∀ w, exc .operational w)
    (hrow : (w.conversations.memoryRow run.conversationId).isOk)
    (hr : Recovered (· = run.runId) w w₁)
    (hexc : ∀ e w', ¬ (run.runKind = .diagnostic → FindingFits self w run.runId) → exc e w') :
    (Orchestrator.recoverMemory self run response memory).wp (solo fun _ _ => True)
      (fun _ => Recovered (· = run.runId) w) exc w₁ := by
  unfold Orchestrator.recoverMemory
  split
  · next hkind =>
    exact recoverFinding_wp hdb hrow hr fun e w' hmisfit => hexc e w' fun hfits =>
      hmisfit (hfits hkind)
  · unfold Orchestrator.recoverQuery
    split
    · split
      · exact wp_bind (solo_ask fun now => putMemory_wp hdb hrow hr)
      · exact wp_pure hr
    · exact wp_pure hr

theorem recoverAnswered_wp {response : ResponseJson} (hresponse : run.responseJson = some response)
    (hkind : run.runKind ≠ .federated) (hdb : ∀ w, exc .operational w)
    (hexc : ∀ e w', ¬ CompletionFits self w run → exc e w') :
    (Orchestrator.recoverAnswered self run response).wp (solo fun _ _ => True)
      (fun _ => CompletionDone run w) exc w := by
  refine wp_bind (wp_ofExcept (fun answered _ => ?_) fun e he => hexc e w fun hfits => ?_)
  · refine wp_bind (solo_assistantMessage (fun _ => trivial) (hdb w) fun m _ => ⟨trivial, ?_⟩)
    have hr₁ : Recovered (· = run.runId) w { w with conversations := w.conversations.addMessage m } :=
      .message w m
    generalize { w with conversations := w.conversations.addMessage m } = w₁ at hr₁ ⊢
    refine wp_bind (solo_memory (fun _ => trivial) (hdb w₁) (fun memory hrow => ?_)
      fun e hrow => hexc e w₁ fun hfits => hrow ?_)
    · rw [hr₁.memories] at hrow
      exact wp_bind (wp_mono (fun _ w₂ hr₂ => announce_wp hdb hr₂) (fun _ _ h => h)
        (recoverMemory_wp hdb hrow hr₁ fun e w' hmisfit => hexc e w' fun hfits =>
          hmisfit hfits.finding))
    · rw [hr₁.memories]
      exact hfits.memory
  · obtain ⟨answer, rfl⟩ := (hfits.response response hresponse).ask hkind
    cases he

/-- **A completed run is recovered when its response fits**, and else nothing is said of how it
fails. -/
theorem recoverCompletion_wp (hdb : ∀ w, exc .operational w)
    (hexc : ∀ e w', ¬ CompletionFits self w run → exc e w') :
    (Orchestrator.recoverCompletion self run).wp (solo fun _ _ => True)
      (fun _ => CompletionDone run w) exc w := by
  unfold Orchestrator.recoverCompletion
  split
  · next hnone => exact wp_pure ⟨.refl w, fun hsome => by rw [hnone] at hsome; cases hsome⟩
  · next response hresponse =>
    split
    · next hkind => exact recoverFederated_wp hresponse hkind hdb hexc
    · next hkind => exact recoverAnswered_wp hresponse hkind hdb hexc

end Completion

/-! ## One waiting run -/

section Clarification

variable {self : Orchestrator} {run : Run} {exc : Failure → World → Prop} {w : World}

/-- The user was asked, and the last event of the run says so. -/
def Asked (self : Orchestrator) (run : Run) (w : World) : Prop :=
  Prompted self w run ∧ ¬ Unasked w run.runId

/-- What the recovery of a waiting run leaves. -/
def ClarificationDone (self : Orchestrator) (run : Run) (w w' : World) : Prop :=
  Recovered (fun id => run.responseJson.isSome ∧ id = run.runId) w w' ∧
    (run.responseJson.isSome → Asked self run w')

theorem addMessage_stored (s : Conversations.Store) (m : Conversations.Message) :
    ∃ m' ∈ (s.addMessage m).messages, m'.messageId = m.messageId := by
  unfold Conversations.Store.addMessage
  split
  · next h =>
    obtain ⟨m', hm, hid⟩ := List.any_eq_true.mp h
    exact ⟨m', hm, by simpa using hid⟩
  · exact ⟨m, List.mem_append_right _ (List.mem_singleton.mpr rfl), rfl⟩

theorem asked_append {w : World} (hp : Prompted self w run) (payload : List (String × Json))
    (now : Instant) :
    Asked self run { w with
      runs := w.runs.appendEvent run.runId .clarificationRequired payload now } := by
  refine ⟨hp, fun hunasked => ?_⟩
  have hlast := Store.lastEvent_appendEvent w.runs run.runId .clarificationRequired payload now
  obtain ⟨e, he, htype⟩ := Option.map_eq_some_iff.mp hlast
  have hne : (some e).any (fun e => e.eventType ≠ .clarificationRequired) = true := by
    rw [← he]
    exact hunasked
  simp [htype] at hne

/-- **A waiting run is recovered when its response fits**, and else nothing is said of how it fails. -/
theorem recoverClarification_wp (hdb : ∀ w, exc .operational w)
    (hexc : ∀ e w', ¬ ClarificationFits run → exc e w') :
    (Orchestrator.recoverClarification self run).wp (solo fun _ _ => True)
      (fun _ => ClarificationDone self run w) exc w := by
  unfold Orchestrator.recoverClarification
  split
  · next hnone =>
    refine wp_pure ⟨.refl w, fun hsome => ?_⟩
    rw [hnone] at hsome
    cases hsome
  · next response hresponse =>
    refine wp_bind (wp_ofExcept (fun text _ => ?_) fun e he => hexc e w fun hfits => ?_)
    · refine wp_bind (solo_assistantMessage (fun _ => trivial) (hdb w) fun m hm => ⟨trivial, ?_⟩)
      refine solo_appendEvent (fun _ => trivial) (hdb _) fun payload now => ⟨trivial, ?_⟩
      have hr : Recovered (fun id => run.responseJson.isSome ∧ id = run.runId) w { w with
          conversations := w.conversations.addMessage m } := .message w m
      have hsome : run.responseJson.isSome := by
        rw [hresponse]
        rfl
      obtain ⟨m', hm', hid⟩ := addMessage_stored w.conversations m
      have hprompted : Prompted self { w with conversations := w.conversations.addMessage m } run :=
        ⟨m', hm', hid.trans hm⟩
      exact ⟨hr.trans (.event { w with conversations := w.conversations.addMessage m }
        ⟨hsome, rfl⟩ _ payload now), fun _ => asked_append hprompted payload now⟩
    · have hok := hfits.isOk hresponse
      rw [he] at hok
      cases hok

end Clarification

/-! ## The two recoveries -/

section Both

variable {self : Orchestrator} {exc : Failure → World → Prop} {w : World}

/-- One program for each item; what each needs is left true by those before it. -/
theorem forEach_wp {α : Type} {f : α → Prog Unit} {items : List α} (inv : List α → World → Prop)
    {w : World}
    (h : ∀ before item after, items = before ++ item :: after → ∀ w, inv before w →
      (f item).wp (solo fun _ _ => True) (fun _ => inv (before ++ [item])) exc w)
    (hw : inv [] w) :
    (Orchestrator.forEach f items).wp (solo fun _ _ => True) (fun _ => inv items) exc w := by
  suffices hall : ∀ before after, items = before ++ after → ∀ w, inv before w →
      (Orchestrator.forEach f after).wp (solo fun _ _ => True) (fun _ => inv items) exc w from
    hall [] items rfl w hw
  intro before after
  induction after generalizing before with
  | nil =>
    intro heq w hw
    rw [heq, List.append_nil]
    exact wp_pure hw
  | cons item after ih =>
    intro heq w hw
    refine wp_bind (wp_mono (fun _ w' hw' => ?_) (fun _ _ h => h) (h before item after heq w hw))
    exact ih (before ++ [item]) (by simp [heq]) w' hw'

/-- What fits still fits after other runs were recovered. -/
theorem Recovered.completionFits {ids : String → Prop} {w' : World} {run : Run}
    (h : Recovered ids w w') (hfits : CompletionFits self w run) : CompletionFits self w' run := by
  refine ⟨hfits.response, ?_, ?_, ?_⟩
  · rw [h.memories]
    exact hfits.memory
  · rw [h.federation]
    exact hfits.plan
  · unfold FindingFits
    rw [h.diagnostics]
    exact hfits.finding

/-- The completed runs that lack their event. -/
def Incomplete (w : World) (id : String) : Prop :=
  ∃ run ∈ w.runs.incompleteCompletions, run.runId = id

theorem recoverCompletions_wp (hdb : ∀ w, exc .operational w)
    (hexc : ∀ e w', ¬ (∀ run ∈ w.runs.incompleteCompletions, CompletionFits self w run) → exc e w') :
    (Orchestrator.recoverCompletions self).wp (solo fun _ _ => True)
      (fun _ w' => Recovered (Incomplete w) w w' ∧
        ∀ run ∈ w.runs.incompleteCompletions, run.responseJson.isSome → Announced run.runId w')
      exc w := by
  refine wp_bind (solo_storeCall (fun _ => trivial) (hdb w) ?_ ?_)
  · intro w₁ runs h
    obtain ⟨w₂, h₂, rfl⟩ := marked_ok h
    obtain ⟨s, hs, rfl⟩ := onRuns_ok h₂
    obtain ⟨rfl, hruns⟩ := reading_ok hs
    obtain rfl := Except.ok.inj hruns
    refine ⟨trivial, forEach_wp (fun (before : List Run) w' => Recovered (Incomplete w) w w' ∧
      ∀ run ∈ before, run.responseJson.isSome → Announced run.runId w') ?_ ⟨.noting w _, by simp⟩⟩
    intro before run after heq w₃ hinv
    have hmem : run ∈ w.runs.incompleteCompletions := by simp [heq]
    refine wp_mono ?_ (fun _ _ h => h) (recoverCompletion_wp hdb fun e w' hmisfit =>
      hexc e w' fun hfits => hmisfit (hinv.1.completionFits (hfits run hmem)))
    intro _ w₄ hdone
    refine ⟨hinv.1.trans (hdone.1.mono fun id hid => ⟨run, hmem, hid.symm⟩), ?_⟩
    intro run' hrun' hsome
    rcases List.mem_append.mp hrun' with hrun' | hrun'
    · exact hdone.1.announced (hinv.2 run' hrun' hsome)
    · obtain rfl := List.mem_singleton.mp hrun'
      exact hdone.2 hsome
  · intro e h
    simp [marked, onRuns, reading, Except.map, bind, Except.bind, pure, Except.pure] at h

/-- The waiting runs whose user is still to be asked, and that say what for. -/
def Pendent (w : World) (id : String) : Prop :=
  ∃ run ∈ w.runs.incompleteClarifications, run.responseJson.isSome ∧ run.runId = id

theorem Recovered.lastEvent {ids : String → Prop} {w' : World} {runId : String}
    (h : Recovered ids w w') (hid : ¬ ids runId) :
    w'.runs.lastEvent runId = w.runs.lastEvent runId := by
  obtain ⟨more, hevents, hmore⟩ := h.events
  refine Store.lastEvent_append_other hevents fun e he heq => hid ?_
  rw [← heq]
  exact hmore e he

theorem Recovered.unasked {ids : String → Prop} {w' : World} {runId : String}
    (h : Recovered ids w w') (hid : ¬ ids runId) : Unasked w' runId ↔ Unasked w runId := by
  unfold Unasked
  rw [h.lastEvent hid]

theorem recoverClarifications_wp (hdb : ∀ w, exc .operational w)
    (hexc : ∀ e w', ¬ (∀ run ∈ w.runs.incompleteClarifications, ClarificationFits run) → exc e w') :
    (Orchestrator.recoverClarifications self).wp (solo fun _ _ => True)
      (fun _ w' => Recovered (Pendent w) w w' ∧
        ∀ run ∈ w.runs.incompleteClarifications, run.responseJson.isSome → Asked self run w')
      exc w := by
  refine wp_bind (solo_readRuns (fun _ => trivial) (hdb w) ?_ fun e h => by cases h)
  intro runs hruns
  obtain rfl := Except.ok.inj hruns
  refine forEach_wp (fun (before : List Run) w' => Recovered (Pendent w) w w' ∧
    ∀ run ∈ before, run.responseJson.isSome → Asked self run w') ?_ ⟨.refl w, by simp⟩
  intro before run after heq w₃ hinv
  have hmem : run ∈ w.runs.incompleteClarifications := by simp [heq]
  refine wp_mono ?_ (fun _ _ h => h) (recoverClarification_wp hdb fun e w' hmisfit =>
    hexc e w' fun hfits => hmisfit (hfits run hmem))
  intro _ w₄ hdone
  refine ⟨hinv.1.trans (hdone.1.mono fun id hid => ⟨run, hmem, hid.1, hid.2.symm⟩), ?_⟩
  intro run' hrun' hsome
  rcases List.mem_append.mp hrun' with hrun' | hrun'
  · obtain ⟨⟨m, hm, hprompt⟩, hasked⟩ := hinv.2 run' hrun' hsome
    refine ⟨⟨m, hdone.1.messages m hm, hprompt⟩, ?_⟩
    by_cases htouched : run.responseJson.isSome ∧ run'.runId = run.runId
    · rw [htouched.2]
      exact (hdone.2 htouched.1).2
    · rw [hdone.1.unasked htouched]
      exact hasked
  · obtain rfl := List.mem_singleton.mp hrun'
    exact hdone.2 hsome

/-- A run that is completed and one that waits are not the same. -/
theorem not_incomplete_of_waiting {run : Run} (hunique : w.runs.Unique) (hm : run ∈ w.runs.runs)
    (hs : run.status = .waitingUser) : ¬ Incomplete w run.runId := by
  rintro ⟨run', hrun', hid⟩
  obtain ⟨hm', hs', -⟩ := Store.mem_incompleteCompletions.mp hrun'
  have hrow := Store.row_of_mem hunique hm
  rw [← hid, Store.row_of_mem hunique hm'] at hrow
  obtain rfl := Option.some.inj hrow
  exact absurd (hs.symm.trans hs') (by decide)

/-- The recovery of the completed runs leaves the others to be asked as they were. -/
theorem Recovered.mem_incompleteClarifications {w' : World} {run : Run} (hunique : w.runs.Unique)
    (h : Recovered (Incomplete w) w w') :
    run ∈ w'.runs.incompleteClarifications ↔ run ∈ w.runs.incompleteClarifications := by
  rw [Store.mem_incompleteClarifications, Store.mem_incompleteClarifications, h.rows]
  refine and_congr_right fun hm => and_congr_right fun hs => and_congr_right fun _ => ?_
  exact h.unasked (not_incomplete_of_waiting hunique hm hs)

/-- Nothing is left for another recovery but runs without a response, which it passes over. -/
structure Exhausted (w : World) : Prop where
  completions : ∀ run ∈ w.runs.incompleteCompletions, run.responseJson = none
  clarifications : ∀ run ∈ w.runs.incompleteClarifications, run.responseJson = none

theorem exhausted_of_recovered {w₁ w₂ : World} (hr₁ : Recovered (Incomplete w) w w₁)
    (hr₂ : Recovered (Pendent w₁) w₁ w₂)
    (hannounced : ∀ run ∈ w.runs.incompleteCompletions, run.responseJson.isSome →
      Announced run.runId w₁)
    (hasked : ∀ run ∈ w₁.runs.incompleteClarifications, run.responseJson.isSome →
      Asked self run w₂) : Exhausted w₂ := by
  refine ⟨fun run hrun => ?_, fun run hrun => ?_⟩
  · obtain ⟨hm, hs, hnot⟩ := Store.mem_incompleteCompletions.mp hrun
    rw [hr₂.rows, hr₁.rows] at hm
    by_contra hsome
    refine hnot (hr₂.announced ?_)
    by_cases hbefore : Announced run.runId w
    · exact hr₁.announced hbefore
    · exact hannounced run (Store.mem_incompleteCompletions.mpr ⟨hm, hs, hbefore⟩)
        (Option.isSome_iff_ne_none.mpr hsome)
  · obtain ⟨hm, hs, hstage, hlast⟩ := Store.mem_incompleteClarifications.mp hrun
    have hunasked : Unasked w₂ run.runId := hlast
    rw [hr₂.rows] at hm
    by_contra hsome
    by_cases htouched : Pendent w₁ run.runId
    · obtain ⟨run', hrun', hsome', hid⟩ := htouched
      rw [← hid] at hunasked
      exact (hasked run' hrun' hsome').2 hunasked
    · rw [hr₂.unasked htouched] at hunasked
      exact htouched ⟨run, Store.mem_incompleteClarifications.mpr ⟨hm, hs, hstage, hunasked⟩,
        Option.isSome_iff_ne_none.mpr hsome, rfl⟩

/-- **What the two recoveries leave when they get through**, and what it takes. -/
theorem recoverBoth_wp (hunique : w.runs.Unique) (hdb : ∀ w, exc .operational w)
    (hexc : ∀ e w', ¬ Fits self w → exc e w') :
    (Orchestrator.recoverBoth self).wp (solo fun _ _ => True) (fun _ => Exhausted) exc w := by
  refine wp_bind (wp_mono ?_ (fun _ _ h => h) (recoverCompletions_wp hdb fun e w' hmisfit =>
    hexc e w' fun hfits => hmisfit hfits.completions))
  rintro _ w₁ ⟨hr₁, hannounced⟩
  refine wp_mono ?_ (fun _ _ h => h) (recoverClarifications_wp hdb fun e w' hmisfit =>
    hexc e w' fun hfits => hmisfit fun run hrun => hfits.clarifications run
      ((hr₁.mem_incompleteClarifications hunique).mp hrun))
  rintro _ w₂ ⟨hr₂, hasked⟩
  exact exhausted_of_recovered hr₁ hr₂ hannounced hasked

end Both

/-! ## Once more -/

/-- The conversations, with their messages and memories, and the runs with their events. -/
structure SameStores (w w' : World) : Prop where
  conversations : w'.conversations = w.conversations
  runs : w'.runs = w.runs

theorem SameStores.refl (w : World) : SameStores w w := ⟨rfl, rfl⟩

theorem SameStores.trans {a b d : World} (hab : SameStores a b) (hbd : SameStores b d) :
    SameStores a d :=
  ⟨hbd.conversations.trans hab.conversations, hbd.runs.trans hab.runs⟩

theorem forEach_pure {α : Type} {f : α → Prog Unit} {items : List α}
    (h : ∀ item ∈ items, f item = pure ()) : Orchestrator.forEach f items = pure () := by
  induction items with
  | nil => rfl
  | cons item items ih =>
    unfold Orchestrator.forEach
    rw [h item List.mem_cons_self]
    exact ih fun item hm => h item (List.mem_cons_of_mem _ hm)

/-- A recovery that finds nothing to do changes nothing. -/
theorem recoverBoth_exhausted {self : Orchestrator} {w : World} (h : Exhausted w) :
    (Orchestrator.recoverBoth self).wp (solo SameStores) (fun _ _ => True)
      (fun e _ => e = .operational) w := by
  have hcompletions : ∀ run ∈ w.runs.incompleteCompletions,
      Orchestrator.recoverCompletion self run = pure () := by
    intro run hrun
    rw [Orchestrator.recoverCompletion, h.completions run hrun]
  have hclarifications : ∀ run ∈ w.runs.incompleteClarifications,
      Orchestrator.recoverClarification self run = pure () := by
    intro run hrun
    rw [Orchestrator.recoverClarification, h.clarifications run hrun]
  refine wp_bind (wp_bind (solo_storeCall SameStores.refl rfl ?_ fun e he => ?_))
  swap
  · simp [marked, onRuns, reading, Except.map, bind, Except.bind, pure, Except.pure] at he
  intro w₁ runs hread
  obtain ⟨w₂, h₂, rfl⟩ := marked_ok hread
  obtain ⟨s, hs, rfl⟩ := onRuns_ok h₂
  obtain ⟨rfl, hruns⟩ := reading_ok hs
  obtain rfl := Except.ok.inj hruns
  refine ⟨⟨rfl, rfl⟩, ?_⟩
  rw [forEach_pure hcompletions]
  refine wp_pure (wp_bind (solo_readRuns SameStores.refl rfl ?_ fun e he => by cases he))
  intro runs hruns
  obtain rfl := Except.ok.inj hruns
  show (Orchestrator.forEach (Orchestrator.recoverClarification self)
    w.runs.incompleteClarifications).wp _ _ _ _
  rw [forEach_pure hclarifications]
  trivial

/-! ## Unique ids -/

theorem unique_allows (self : Orchestrator) :
    Allows self fun w w' => w.runs.Unique → w'.runs.Unique where
  refl _ h := h
  event _ _ _ _ _ _ h := h
  message _ _ _ h := h
  federation _ _ h := h
  diagnostics _ _ h := h
  announce _ _ _ _ h := h
  remember _ _ _ _ _ _ h := h
  list _ h := h
  note _ _ _ _ h := h
  answer _ _ _ h := h
  submit _ _ h := h
  messages _ _ h := h
  save w s run run' expectedRevision now marks acts hs _ h := by
    show (s.runs.map Run.runId).Nodup
    rw [Store.save_ids hs]
    exact h
  create w s run run' acts hs h := by
    show (s.runs.map Run.runId).Nodup
    rcases Store.create_ok hs with ⟨rfl, -, -⟩ | ⟨hruns, -, -, hrow, -⟩
    · exact h
    · rw [hruns, List.map_append, List.nodup_append]
      refine ⟨h, List.nodup_singleton _, fun id hid id' hid' heq => ?_⟩
      obtain ⟨r, hr, rfl⟩ := List.mem_map.mp hid
      obtain rfl := List.mem_singleton.mp hid'
      have hnone := List.find?_eq_none.mp hrow r hr
      simp [heq] at hnone

/-- Nothing is expected of the others but what an operation may do. -/
def uniqueDiscipline (self : Orchestrator) : Pool.Discipline (IsOperation self) Untouched where
  contract := {
    rely := fun w w' => w.runs.Unique → w'.runs.Unique
    guar := fun w w' => w.runs.Unique → w'.runs.Unique }
  inv w := w.runs.Unique
  refl _ h := h
  trans _ _ _ hab hbd h := hbd (hab h)
  rely_of_guar _ _ h := h
  rely_of_env w w' he h := by
    show (w'.runs.runs.map Run.runId).Nodup
    rw [he.runs]
    exact h
  keep _ _ h hw := h hw
  started _ w hp _ := (operation_within (unique_allows self) hp).wp (fun _ _ => trivial) w

theorem unique_of_reaches {self : Orchestrator} {w : World} {pool : Pool World Answer Failure Unit}
    (hempty : w.runs.runs = []) (h : Pool.Reaches (IsOperation self) Untouched ⟨[], w⟩ pool) :
    pool.state.runs.Unique := by
  have hw : w.runs.Unique := by
    show (w.runs.runs.map Run.runId).Nodup
    rw [hempty]
    exact List.nodup_nil
  exact (h.disciplined (Pool.disciplined_empty (d := uniqueDiscipline self) hw)).1.inv

/-! ## The recovery of a killed process -/

section Killed

variable (self : Orchestrator) (w : World) (pool : Pool World Answer Failure Unit)

end Killed

/-! ## A prompt that is recovered, and one that is not -/

/-- The recovery of the sample, with the database at its best. -/
def sampleRecovery (self : Orchestrator) (w : World) : Prog Unit × World :=
  Infra.Program.advance (sampleAnswers "-" firstPrompt) 200
    (Orchestrator.recoverBoth self, w.killed)

/-- The process is killed when the run waits and before its user is asked. -/
def unaskedPool : Pool World Answer Failure Unit :=
  Pool.playAll ⟨[], sampleWorld⟩ [
    .spawn (discard (sampleOrchestrator.create "c" "销售额" 200 none)), sampleRun 0 "r" firstPrompt,
    .spawn (sampleOrchestrator.execute "r"), .run 1 45 (sampleAnswers "-" firstPrompt)]

/-- The sample with the capability to ask several sources. -/
def federatedSample : Orchestrator :=
  { sampleOrchestrator with federationService := true, federationModel := true }

def federatedWorld : World where
  conversations := {
    conversations := [{ conversationId := "c", datasourceScope := ["d1", "d2"] }]
    memories := [{ conversationId := "c", memory := { updatedAt := 0 } }] }

def sampleQuery : Contracts.BusinessQuery where
  question := "销售额"
  objective := .lookup
  question_length := by decide
  ranking_required := by decide
  comparison_required := by decide

/-- The router decides `route`, and the planner cannot be reached. -/
def routedAnswers (route : Except Failure RoutingDecision) (uuid : String) (q : Question) :
    Option (Answer q) :=
  match q with
  | .listDatasources _ => some (.ok [⟨"d1", "north", "ready"⟩, ⟨"d2", "south", "ready"⟩])
  | .route _ _ _ => some route
  | .planFederation _ => some (.error (.federationTransient "timeout" ["timeout"]))
  | q => sampleAnswers uuid firstPrompt q

/-- The run is routed to several sources and fails for a moment. When it is retried the router asks for
a source, and the process is killed when the run waits. -/
def reroutedPool : Pool World Answer Failure Unit :=
  let several := routedAnswers
    (.ok { kind := .federated, businessQuery := some sampleQuery, sources := [] })
  let ambiguous := routedAnswers (.error (.federationBlocked "source_selection_ambiguous"))
  Pool.playAll ⟨[], federatedWorld⟩ [
    .spawn (discard (federatedSample.create "c" "销售额" 200 none)), .run 0 200 (several "r"),
    .spawn (federatedSample.execute "r"), .run 1 200 (several "-"),
    .spawn (discard (Orchestrator.retry "r")), .run 2 200 (several "-"),
    .spawn (federatedSample.execute "r"), .run 3 38 (ambiguous "-")]

theorem unaskedPool_reached :
    Pool.Reaches (IsOperation sampleOrchestrator) Untouched ⟨[], sampleWorld⟩ unaskedPool := by
  refine Pool.playAll_reaches _ _ fun p hp => ?_
  simp only [sampleRun, List.mem_cons, Pool.Choice.spawn.injEq, List.not_mem_nil, or_false,
    reduceCtorEq, false_or] at hp
  rcases hp with rfl | rfl
  · exact .create _ _ _ _
  · exact .execute _

theorem sampleRecovery_reaches {self : Orchestrator} {w : World} :
    Reaches (Orchestrator.recoverBoth self, w.killed) (sampleRecovery self w) :=
  Infra.Program.advance_reaches _ _ _

end Runtime
