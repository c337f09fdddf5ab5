import Qaneris.Runtime.Clarifications
import Qaneris.Runtime.Properties.Operations

/-!
# Forgotten answers

An attempt builds its question of the original one and the latest answer only.

* `clarifications_remembered_iff` — whenever an attempt reads its messages, in whatever state the
  operations have led to, it remembers all recorded answers exactly when the latest says them all
* `first_answer_forgotten` — the answer to the first clarification is lost after the second
-/

namespace Runtime

open Infra (Pool Program)
open Orchestrator (questionOf askedMarks clarificationsOf)

/-! ## The question of an attempt -/

theorem contains_append_right (text part : String) : Contains (text ++ part) part := by
  unfold Contains
  rw [String.toList_append]
  exact (List.suffix_append _ _).isInfix

/-- The latest answer is never lost, so it is the earlier ones that decide. -/
theorem remembered_questionOf_iff (original : String) (answers : List String) :
    Remembered (questionOf original answers) answers ↔ LatestSaysAll original answers := by
  rcases List.eq_nil_or_concat answers with rfl | ⟨earlier, latest, rfl⟩
  · simp [Remembered, LatestSaysAll]
  · have hq : questionOf original (earlier ++ [latest]) = original ++ "。用户澄清：" ++ latest := by
      simp [questionOf]
    have hlatest : Contains (original ++ "。用户澄清：" ++ latest) latest := contains_append_right _ _
    unfold Remembered LatestSaysAll
    rw [List.concat_eq_append, hq, List.getLast?_concat, List.dropLast_concat]
    constructor
    · intro h last hlast answer ha
      obtain rfl := Option.mem_some.mp hlast
      exact h answer (List.mem_append_left _ ha)
    · intro h answer ha
      rcases List.mem_append.mp ha with ha | ha
      · exact h latest rfl answer ha
      · obtain rfl := List.mem_singleton.mp ha
        exact hlatest

/-! ## What the steps add to the log -/

/-- A mark that an attempt was made is true of the state in which it was made. -/
def MadeIn (self : Orchestrator) (w : World) (m : Mark) : Prop :=
  ∀ runId conversationId original answers question,
    m = .asked runId conversationId original answers question →
      answers = recorded self conversationId runId w ∧ question = questionOf original answers

/-- A step only adds to the log, and what it adds is true. -/
def Honest (self : Orchestrator) (w w' : World) : Prop :=
  ∃ marks, w'.log = w.log ++ marks ∧ ∀ m ∈ marks, MadeIn self w m

theorem honest_of_log {self : Orchestrator} {w w' : World} (h : w'.log = w.log) : Honest self w w' :=
  ⟨[], by rw [h, List.append_nil], by simp⟩

theorem honest_plain {self : Orchestrator} {w w' : World} {marks : List Mark}
    (h : w'.log = w.log ++ marks) (hp : Plain marks) : Honest self w w' := by
  refine ⟨marks, h, ?_⟩
  intro m hm runId conversationId original answers question he
  exact absurd he (hp m hm _ _ _ _ _)

theorem honest_allows (self : Orchestrator) : Allows self (Honest self) where
  refl _ := honest_of_log rfl
  event _ _ _ _ _ _ := honest_of_log rfl
  message _ _ _ := honest_of_log rfl
  federation _ _ := honest_of_log rfl
  diagnostics _ _ := honest_of_log rfl
  announce _ _ _ _ := honest_of_log rfl
  remember _ _ _ _ _ _ := honest_of_log rfl
  list _ := honest_plain rfl plain_nil
  note _ _ _ hp := honest_plain rfl hp
  save _ _ _ _ _ _ _ _ _ hp := honest_plain rfl hp
  create _ _ _ _ _ _ := honest_plain rfl plain_nil
  answer _ _ _ := honest_plain rfl plain_nil
  submit _ _ := honest_of_log rfl
  messages w run := by
    refine ⟨_, rfl, ?_⟩
    intro m hm runId conversationId original answers question he
    unfold askedMarks at hm
    split at hm
    · cases hm
    · next message _ =>
      obtain rfl := List.mem_singleton.mp hm
      obtain ⟨rfl, rfl, rfl, rfl, rfl⟩ := Mark.asked.inj he
      exact ⟨rfl, rfl⟩

/-- Anything else may happen to the stores: the log is of the operations only. -/
def Outside (w w' : World) : Prop :=
  w'.log = w.log

/-- Nothing is expected of the others. -/
def honestDiscipline (self : Orchestrator) : Pool.Discipline (IsOperation self) Outside where
  contract := { rely := fun _ _ => True, guar := Honest self }
  inv := fun _ => True
  refl := fun _ => trivial
  trans := fun _ _ _ _ _ => trivial
  rely_of_guar := fun _ _ _ => trivial
  rely_of_env := fun _ _ _ => trivial
  keep := fun _ _ _ _ => trivial
  started := fun _ s hp _ => (operation_within (honest_allows self) hp).wp (fun _ _ => trivial) s

/-- **An attempt remembers every recorded answer exactly when the latest says them all**: in every
state that the operations lead to, for every step by which an attempt reads its messages. -/
theorem clarifications_remembered_iff (self : Orchestrator) (w : World)
    (pool pool' : Pool World Answer Failure Unit)
    (hreach : Pool.Reaches (IsOperation self) Outside ⟨[], w⟩ pool)
    (hstep : Pool.Step (IsOperation self) Outside pool pool')
    (runId conversationId original question : String) (answers : List String)
    (hasked : pool'.state.log =
      pool.state.log ++ [.asked runId conversationId original answers question]) :
    Remembered question (recorded self conversationId runId pool.state) ↔
      LatestSaysAll original (recorded self conversationId runId pool.state) := by
  have hd : Pool.Disciplined (honestDiscipline self) pool :=
    (hreach.disciplined (Pool.disciplined_empty trivial)).1
  have hsome : pool'.state.log ≠ pool.state.log := by
    rw [hasked]
    simp
  rcases hd.step_guar hstep with hsame | helse | ⟨marks, hlog, hmarks⟩
  · exact absurd (by rw [hsame]) hsome
  · exact absurd helse hsome
  · have hm : marks = [.asked runId conversationId original answers question] :=
      List.append_cancel_left (hlog.symm.trans hasked)
    obtain ⟨ha, hq⟩ := hmarks (.asked runId conversationId original answers question)
      (by simp [hm]) _ _ _ _ _ rfl
    rw [hq, ha]
    exact remembered_questionOf_iff original _

/-! ## Two clarifications -/

/-- An orchestrator without models, whose texts need no redaction. -/
def sampleOrchestrator : Orchestrator where
  federationBudget := { maxRowsPerSource_range := Contracts.defaultLimit_range }
  uuid5 := id
  fold := id
  safeValue := id
  safePayload := id
  safeError := fun e => e.text
  safeText := id
  safeRow := id
  safeMemory := id
  safeMerged := id
  privateField := fun _ => false
  dumps := fun _ => ""
  encodedSize := List.length

def sampleConversations : Conversations.Store where
  conversations := [{ conversationId := "c", datasourceScope := ["d"] }]
  memories := [{ conversationId := "c", memory := { updatedAt := 0 } }]

/-- An Ask invocation that asks back. -/
def askBack (prompt : String) (h : 1 ≤ prompt.length) : AskStream where
  records := [{
    event := { eventType := .clarificationRequired, sequence := 1, payload := .null,
               correlationId := ⟨"ask-1", Contracts.length_ask1⟩, sequence_range := Contracts.firstSequence_range }
    response := some {
      question := "", status := .clarificationRequired, answer := prompt
      clarification := [{ question := prompt, question_length := h }] } }]

/-- Every question is answered; fresh identifiers are `uuid`. -/
def sampleAnswers (uuid : String) (stream : AskStream) (q : Question) : Option (Answer q) :=
  match q with
  | .fault => some false
  | .clock => some (0 : Int)
  | .uuid => some uuid
  | .resolve question _ _ => some (.ok question)
  | .extract _ => some (.ok { objectiveHint := none, comparison := none })
  | .askRecords _ => some stream
  | _ => none

def firstPrompt : AskStream := askBack "哪个地区？" (by decide)
def secondPrompt : AskStream := askBack "哪一年？" (by decide)

/-- What an operation of the sample does until it ends or waits. -/
def sampleRun (i : Nat) (uuid : String) (stream : AskStream) : Pool.Choice World Answer Failure Unit :=
  .run i 200 (sampleAnswers uuid stream)

def sampleWorld : World := { conversations := sampleConversations }

/-- A run asks for the region and is told, and is about to read its messages. -/
def answeredOnce : Pool World Answer Failure Unit :=
  Pool.playAll ⟨[], sampleWorld⟩ [
    .spawn (discard (sampleOrchestrator.create "c" "销售额" 200 none)), sampleRun 0 "r" firstPrompt,
    .spawn (sampleOrchestrator.execute "r"), sampleRun 1 "-" firstPrompt,
    .spawn (discard (sampleOrchestrator.clarify "r" "华东")), sampleRun 2 "m1" firstPrompt,
    .spawn (sampleOrchestrator.execute "r"), .run 3 13 (sampleAnswers "-" secondPrompt)]

/-- It goes on, asks for the year and is told, and is about to read its messages. -/
def answeredTwice : Pool World Answer Failure Unit :=
  Pool.playAll answeredOnce [
    sampleRun 3 "-" secondPrompt,
    .spawn (discard (sampleOrchestrator.clarify "r" "2024")), sampleRun 4 "m2" firstPrompt,
    .spawn (sampleOrchestrator.execute "r"), .run 5 13 (sampleAnswers "-" firstPrompt)]

theorem answeredOnce_reached :
    Pool.Reaches (IsOperation sampleOrchestrator) Outside ⟨[], sampleWorld⟩ answeredOnce := by
  refine Pool.playAll_reaches _ _ fun p hp => ?_
  simp only [sampleRun, List.mem_cons, Pool.Choice.spawn.injEq, List.not_mem_nil, or_false,
    reduceCtorEq, false_or] at hp
  rcases hp with rfl | rfl | rfl | rfl
  · exact .create _ _ _ _
  · exact .execute _
  · exact .clarify _ _
  · exact .execute _

theorem answeredTwice_reached :
    Pool.Reaches (IsOperation sampleOrchestrator) Outside ⟨[], sampleWorld⟩ answeredTwice := by
  refine answeredOnce_reached.trans (Pool.playAll_reaches _ _ fun p hp => ?_)
  simp only [sampleRun, List.mem_cons, Pool.Choice.spawn.injEq, List.not_mem_nil, or_false,
    reduceCtorEq, false_or] at hp
  rcases hp with rfl | rfl
  · exact .clarify _ _
  · exact .execute _

/-- The step by which the attempt of program `i` reads its messages. -/
def reads (pool : Pool World Answer Failure Unit) (i : Nat) : Pool World Answer Failure Unit :=
  pool.play (.run i 1 (sampleAnswers "-" firstPrompt))

theorem reads_step {pool : Pool World Answer Failure Unit} {i : Nat} {marks : List Mark}
    (h : (reads pool i).state.log = pool.state.log ++ marks) (hne : marks ≠ []) :
    Pool.Step (IsOperation sampleOrchestrator) Outside pool (reads pool i) := by
  refine Pool.play_run_one pool i _ fun hsame => hne ?_
  have hlog : (reads pool i).state.log = pool.state.log := by
    unfold reads
    rw [hsame]
  exact List.self_eq_append_right.mp (hlog.symm.trans h)

/-- The only answer so far is remembered. -/
theorem answeredOnce_remembered :
    LatestSaysAll "销售额" (recorded sampleOrchestrator "c" "r" answeredOnce.state) ∧
      Remembered "销售额。用户澄清：华东" (recorded sampleOrchestrator "c" "r" answeredOnce.state) := by
  have hlog : (reads answeredOnce 3).state.log = answeredOnce.state.log ++
      [.asked "r" "c" "销售额" ["华东"] "销售额。用户澄清：华东"] := by decide +kernel
  have hlatest : LatestSaysAll "销售额" (recorded sampleOrchestrator "c" "r" answeredOnce.state) := by
    decide +kernel
  exact ⟨hlatest, (clarifications_remembered_iff sampleOrchestrator sampleWorld answeredOnce
    (reads answeredOnce 3) answeredOnce_reached (reads_step hlog (by simp)) "r" "c" "销售额" _ _
    hlog).mpr hlatest⟩

/-- The answer to the first clarification is not in the question any more. -/
theorem first_answer_forgotten :
    Pool.Reaches (IsOperation sampleOrchestrator) Outside ⟨[], sampleWorld⟩ answeredTwice ∧
      Pool.Step (IsOperation sampleOrchestrator) Outside answeredTwice (reads answeredTwice 5) ∧
      (reads answeredTwice 5).state.log = answeredTwice.state.log ++
        [.asked "r" "c" "销售额" ["华东", "2024"] "销售额。用户澄清：2024"] ∧
      recorded sampleOrchestrator "c" "r" answeredTwice.state = ["华东", "2024"] ∧
      ¬ Remembered "销售额。用户澄清：2024"
        (recorded sampleOrchestrator "c" "r" answeredTwice.state) := by
  have hlog : (reads answeredTwice 5).state.log = answeredTwice.state.log ++
      [.asked "r" "c" "销售额" ["华东", "2024"] "销售额。用户澄清：2024"] := by decide +kernel
  have hrecorded : recorded sampleOrchestrator "c" "r" answeredTwice.state = ["华东", "2024"] := by
    decide +kernel
  refine ⟨answeredTwice_reached, reads_step hlog (by simp), hlog, hrecorded, ?_⟩
  rw [hrecorded]
  intro h
  exact absurd (h "华东" (by simp)) (by decide)

end Runtime
