import Qaneris.Application.Ask

/-!
# The records of Ask

Whatever the stages return and wherever one of them raises, the records of an invocation have one shape:
accepted, the progress of the stages, one outcome, done.

* `Open` — the records so far, as long as there is no outcome
* `Closed` — the records of an invocation that has ended
* `askEventRecords_grammar` — the generator ends, and `ask` and `ask_stream` give what the records say
-/

namespace Application

open Contracts
open Infra (Raising raising)
open Infra.Raising (Triple)

variable {ρ : Type} {service : QanerisService ρ} {id : CorrelationId}

/-! ## The shape of the records -/

/-- The events between the first and the outcome. -/
def Progress (eventType : AskEventType) : Prop :=
  eventType ∈ [AskEventType.intentReady, .retrievalReady, .groundingReady, .planReady, .queryReady,
    .executionStarted]

/-- The records are numbered from 1 on and carry one correlation id. -/
structure Numbered (id : CorrelationId) (s : Emitted) : Prop where
  sequences : s.records.map (·.event.sequence) = List.range' 1 s.sequence
  correlation : ∀ r ∈ s.records, r.event.correlationId = id

/-- One accepted event, then progress; nothing has been raised. -/
structure Begun (first : AskEventRecord) (between : List AskEventRecord) : Prop where
  accepted : first.event.eventType = .accepted
  progress : ∀ r ∈ between, Progress r.event.eventType
  unraised : ∀ r ∈ first :: between, r.exception = none

/-- The outcome and the event that ends the stream. -/
structure Ending (outcome last : AskEventRecord) (response : AskResponse) : Prop where
  outcomes : outcome.event.eventType ∈
    [AskEventType.resultReady, .clarificationRequired, .error]
  done : last.event.eventType = .done
  response_outcome : outcome.response = some response
  response_last : last.response = some response
  exception_outcome : outcome.exception.isSome ↔ outcome.event.eventType = .error
  exception_last : last.exception = none

/-- There is no outcome yet. -/
def Open (id : CorrelationId) (s : Emitted) : Prop :=
  Numbered id s ∧ ∃ first between, s.records = first :: between ∧ Begun first between

/-- The invocation has ended. -/
def Closed (id : CorrelationId) (s : Emitted) : Prop :=
  Numbered id s ∧ ∃ first between outcome last response,
    s.records = first :: between ++ [outcome, last] ∧ Begun first between ∧
      Ending outcome last response

/-! ## One record -/

theorem Numbered.emit {s : Emitted} {eventType : AskEventType} {payload : Payload}
    {response : Option AskResponse} {exception : Option AskException} (h : Numbered id s) :
    Numbered id (service.emit id eventType payload response exception s) := by
  constructor
  · show (s.records ++ [_]).map _ = List.range' 1 (s.sequence + 1)
    rw [List.map_append, h.sequences, List.range'_concat]
    simp [QanerisService.nextRecord, AskEvent.make, Nat.add_comm]
  · intro r hr
    rcases List.mem_append.mp hr with hr | hr
    · exact h.correlation r hr
    · rw [List.mem_singleton.mp hr]
      rfl

theorem Begun.append {first r : AskEventRecord} {between : List AskEventRecord}
    (h : Begun first between) (hprogress : Progress r.event.eventType) (hr : r.exception = none) :
    Begun first (between ++ [r]) := by
  refine ⟨h.accepted, fun r' hr' => ?_, fun r' hr' => ?_⟩
  · rcases List.mem_append.mp hr' with hr' | hr'
    · exact h.progress r' hr'
    · exact List.mem_singleton.mp hr' ▸ hprogress
  · rw [← List.cons_append] at hr'
    rcases List.mem_append.mp hr' with hr' | hr'
    · exact h.unraised r' hr'
    · exact List.mem_singleton.mp hr' ▸ hr

theorem record_open {eventType : AskEventType} {payload : Payload} {exc : AskException → Emitted → Prop}
    (htype : Progress eventType) :
    Triple (Open id) (service.record id eventType payload) (fun _ => Open id) exc := by
  refine Triple.modify fun s ⟨hs, first, between, hrecords, hbegun⟩ => ⟨hs.emit, first,
    between ++ [service.nextRecord id eventType payload none none s.sequence], ?_, hbegun.append htype rfl⟩
  show s.records ++ [_] = _
  rw [hrecords, List.cons_append]

/-- A stage leaves the records alone, also when it raises. -/
theorem stage_open {α : Type} {x : Except AskException α} :
    Triple (Open id) (raising x) (fun _ => Open id) (fun _ => Open id) :=
  Triple.raising (fun _ _ _ hs => hs) (fun _ _ _ hs => hs)

/-! ## The outcome -/

/-- The two last records are given out together: before them a payload may be refused, between them
nothing can fail. -/
theorem finish_closes {eventType : AskEventType} {payload : Except AskException Payload}
    {response : AskResponse} {exception : Option AskException}
    (houtcome : eventType ∈ [AskEventType.resultReady, .clarificationRequired, .error])
    (hexception : exception.isSome ↔ eventType = .error) :
    Triple (Open id) (service.finish id eventType payload response exception) (fun _ => Closed id)
      (fun e s => Open id s ∧ payload = .error e) := by
  refine Triple.bind (q := fun _ => Open id)
    (Triple.raising (fun _ _ _ hs => hs) fun e s he hs => ⟨hs, he⟩) fun payload' => ?_
  refine Triple.bind
    (q := fun _ s' => ∃ s, Open id s ∧ s' = service.emit id eventType payload' (some response) exception s)
    (Triple.modify fun s hs => ⟨s, hs, rfl⟩) fun _ => Triple.modify ?_
  rintro _ ⟨s, ⟨hs, first, between, hrecords, hbegun⟩, rfl⟩
  refine ⟨hs.emit.emit, first, between,
    service.nextRecord id eventType payload' (some response) exception s.sequence,
    service.nextRecord id .done (donePayload response) (some response) none (s.sequence + 1),
    response, ?_, hbegun, houtcome, rfl, rfl, rfl, hexception, rfl⟩
  show (s.records ++ [_]) ++ [_] = _
  rw [hrecords, List.append_assoc]
  rfl

/-- A pair that ends the stream without an exception. -/
theorem outcome_closes {eventType : AskEventType} {payload : Except AskException Payload}
    {response : AskResponse} (houtcome : eventType ∈ [AskEventType.resultReady, .clarificationRequired]) :
    Triple (Open id) (service.finish id eventType payload response) (fun _ => Closed id)
      (fun _ => Open id) := by
  refine (finish_closes ?_ ?_).conseq (fun _ hs => hs) fun _ _ hs => hs.1
  · simp only [List.mem_cons, List.not_mem_nil, or_false] at houtcome ⊢
    exact houtcome.elim .inl fun h => .inr (.inl h)
  · simp only [List.mem_cons, List.not_mem_nil, or_false] at houtcome
    rcases houtcome with rfl | rfl <;> simp

theorem clarify_closes {response : AskResponse} :
    Triple (Open id) (service.clarify id response) (fun _ => Closed id) (fun _ => Open id) :=
  outcome_closes (by simp)

theorem answer_closes {response : AskResponse} :
    Triple (Open id) (service.answer id response) (fun _ => Closed id) (fun _ => Open id) :=
  outcome_closes (by simp)

/-! ## The branches of the pipeline -/

theorem explicitSql_closes {request : AskRequest} :
    Triple (Open id) (service.explicitSql id request) (fun _ => Closed id) (fun _ => Open id) := by
  refine Triple.bind stage_open fun ⟨datasource, step⟩ => ?_
  refine Triple.bind (record_open (by simp [Progress])) fun _ => ?_
  refine Triple.bind (record_open (by simp [Progress])) fun _ => ?_
  refine Triple.bind (record_open (by simp [Progress])) fun _ => ?_
  exact Triple.bind stage_open fun response => answer_closes

theorem schemaInventory_closes {request : AskRequest} {workspaceInventory : Bool} :
    Triple (Open id) (service.schemaInventory id request workspaceInventory) (fun _ => Closed id)
      (fun _ => Open id) := by
  refine Triple.bind stage_open fun response => ?_
  have hlast : Triple (Open id)
      (if response.status = .clarificationRequired then service.clarify id response
        else service.answer id response) (fun _ => Closed id) (fun _ => Open id) := by
    split
    · exact clarify_closes
    · exact answer_closes
  dsimp only
  split
  · refine Triple.bind stage_open fun payload => ?_
    exact Triple.bind (record_open (by simp [Progress])) fun _ => hlast
  · exact hlast

theorem execute_closes {request : AskRequest} {intent : IntentUnderstandingResult ρ}
    {grounding : Semantic.GroundingResult} {timeRange : Option TimeRange} {timeSpec : Option TimeSpec} :
    Triple (Open id) (service.execute id request intent grounding timeRange timeSpec)
      (fun _ => Closed id) (fun _ => Open id) := by
  refine Triple.bind stage_open fun context => ?_
  refine Triple.bind stage_open fun plan => ?_
  refine Triple.bind (record_open (by simp [Progress])) fun _ => ?_
  refine Triple.bind stage_open fun native => ?_
  refine Triple.bind (record_open (by simp [Progress])) fun _ => ?_
  refine Triple.bind (record_open (by simp [Progress])) fun _ => ?_
  refine Triple.bind stage_open fun ⟨result, evidence⟩ => ?_
  refine Triple.bind stage_open fun analysis => ?_
  refine Triple.bind stage_open fun fallback => ?_
  exact Triple.bind stage_open fun ⟨text, source⟩ => answer_closes

theorem resolveTime_closes {request : AskRequest} {intent : IntentUnderstandingResult ρ}
    {grounding : Semantic.GroundingResult} :
    Triple (Open id) (service.resolveTime id request intent grounding) (fun _ => Closed id)
      (fun _ => Open id) := by
  refine Triple.bind stage_open fun timeRange => ?_
  split
  · split
    · exact clarify_closes
    · split
      · exact execute_closes
      · exact clarify_closes
  · exact execute_closes

theorem naturalLanguage_closes {request : AskRequest} :
    Triple (Open id) (service.naturalLanguage id request) (fun _ => Closed id) (fun _ => Open id) := by
  refine Triple.bind stage_open fun intent => ?_
  refine Triple.bind (record_open (by simp [Progress])) fun _ => ?_
  split
  · exact clarify_closes
  refine Triple.bind stage_open fun retrieval => ?_
  refine Triple.bind (record_open (by simp [Progress])) fun _ => ?_
  refine Triple.bind stage_open fun grounding => ?_
  refine Triple.bind (record_open (by simp [Progress])) fun _ => ?_
  split
  · exact clarify_closes
  · exact resolveTime_closes

theorem pipeline_closes {request : AskRequest} :
    Triple (Open id) (service.pipeline id request) (fun _ => Closed id) (fun _ => Open id) := by
  unfold QanerisService.pipeline
  split
  · exact explicitSql_closes
  · have hquestion : ∀ workspaceInventory, Triple (Open id) (do
        if ← raising (service.isSchemaInventoryQuestion request.question) then
          service.schemaInventory id request workspaceInventory
        else service.naturalLanguage id request) (fun _ => Closed id) (fun _ => Open id) := by
      intro workspaceInventory
      refine Triple.bind stage_open fun inventory => ?_
      split
      · exact schemaInventory_closes
      · exact naturalLanguage_closes
    have hready : ∀ workspaceInventory, Triple (Open id) (do
        if workspaceInventory = false then
          raising (service.requireReadyScope request.workspaceId request.datasourceId)
        if ← raising (service.isSchemaInventoryQuestion request.question) then
          service.schemaInventory id request workspaceInventory
        else service.naturalLanguage id request) (fun _ => Closed id) (fun _ => Open id) := by
      intro workspaceInventory
      dsimp only
      split
      · exact Triple.bind stage_open fun _ => hquestion workspaceInventory
      · exact hquestion workspaceInventory
    dsimp only
    split
    · exact Triple.bind stage_open fun workspaceInventory => hready workspaceInventory
    · refine Triple.bind (q := fun _ => Open id) (Triple.pure fun _ hs => hs) fun workspaceInventory => ?_
      exact hready workspaceInventory

/-! ## Whole invocations -/

/-- The response of a failure is written without failure. -/
theorem publicResponse_failed (serializer : Serializer) (question answer : String) (error : ErrorDetail) :
    ∃ public_, serializer.publicResponse { question, status := .failed, answer, error := some error }
      = .ok public_ := by
  obtain ⟨payload, hpayload⟩ := serializer.response_failed question answer error
  rw [Serializer.publicResponse, hpayload]
  exact ⟨_, rfl⟩

/-- The handler never raises. -/
theorem fail_closes {request : AskRequest} {error : AskException}
    {exc : AskException → Emitted → Prop} :
    Triple (Open id) (service.fail id request error) (fun _ => Closed id) exc := by
  obtain ⟨public_, hpublic⟩ := publicResponse_failed service.serializer request.question
    (service.serializer.askErrorDetail error).message (service.serializer.askErrorDetail error)
  unfold QanerisService.fail
  dsimp only
  rw [hpublic]
  refine (finish_closes (by simp) (by simp)).conseq (fun _ hs => hs) ?_
  rintro e s ⟨-, he⟩
  cases he

/-- From no record at all to a closed stream, whatever the stages do. -/
theorem askEventRecords_closes {request : AskRequest} :
    Triple (fun s => s = {}) (service.askEventRecords id request) (fun _ => Closed id)
      (fun _ _ => False) := by
  refine Triple.bind (q := fun _ => Open id) (Triple.modify ?_) fun _ =>
    Triple.tryCatch pipeline_closes fun error => fail_closes
  rintro _ rfl
  refine ⟨⟨rfl, fun r hr => ?_⟩, _, [], rfl, rfl, by simp, fun r hr => ?_⟩
  · rw [List.mem_singleton.mp hr]
    rfl
  · rw [List.mem_singleton.mp hr]
    rfl

/-- What the records say to `ask`: the exception of the outcome, else its response. -/
theorem consume_closed {first outcome last : AskEventRecord} {between : List AskEventRecord}
    {response : AskResponse} (hbegun : Begun first between) (hending : Ending outcome last response) :
    QanerisService.consume (first :: between ++ [outcome, last]) = (some response, outcome.exception) := by
  have hbefore : ∀ (records : List AskEventRecord) (kept : Option AskResponse × Option AskException),
      (∀ r ∈ records, r.exception = none) →
      (records.foldl (fun kept r => (r.response.or kept.1, r.exception.or kept.2)) kept).2 = kept.2 := by
    intro records
    induction records with
    | nil => intro kept _; rfl
    | cons r records ih =>
      intro kept h
      rw [List.foldl_cons, ih _ fun r' hr' => h r' (List.mem_cons_of_mem _ hr'), h r List.mem_cons_self]
      rfl
  have hnone := hbefore (first :: between) (none, none) hbegun.unraised
  rw [QanerisService.consume, List.foldl_append, List.foldl_cons, List.foldl_cons, List.foldl_nil, hnone,
    hending.response_last, hending.exception_last]
  simp

/-- **The records of Ask.** Whatever the stages return and wherever they raise, the generator ends. Its
records are numbered from 1 on under one correlation id; they are one accepted event, progress, one
outcome and one done event. `ask` raises the exception of the outcome if it carries one, else it returns
the response that the two last records carry; `ask_stream` gives the events of the records. -/
theorem askEventRecords_grammar (service : QanerisService ρ) (id : CorrelationId) (request : AskRequest) :
    ∃ first between outcome last response,
      (service.askEventRecords id request).run.run {} =
          (.ok (), { sequence := between.length + 3, records := first :: between ++ [outcome, last] }) ∧
      (first :: between ++ [outcome, last]).map (·.event.sequence) = List.range' 1 (between.length + 3) ∧
      (∀ r ∈ first :: between ++ [outcome, last], r.event.correlationId = id) ∧
      Begun first between ∧ Ending outcome last response ∧
      service.askStream id request =
        (.ok (), (first :: between ++ [outcome, last]).map (·.event)) ∧
      service.ask id request = (match outcome.exception with
        | some failure => .error failure
        | none => .ok response) := by
  have hcloses : Triple (fun s => s = {}) (service.askEventRecords id request) (fun _ => Closed id)
      (fun _ _ => False) := askEventRecords_closes
  have hclosed := hcloses {} rfl
  cases hrun : (service.askEventRecords id request).run.run {} with
  | mk result s =>
    rw [hrun] at hclosed
    cases result with
    | error e => exact hclosed.elim
    | ok _ =>
      obtain ⟨hs, first, between, outcome, last, response, hrecords, hbegun, hending⟩ := hclosed
      have hlength : s.sequence = between.length + 3 := by
        have := congrArg List.length hs.sequences
        rw [hrecords] at this
        simpa using this.symm
      refine ⟨first, between, outcome, last, response, ?_, ?_, ?_, hbegun, hending, ?_, ?_⟩
      · rw [← hlength, ← hrecords]
      · rw [← hlength, ← hrecords, hs.sequences]
      · exact hrecords ▸ hs.correlation
      · rw [QanerisService.askStream, hrun, ← hrecords]
      · rw [QanerisService.ask, hrun]
        dsimp only
        rw [hrecords, consume_closed hbegun hending]
        cases outcome.exception <;> rfl

/-! ## An invocation whose second stage raises -/

def unmodelled {α : Type} : Except AskException α :=
  .error (.qaneris "intent_parsing_failed" "自然语言问数需要配置 BusinessQuery intent model")

def sampleSerializer : Serializer where
  response response := .ok [("question", .str response.question)]
  evidence _ := .ok .null
  lower text := text
  redactor :=
    { text := fun _ text => text, pemMaterial := fun text => text, bearerToken := fun text => text,
      apiKeyToken := fun text => text, secretAssignment := fun text => text }
  response_failed _ _ _ := ⟨_, rfl⟩

/-- One source is ready; there is no model that understands a question. -/
def sampleService : QanerisService Unit where
  serializer := sampleSerializer
  listDatasources _ := .ok [{ id := "crm", status := "ready" }]
  executeExplicitSql _ _ _ := unmodelled
  isWorkspaceInventoryQuestion _ := .ok false
  isSchemaInventoryQuestion _ := .ok false
  schemaInventoryResponse _ := unmodelled
  understandIntent _ _ := unmodelled
  retrieveSemantics _ _ _ := unmodelled
  groundSemantics _ _ := unmodelled
  normalizeTimeRange _ := unmodelled
  buildQueryContext _ _ _ _ _ := unmodelled
  planGroundedQuery _ := unmodelled
  generateGroundedQuery _ := unmodelled
  executeGroundedPlan _ _ _ _ := unmodelled
  analyze _ := unmodelled
  summarize _ _ _ _ := unmodelled
  compose _ _ _ _ := unmodelled

def sampleRequest : AskRequest where
  question := "revenue"
  question_length := by decide
  maxRows_range := Contracts.defaultLimit_range

example : (sampleService.askStream ⟨"ask-1", by decide⟩ sampleRequest).2.map (·.eventType)
    = [.accepted, .error, .done] := by
  decide

end Application
