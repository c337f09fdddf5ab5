import Qaneris.Diagnostics.Policy
import Qaneris.Diagnostics.Repository
import Qaneris.Federation.Validator
import Qaneris.Runtime.Repository

/-!
# What the runtime works on

The stores that the workers of runs share, the questions a worker asks of everything else, and the
operations that `RunOrchestrator` and its two coordinators have in common. Each call to a store is one
indivisible step that may fail; between two steps other calls may act.

The state also keeps a log and a history of acts that no program reads. They say what the proofs
talk about.
-/

namespace Runtime

open Contracts (AskEvent AskRequest AskResponse BusinessObjective BusinessQuery ComparisonSpec Instant
  Row)
open Infra (Json Program Transaction)
open Infra.Program (attempt ofExcept atomic)

/-! ## State -/

/-- What has happened to a run. -/
inductive Mark where
  /-- A worker won the run and began an attempt. -/
  | attempted (runId : String)
  /-- An attempt read the messages of its conversation: the run had this question and these answers,
  and `question` is what the attempt hands to the resolver. -/
  | asked (runId conversationId original : String) (clarifications : List String) (question : String)
  /-- A `cancel` call changed the run. -/
  | cancelled (runId : String)
  /-- A worker that gives an attempt up has looked for a request to cancel it. -/
  | looked (runId : String)
  /-- A federated attempt came to a task that waits for the user and had no answer for it. -/
  | passedOver (runId : String)
  /-- The store failed when a worker began an attempt or gave one up that was in progress. -/
  | unrecorded (runId : String)
  deriving DecidableEq, Repr

def Mark.runId : Mark → String
  | .attempted runId | .asked runId _ _ _ _ | .cancelled runId | .looked runId | .passedOver runId
  | .unrecorded runId => runId

/-- How a run was queued for a worker. -/
inductive Queueing where
  | created
  | clarified
  | retried
  deriving DecidableEq, Repr

/-- One act of the history of a run. -/
inductive Act where
  | queued (runId : String) (how : Queueing)
  /-- A worker won the run. -/
  | started (runId : String)
  /-- A worker that begins an Ask invocation next looked for a request to cancel the run, and there was
  none. -/
  | cleared (runId : String)
  /-- A `cancel` call changed the run. -/
  | cancelled (runId : String)
  /-- A `cancel` call met a failed run that is queued again, and left it alone. -/
  | declined (runId : String)
  /-- A worker went on after a task although the run had been cancelled. -/
  | overran (runId : String)
  /-- A worker read the run to complete it although there was a request to cancel it. -/
  | overlooked (runId : String)
  /-- An Ask invocation began, for a task of the run or for the run itself. -/
  | invoked (runId : String) (taskId : Option String) (question : String)
  /-- The run began to wait for its user, at a task of its own or not. -/
  | prompted (runId : String) (taskId : Option String)
  /-- The answer of the user was stored. -/
  | answered (runId answer : String)
  | completed (runId : String)
  /-- A recovery read that the run is completed and lacks the event that says so. -/
  | listed (runId : String)
  deriving DecidableEq, Repr

structure World where
  conversations : Conversations.Store := {}
  runs : Store := {}
  federation : Federation.Store := {}
  diagnostics : Diagnostics.Store := {}
  /-- What was given to the scheduler. -/
  submitted : List String := []
  log : List Mark := []
  acts : List Act := []
  deriving DecidableEq

/-- The state with more in its log and its history. -/
def World.noting (w : World) (marks : List Mark) (acts : List Act) : World :=
  { w with log := w.log ++ marks, acts := w.acts ++ acts }

/-! ## Questions -/

structure RuleExtraction where
  objectiveHint : Option BusinessObjective
  comparison : Option ComparisonSpec

structure Datasource where
  id : String
  name : String
  status : String

inductive RoutingKind where
  | singleSource
  | federated
  deriving DecidableEq, Repr

structure RoutingDecision where
  kind : RoutingKind
  businessQuery : Option BusinessQuery
  sources : List Json
  singleDatasourceId : Option String := none

/-- One record of an Ask invocation. -/
structure AskEventRecord where
  event : AskEvent
  response : Option AskResponse := none
  exception : Option Failure := none

/-- What iterating over an Ask invocation gives: its records, and the exception that ends it early. -/
structure AskStream where
  records : List AskEventRecord
  raised : Option Failure := none

structure MappingSummary where
  mappingId : String
  businessKey : String
  leftDatasourceId : String
  rightDatasourceId : String
  leftGrain : String
  rightGrain : String
  cardinality : Federation.Cardinality

structure FederatedPlanningContext where
  question : String
  businessQuery : Option BusinessQuery
  sources : List Json
  confirmedJoinMappings : List MappingSummary
  activeMetrics : List String
  activeDimensions : List String
  activeTimeExpression : Option String
  allowedMergeOperations : List Federation.MergeOperation
  executionScope : Federation.ExecutionScope

/-- What a worker asks: whether the call to a store fails, the clock, a fresh identifier, the models,
the catalog, and the parts of the application that only read. -/
inductive Question where
  | fault
  | clock
  | uuid
  | resolve (question : String) (memory : Conversations.SemanticMemory)
      (messages : List Conversations.Message)
  | extract (text : String)
  | isWorkspaceInventoryQuestion (text : String)
  | listDatasources (workspaceId : String)
  | route (question workspaceId : String) (allowed : List String)
  | askRecords (request : AskRequest)
  | activeVersion (datasourceId : String)
  | planFederation (context : FederatedPlanningContext)
  | merge (plan : Federation.MergePlan) (responses : List (String × AskResponse))
      (scope : Federation.ExecutionScope) (mapping : Option Federation.JoinMapping)
  | composeFederated (question : String) (merged : Federation.MergedResult)
      (evidence : Federation.FederatedEvidence)
  | proposeEvidenceQuestions (context : Diagnostics.DiagnosticPlanningContext)
  /-- The model's diagnosis, where there is one that its guard accepts. -/
  | synthesizeDiagnosis (context : Diagnostics.DiagnosticSynthesisContext)
      (memory : Conversations.SemanticMemory)
  /-- How often a loop is entered before it ends; a loop that goes on waits for `never`. -/
  | rounds
  | never

abbrev Answer : Question → Type
  | .fault => Bool
  | .clock => Instant
  | .uuid => String
  | .resolve _ _ _ => Except Failure String
  | .extract _ => Except Failure RuleExtraction
  | .isWorkspaceInventoryQuestion _ => Bool
  | .listDatasources _ => Except Failure (List Datasource)
  | .route _ _ _ => Except Failure RoutingDecision
  | .askRecords _ => AskStream
  | .activeVersion _ => Except Failure (Option Int)
  | .planFederation _ => Except Failure Federation.FederatedPlanDraft
  | .merge _ _ _ _ => Except Failure Federation.MergedResult
  | .composeFederated _ _ _ => Except Failure (String × String)
  | .proposeEvidenceQuestions _ => Except Failure Diagnostics.DiagnosticDecision
  | .synthesizeDiagnosis _ _ => Option String
  | .rounds => Nat
  | .never => Empty

abbrev Prog := Program World Answer Failure

def ask (q : Question) : Prog (Answer q) :=
  Program.ask q

theorem answer_extract (question : String) :
    Answer (.extract question) = Except Failure RuleExtraction := rfl

/-- A question whose answer may be an error, which is raised. -/
def askOk {α : Type} (q : Question) (h : Answer q = Except Failure α) : Prog α :=
  ask q >>= fun answer => ofExcept (cast h answer)

/-- The loop goes on for ever. -/
def hang {α : Type} : Prog α :=
  ask .never >>= fun answer => answer.elim

/-! ## Transactions -/

/-- Marks in the log. -/
def note (marks : World → List Mark) : Transaction World Failure Unit := fun w =>
  .ok (w.noting (marks w) [], ())

/-- An act of the history. -/
def did (act : Act) : Transaction World Failure Unit := fun w =>
  .ok (w.noting [] [act], ())

def nothing (_ : World) : List Mark := []

def idle (_ : World) : List Act := []

/-- The mark of a run that is not recorded as it should be: a settled run is. -/
def unrecorded (runId : String) (w : World) : List Mark :=
  if (w.runs.row runId).any fun run => run.status.Settled then [] else [.unrecorded runId]

/-- A transaction that leaves `marks` in the log and `acts` in the history when it succeeds; the acts
depend on the state that it meets. -/
def marked {α : Type} (marks : List Mark) (acts : World → List Act)
    (tx : Transaction World Failure α) : Transaction World Failure α := fun w => do
  let (w', a) ← tx w
  return (w'.noting marks (acts w), a)

/-- A call to a store: it fails for a reason of its own, which leaves `lost` in the log, or it is one
transaction. -/
def storeCallNoting {α : Type} (lost : World → List Mark) (tx : Transaction World Failure α) : Prog α := do
  match ← ask .fault with
  | true =>
    atomic (note lost)
    .throw .operational
  | false => atomic tx

def storeCall {α : Type} (tx : Transaction World Failure α) : Prog α :=
  storeCallNoting nothing tx

def onRuns {α : Type} (tx : Store → Except Failure (Store × α)) : Transaction World Failure α :=
  fun w => do
    let (runs, a) ← tx w.runs
    return ({ w with runs }, a)

def onConversations {α : Type}
    (tx : Conversations.Store → Except Conversations.Failure (Conversations.Store × α)) :
    Transaction World Failure α := fun w =>
  match tx w.conversations with
  | .ok (conversations, a) => .ok ({ w with conversations }, a)
  | .error e => .error (.ofConversation e)

def onFederation {α : Type}
    (tx : Federation.Store → Except Federation.Failure (Federation.Store × α)) :
    Transaction World Failure α := fun w =>
  match tx w.federation with
  | .ok (federation, a) => .ok ({ w with federation }, a)
  | .error e => .error (.ofFederation e)

def onDiagnostics {α : Type}
    (tx : Diagnostics.Store → Except Failure (Diagnostics.Store × α)) :
    Transaction World Failure α := fun w => do
  let (diagnostics, a) ← tx w.diagnostics
  return ({ w with diagnostics }, a)

/-- A transaction that only reads. -/
def reading {σ ε α : Type} (f : σ → Except ε α) : σ → Except ε (σ × α) := fun s =>
  (f s).map fun a => (s, a)

/-! ## The orchestrator -/

/-- `RunOrchestrator` with its collaborators: which of them there are, their budgets, and the pure
functions of the process that it uses. -/
structure Orchestrator where
  diagnosticModel : Bool := false
  diagnosticBudget : Diagnostics.DiagnosticBudget := {}
  federationService : Bool := false
  federationModel : Bool := false
  federationBudget : Federation.FederationBudget := {}
  /-- `uuid5(NAMESPACE_URL, name)` -/
  uuid5 : String → String
  /-- `str.casefold` -/
  fold : List Char → List Char
  /-- `_safe_value` of the event contract on a text and on a payload. -/
  safeValue : String → String
  safePayload : List (String × Json) → List (String × Json)
  /-- `safe_error` -/
  safeError : Failure → String
  /-- `_safe_text`, `_safe_value` and `_private_field` of the answer composer. -/
  safeText : String → String
  safeRow : Row → Row
  safeMemory : Conversations.SemanticMemory → Conversations.SemanticMemory
  safeMerged : Federation.MergedResult → Federation.MergedResult
  privateField : String → Bool
  /-- `json.dumps(rows, ensure_ascii=False, default=str)`, and its length in bytes. -/
  dumps : List Row → String
  encodedSize : List Row → Nat

namespace Orchestrator

variable (self : Orchestrator)

/-! ## Runs -/

/-- `runs.get`, which leaves `seen` in the log and `acts` in the history. -/
def getNoting (lost : World → List Mark) (seen : List Mark) (runId : String)
    (acts : World → List Act := idle) : Prog Run :=
  storeCallNoting lost (marked seen acts (onRuns (reading fun s => s.get runId)))

/-- `self.runs.get(run_id)` -/
def get (runId : String) : Prog Run :=
  getNoting nothing [] runId

/-- `_save`, which leaves `done` in the log and `acts` in the history. -/
def saveNoting (lost : World → List Mark) (done : List Mark) (run : Run)
    (acts : List Act := []) : Prog Run := do
  let now ← ask .clock
  storeCallNoting lost (marked done (fun _ => acts) (onRuns fun s => s.save run run.revision now))

/-- `_save` -/
def save (run : Run) : Prog Run :=
  saveNoting nothing [] run

/-- `self._save(transition(run, target, **changes))` -/
def saveMovedNoting (lost : World → List Mark) (run : Run) (target : RunStatus)
    (changes : Run → Run) (acts : List Act := []) : Prog Run := do
  let moved ← ofExcept (transition run target)
  saveNoting lost [] (changes moved) acts

def saveMoved (run : Run) (target : RunStatus) (changes : Run → Run) (acts : List Act := []) :
    Prog Run :=
  saveMovedNoting nothing run target changes acts

/-- `runs.append_event` -/
def appendEventNoting (lost : World → List Mark) (runId : String) (eventType : RunEventType)
    (payload : List (String × Json)) : Prog Unit := do
  let now ← ask .clock
  storeCallNoting lost
    (onRuns fun s => .ok (s.appendEvent runId eventType (self.safePayload payload) now, ()))

def appendEvent (runId : String) (eventType : RunEventType) (payload : List (String × Json)) :
    Prog Unit :=
  self.appendEventNoting nothing runId eventType payload

/-- `_ORDER[_ORDER.index(current) + 1 : _ORDER.index(target) + 1]` -/
def stagesBetween (current target : RunStatus) : List RunStatus :=
  (order.take (order.idxOf target + 1)).drop (order.idxOf current + 1)

def saveStages (run : Run) : List RunStatus → Prog Run
  | [] => pure run
  | stage :: stages => do
    let run ← saveMoved run stage id
    saveStages run stages

/-- `_advance` -/
def advance (run : Run) (target : RunStatus) : Prog Run :=
  if run.status = target ∨ ¬ run.status.Active ∨ ¬ target.Active then pure run
  else saveStages run (stagesBetween run.status target)

/-- `if record.event.event_type == …: run = self._advance(run, …)` -/
def advanceBy (run : Run) : Contracts.AskEventType → Prog Run
  | .planReady => advance run .planning
  | .executionStarted => advance run .executing
  | .resultReady => advance run .answering
  | _ => pure run

/-- The act of reading a run, to begin an Ask invocation, in which there is no request to cancel it. -/
def cleared (runId : String) (w : World) : List Act :=
  if (w.runs.row runId).any Run.cancelRequested then [] else [.cleared runId]

/-- The act of reading a run after a task: it was cancelled while it waited for its user. -/
def overran (runId : String) (w : World) : List Act :=
  if (w.runs.row runId).any fun run => run.status = .cancelled ∧ ¬ run.cancelRequested then
    [.overran runId]
  else []

/-- The act of reading a run to complete it: there is a request to cancel it. -/
def overlooked (runId : String) (w : World) : List Act :=
  if (w.runs.row runId).any Run.cancelRequested then [.overlooked runId] else []

/-- `_cancel_if_requested`; the reading of the run leaves `seen` in the log and `acts` in the
history. -/
def cancelIfRequestedNoting (lost : World → List Mark) (seen : List Mark) (run : Run)
    (acts : World → List Act := idle) : Prog (Option Run) := do
  let latest ← getNoting lost seen run.runId acts
  if ¬ latest.cancelRequested then return none
  else if latest.status ∈ terminal then return some latest
  else
    let now ← ask .clock
    let cancelled ← saveMovedNoting lost latest .cancelled fun run =>
      { run with completedAt := some now }
    self.appendEvent run.runId .runCancelled []
    return some cancelled

def cancelIfRequested (run : Run) : Prog (Option Run) :=
  self.cancelIfRequestedNoting nothing [] run

/-- `if self._cancel_if_requested(run): return cancelled` before the rest. -/
def unlessCancelled {α : Type} (run : Run) (cancelled : α) (rest : Prog α) : Prog α := do
  match ← self.cancelIfRequested run with
  | some _ => return cancelled
  | none => rest

/-- The same before an Ask invocation, which the rest begins with. -/
def beforeInvoking {α : Type} (run : Run) (cancelled : α) (rest : Prog α) : Prog α := do
  match ← self.cancelIfRequestedNoting nothing [] run (cleared run.runId) with
  | some _ => return cancelled
  | none => rest

/-! ## Messages and memory -/

/-- `messages.assistant_message(…)`; a clarification is told apart by the revision it was asked at. -/
def assistantMessage (conversationId content runId : String) (checkpointRevision : Option Nat) :
    Prog Unit := do
  let now ← ask .clock
  let (messageId, messageKind) := match checkpointRevision with
    | none => (self.uuid5 ("assistant:" ++ runId), Conversations.MessageKind.normal)
    | some revision =>
      (self.uuid5 ("clarification:" ++ runId ++ ":" ++ Nat.repr revision), .clarification)
  storeCall (onConversations fun s => .ok (s.addMessage {
    messageId, conversationId, role := .assistant, content := self.safeValue content
    runId := some runId, messageKind, createdAt := now }, ()))

/-- `conversations.memory(conversation_id)` -/
def memory (conversationId : String) : Prog Conversations.SemanticMemory :=
  storeCall (onConversations (reading fun s => s.memory conversationId))

/-- `conversations.put_memory(conversation_id, memory, memory_revision(conversation_id))` -/
def putMemory (conversationId : String) (memory : Conversations.SemanticMemory) : Prog Unit := do
  let revision ← storeCall (onConversations (reading fun s => s.memoryRevision conversationId))
  storeCall (onConversations fun s => s.putMemory conversationId memory revision)

/-- `AskRequest(…)` -/
def askRequest (question workspaceId : String) (datasourceId : Option String) (maxRows : Int) :
    Prog AskRequest :=
  match AskRequest.make question workspaceId datasourceId maxRows with
  | some request => pure request
  | none => .throw .validation

/-- `ask.execute(request)`, for a task of the run or for the run itself. It does nothing until its first
record is asked for. -/
def invoke (runId : String) (taskId : Option String) (request : AskRequest) : Prog AskStream := do
  atomic (did (.invoked runId taskId request.question))
  ask (.askRecords request)

/-- A run that waits with an answer to be asked for: the checkpoint, the message and the event. -/
def waitForUser (run : Run) (response : ResponseJson) (message : String)
    (payload : List (String × Json)) (taskId : Option String := none) : Prog Unit := do
  let run ← saveMoved run .waitingUser (fun run => { run with responseJson := some response })
    [.prompted run.runId taskId]
  self.assistantMessage run.conversationId message run.runId (some run.revision)
  self.appendEvent run.runId .clarificationRequired payload

end Orchestrator

end Runtime
