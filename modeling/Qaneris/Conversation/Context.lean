import Qaneris.Conversation.Models
import Qaneris.Infra.JsonText

/-!
# The context of a follow-up

`working_set`: what the model reads of a conversation, the confirmed memory and the last messages. The memory
is read here as the JSON it is stored as. How Python writes a value and a float is a parameter.
-/

namespace Conversations

open Infra (Json)

/-- The fields of `SemanticMemory`, with the dictionaries of filters and findings as they are. -/
structure MemoryFields where
  confirmedBusinessQuery : Json := .null
  selectedDatasourceIds : List String := []
  activeMetrics : List String := []
  activeDimensions : List String := []
  activeTimeExpression : Option String := none
  activeFilters : List (List (String × Json)) := []
  requestedOutput : List String := []
  lastRunId : Option String := none
  lastResultShape : Json := .null
  evidenceRefs : List String := []
  diagnosticFindings : List (List (String × Json)) := []
  updatedAt : String
  deriving Repr

/-- What Python writes: `str(value)`, and a float in JSON. -/
structure Writing where
  str : Json → String
  float : Rat → List Char

/-- `text[:n]` -/
def clip (n : Nat) (text : String) : String := String.ofList (text.toList.take n)

def texts (items : List String) : Json := .arr (items.map Json.str)

def optional (text : Option String) : Json := (text.map Json.str).getD .null

/-- `memory.model_dump(mode="json")` -/
def MemoryFields.dump (m : MemoryFields) : Json :=
  .obj [("confirmed_business_query", m.confirmedBusinessQuery),
    ("selected_datasource_ids", texts m.selectedDatasourceIds),
    ("active_metrics", texts m.activeMetrics), ("active_dimensions", texts m.activeDimensions),
    ("active_time_expression", optional m.activeTimeExpression),
    ("active_filters", .arr (m.activeFilters.map Json.obj)),
    ("requested_output", texts m.requestedOutput), ("last_run_id", optional m.lastRunId),
    ("last_result_shape", m.lastResultShape), ("evidence_refs", texts m.evidenceRefs),
    ("diagnostic_findings", .arr (m.diagnosticFindings.map Json.obj)), ("updated_at", .str m.updatedAt)]

/-- `items[-n:]` -/
def lastOf {α : Type} (n : Nat) (items : List α) : List α :=
  if n = 0 then items else items.drop (items.length - n)

/-- `value[-3:]`, of what can be sliced. -/
def lastThree : Json → Option Json
  | .arr items => some (.arr (lastOf 3 items))
  | .str s => some (.str (String.ofList (lastOf 3 s.toList)))
  | _ => none

section Compact

variable (w : Writing)

/-- One finding in the compact form; `none`: a `TypeError`. -/
def compactFinding (item : List (String × Json)) : Option Json := do
  let text (key : String) := w.str ((item.lookup key).getD (.str ""))
  let refs ← lastThree ((item.lookup "evidence_refs").getD (.arr []))
  return .obj [("target_summary", .str (clip 120 (text "target_summary"))),
    ("statement", .str (clip 240 (text "statement"))), ("evidence_refs", refs),
    ("scan_version", (item.lookup "scan_version").getD .null),
    ("observed_at", (item.lookup "observed_at").getD .null)]

def shortTexts (items : List String) : Json := texts ((items.take 8).map (clip 100))

/-- The compact form of a memory. -/
def compact (m : MemoryFields) : Option Json := do
  let findings ← (lastOf 2 m.diagnosticFindings).mapM (compactFinding w)
  return .obj [("active_metrics", shortTexts m.activeMetrics),
    ("active_dimensions", shortTexts m.activeDimensions),
    ("active_time_expression", .str (clip 100 (m.activeTimeExpression.getD ""))),
    ("active_filters", .arr ((m.activeFilters.take 8).map fun item =>
      .obj (item.map fun (key, value) => (key, .str (clip 100 (w.str value)))))),
    ("requested_output", shortTexts m.requestedOutput), ("last_run_id", optional m.lastRunId),
    ("diagnostic_findings", .arr findings)]

/-- `len(json.dumps(value, ensure_ascii=False))` -/
def jsonLength (value : Json) : Nat := (value.dumps w.float).length

/-- The memory that is sent: as it is when it takes at most half of the characters. -/
def semanticPart (m : MemoryFields) (maxChars : Nat) : Option Json :=
  if maxChars / 2 < jsonLength w m.dump then compact w m else some m.dump

end Compact

/-- A message as it is sent. -/
structure Selected where
  role : Role
  content : String
  deriving DecidableEq, Repr

/-- The loop over the messages, the newest first. -/
def selectMessages : List Message → (remaining : Nat) → List Selected
  | [], _ => []
  | message :: messages, remaining =>
    if remaining = 0 then []
    else
      ⟨message.role, clip remaining message.content⟩ ::
        selectMessages messages (remaining - (clip remaining message.content).length)

structure WorkingSet where
  messages : List Selected
  confirmedSemanticMemory : Json
  evidenceRefs : List String
  deriving Repr

/-- `working_set`; `none`: a `TypeError`. -/
def workingSet (w : Writing) (messages : List Message) (memory : MemoryFields) (maxMessages maxChars : Nat) :
    Option WorkingSet :=
  (semanticPart w memory maxChars).map fun semantic =>
    { messages := (selectMessages (lastOf maxMessages messages).reverse
        (maxChars - jsonLength w semantic)).reverse
      confirmedSemanticMemory := semantic
      evidenceRefs := lastOf 3 memory.evidenceRefs }

end Conversations
