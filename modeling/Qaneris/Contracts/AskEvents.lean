import Qaneris.Contracts.Ask
import Qaneris.Infra.Unicode

/-!
# The events of Ask

The payload of an event is cleaned when the event is made: what a model thought is left out, and what
looks like a credential is hidden.
-/

namespace Contracts

open Infra (Json)

/-- The objects that events and responses are written as. -/
abbrev Payload := List (String × Json)

/-- `_PRIVATE_REASONING_KEYS` -/
def privateReasoningKeys : List String :=
  ["chain_of_thought", "reasoning", "reasoning_content", "thoughts"]

/-- `_CREDENTIAL_KEYS` -/
def credentialKeys : List String :=
  ["api_key", "certificate", "certificate_pem", "client_secret", "connection_string", "credential",
   "credentials", "password", "private_key", "secret", "token"]

def credentialMarkers : List String := ["password", "secret", "token", "api_key", "private_key"]

/-- `_normalized_key` -/
def normalizedKey (key : String) : String :=
  String.ofList ((Infra.casefold (Infra.strip key.toList)).map fun c => if c = '-' then '_' else c)

/-- The texts that are replaced within a text: the secrets of the environment, with the values in
`extra` besides, and what the patterns of this module match. -/
structure Redactor where
  /-- `SecretRedactor.from_environment(extra_values=…).text` -/
  text : (extra : List String) → String → String
  pemMaterial : String → String
  bearerToken : String → String
  apiKeyToken : String → String
  secretAssignment : String → String

namespace Redactor

variable (redactor : Redactor)

/-- A key whose value is hidden. -/
def credentialKey (normalized : String) : Bool :=
  normalized ∈ credentialKeys
    || credentialMarkers.any fun marker => ("_" ++ marker).toList.isSuffixOf normalized.toList

def safeText (text : String) : String :=
  redactor.secretAssignment <| redactor.apiKeyToken <| redactor.bearerToken <| redactor.pemMaterial <|
    redactor.text [] text

mutual

/-- `_safe_value`; `path` holds the keys on the way to the value. -/
def safeValue (path : List String) : Json → Json
  | .obj fields => .obj (safeFields path fields)
  | .arr items => .arr (safeItems path items)
  | .str text => .str (redactor.safeText text)
  | .null => .null
  | .bool b => .bool b
  | .int n => .int n
  | .real q => .real q

def safeItems (path : List String) : List Json → List Json
  | [] => []
  | item :: items => safeValue path item :: safeItems path items

def safeFields (path : List String) : Payload → Payload
  | [] => []
  | (name, child) :: fields =>
    let normalized := normalizedKey name
    if normalized ∈ privateReasoningKeys then safeFields path fields
    else if credentialKey normalized then (name, .str "<redacted>") :: safeFields path fields
    -- the parameters of a derivation are part of the question, not bound values
    else if normalized = "parameters" ∧ "derivations" ∉ path then
      (name, .str "<redacted>") :: safeFields path fields
    else (name, safeValue (path ++ [normalized]) child) :: safeFields path fields

end

mutual

/-- `SecretRedactor.value` -/
def value (extra : List String) : Json → Json
  | .str text => .str (redactor.text extra text)
  | .obj fields => .obj (fieldValues extra fields)
  | .arr items => .arr (itemValues extra items)
  | .null => .null
  | .bool b => .bool b
  | .int n => .int n
  | .real q => .real q

def itemValues (extra : List String) : List Json → List Json
  | [] => []
  | item :: items => value extra item :: itemValues extra items

def fieldValues (extra : List String) : Payload → Payload
  | [] => []
  | (name, item) :: fields => (name, value extra item) :: fieldValues extra fields

end

end Redactor

/-- `AskEvent(…)` -/
def AskEvent.make (redactor : Redactor) (eventType : AskEventType) (sequence : Nat)
    (correlationId : CorrelationId) (payload : Payload) (h : 1 ≤ sequence) : AskEvent where
  eventType := eventType
  sequence := sequence
  payload := .obj (redactor.safeFields [] payload)
  correlationId := correlationId
  sequence_range := h

end Contracts
