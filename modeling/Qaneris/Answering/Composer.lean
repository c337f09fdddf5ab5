import Qaneris.Infra.JsonText
import Qaneris.Infra.Regex
import Qaneris.Infra.Unicode

/-!
# Composing an answer

The model is given a redacted projection of the result and writes a text. The text is kept when every
number in it is a number of the question or of the projection; otherwise the deterministic text
stands.

Redaction, the names that are private and the answer model are parameters.
-/

namespace Answering

open Infra

def isAsciiAlnum (c : Char) : Bool := isAsciiDigit c || isAsciiUpper c || isAsciiLower c

def isSign (c : Char) : Bool := c == '-' || c == '+'

/-- `(?<![0-9A-Za-z])[-+]?\d+(?:,\d{3})*(?:\.\d+)?%?(?![0-9A-Za-z])` -/
def number : Regex Char :=
  .seq (.notBehind isAsciiAlnum) <|
  .seq (.opt (.one isSign)) <|
  .seq (.plus (.one isDecimal)) <|
  .seq (.star (.seq (.one (· == ',')) (.times (.one isDecimal) 3))) <|
  .seq (.opt (.seq (.one (· == '.')) (.plus (.one isDecimal)))) <|
  .seq (.opt (.one (· == '%'))) <|
  .notAhead isAsciiAlnum

def numberTokens (value : List Char) : List (List Char) :=
  (number.finditer value).map fun m => m.text.filter (· != ',')

/-! ## The guard -/

/-- The tokens of the evidence, every item written as JSON. -/
structure NumberEvidenceGuard where
  allowed : List (List Char)

namespace NumberEvidenceGuard

def of (reprFloat : Rat → List Char) (evidence : List Json) : NumberEvidenceGuard :=
  ⟨evidence.flatMap fun item => numberTokens (item.dumps reprFloat)⟩

def allows (guard : NumberEvidenceGuard) (answer : String) : Bool :=
  (numberTokens answer.toList).all (guard.allowed.contains ·)

end NumberEvidenceGuard

/-! ## The composer -/

inductive Source where
  | model
  | deterministicFallback
  deriving DecidableEq, Repr

structure AnswerComposition where
  text : String
  source : Source
  deriving DecidableEq, Repr

/-- The result of the query, as `model_dump` writes it. -/
structure Result where
  columns : List String
  rows : List (List (String × Json))
  rowCount : Nat
  truncated : Bool
  deriving DecidableEq

/-- What the composer relies on. A model that fails raises. -/
structure AnswerComposer where
  model : Option (String → Json → Except String String)
  privateField : String → Bool
  safeText : String → String
  safeValue : Json → Json
  reprFloat : Rat → List Char

namespace AnswerComposer

variable (composer : AnswerComposer)

/-- The columns whose names are not private, the rows cut down to them, and the summary. -/
def projection (result : Result) (numericSummary : Json) : Json :=
  let columns := result.columns.filter fun name => !composer.privateField name
  let rows := result.rows.map fun row =>
    Json.obj (columns.eraseDups.map fun name => (name, (row.lookup name).getD .null))
  let summary := match numericSummary with
    | .obj fields => fields.filter fun field => !composer.privateField field.1
    | _ => []
  composer.safeValue (.obj [("columns", .arr (columns.map .str)), ("rows", .arr rows),
    ("row_count", .int result.rowCount), ("truncated", .bool result.truncated),
    ("deterministic_numeric_summary", .obj summary)])

/-- `term in text` -/
def contains (text term : List Char) : Bool := text.tails.any (term.isPrefixOf ·)

def compose (question : String) (result : Result) (numericSummary : Json)
    (deterministicFallback : String) : AnswerComposition :=
  let fallback : AnswerComposition := ⟨deterministicFallback, .deterministicFallback⟩
  match composer.model with
  | none => fallback
  | some answerQuestion =>
    let safeQuestion := composer.safeText question
    let projection := composer.projection result numericSummary
    let guard := NumberEvidenceGuard.of composer.reprFloat [.str safeQuestion, projection]
    match answerQuestion safeQuestion projection with
    | .error _ => fallback
    | .ok reply =>
      let stripped := strip reply.toList
      if stripped.isEmpty then fallback
      else
        let answer := composer.safeText (String.ofList stripped)
        if !guard.allows answer then fallback
        else if result.truncated
            && !(["截断", "部分", "上限"].any fun term => contains answer.toList term.toList) then
          fallback
        else ⟨answer, .model⟩

end AnswerComposer

end Answering
