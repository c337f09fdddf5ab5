import Qaneris.Infra.Lines
import Qaneris.Infra.Utf8

/-!
# Reading an event stream

`parseSSEStream` of the browser. The chunks of the response body are decoded and appended to a buffer,
each block up to a blank line is one frame, and what is left when the body ends is a frame as well.
`JSON.parse` and the decoder are parameters.
-/

namespace Web

open Infra (StreamDecoder splitBlank splitLines)

inductive StreamError where
  | wrongContentType
  | unavailable
  | invalidJson
  | readFailed
  deriving DecidableEq, Repr

def StreamError.message : StreamError → Option String
  | .wrongContentType => some "Stream returned the wrong content type."
  | .unavailable => some "Streaming is unavailable in this browser."
  | .invalidJson => some "Stream contained invalid JSON."
  | .readFailed => none

/-- The argument of `onFrame`. -/
structure Frame (α : Type) where
  eventName : List Char
  data : α
  deriving DecidableEq, Repr

/-- The calls of `onFrame` in their order, and the error that the promise is rejected with. -/
structure Outcome (α : Type) where
  calls : List (Frame α) := []
  error : Option StreamError := none
  deriving DecidableEq, Repr

/-- What the reader of a body yields: chunks, and then the end or a broken connection. -/
structure Body where
  chunks : List (List UInt8)
  broken : Bool := false

structure Response where
  contentType : Option String
  body : Option Body

/-! ## White space -/

/-- What `trim` removes. -/
def isTrimmed (c : Char) : Bool :=
  let n := c.toNat
  (9 ≤ n && n ≤ 13) || n == 0x20 || n == 0xA0 || n == 0x1680 || (0x2000 ≤ n && n ≤ 0x200A)
    || n == 0x2028 || n == 0x2029 || n == 0x202F || n == 0x205F || n == 0x3000 || n == 0xFEFF

def trimStart (text : List Char) : List Char := text.dropWhile isTrimmed

def trim (text : List Char) : List Char := (trimStart (trimStart text).reverse).reverse

/-! ## One frame -/

/-- What the lines of a frame have set so far. -/
structure Fields where
  eventName : List Char := []
  dataLines : List (List Char) := []

def Fields.line (fields : Fields) (line : List Char) : Fields :=
  if "event:".toList.isPrefixOf line then { fields with eventName := trim (line.drop 6) }
  else if "data:".toList.isPrefixOf line then
    { fields with dataLines := fields.dataLines ++ [trimStart (line.drop 5)] }
  else fields

variable {α : Type} (parse : List Char → Option α)

/-- `consume(frame)` -/
def consume (frame : List Char) : Outcome α :=
  let fields := (splitLines frame).foldl Fields.line {}
  if fields.dataLines.isEmpty then {}
  else
    match parse (Infra.joinLines fields.dataLines) with
    | some data => { calls := [⟨fields.eventName, data⟩] }
    | none => { error := some .invalidJson }

/-- `first`, and then `second` unless `first` has thrown. -/
def Outcome.andThen (first second : Outcome α) : Outcome α :=
  if first.error.isSome then first
  else { calls := first.calls ++ second.calls, error := second.error }

/-! ## The buffer -/

/-- The frames that the inner loop cuts off a buffer of at most `fuel` characters, and the rest. -/
def drainWith : (fuel : Nat) → (buffer : List Char) → List (List Char) × List Char
  | 0, buffer => ([], buffer)
  | fuel + 1, buffer =>
    match splitBlank buffer with
    | none => ([], buffer)
    | some (frame, rest) =>
      let more := drainWith fuel rest
      (frame :: more.1, more.2)

def drain (buffer : List Char) : List (List Char) × List Char := drainWith buffer.length buffer

def consumeAll : List (List Char) → Outcome α
  | [] => {}
  | frame :: frames => (consume parse frame).andThen (consumeAll frames)

/-- The outer loop, over the decoded pieces: the buffer is searched again after each of them. -/
def readPieces (broken : Bool) : (buffer : List Char) → List (List Char) → Outcome α
  | buffer, [] =>
    if broken then { error := some .readFailed }
    else if (trim buffer).isEmpty then {}
    else consume parse buffer
  | buffer, piece :: pieces =>
    let drained := drain (buffer ++ piece)
    (consumeAll parse drained.1).andThen (readPieces broken drained.2 pieces)

/-- ASCII lower case: no other character is `text/event-stream` in lower case. -/
def isEventStream (contentType : String) : Bool :=
  "text/event-stream".toList.isPrefixOf (contentType.toList.map Char.toLower)

def parseSSEStream (decoder : StreamDecoder) (response : Response) : Outcome α :=
  if !response.contentType.any isEventStream then { error := some .wrongContentType }
  else
    match response.body with
    | none => { error := some .unavailable }
    | some body =>
      -- the last piece is the decoder's flush, which a broken connection never reaches
      let pieces := decoder.pieces decoder.start body.chunks
      readPieces parse body.broken [] (if body.broken then pieces.dropLast else pieces)

end Web
