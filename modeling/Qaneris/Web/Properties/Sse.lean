import Qaneris.Interfaces.Frames
import Qaneris.Web.Sse

/-!
# Frames survive the stream

`parseSSEStream` sees the text of the body only: where the chunks are cut makes no difference. A frame
of `stream_run` has no line break but its own three, so it is read back as the one call it stands for.
-/

namespace Web

open Infra (StreamDecoder OneLine IsBlock splitBlank splitLines joinLines utf8Encode)
open Infra (splitBlank_append splitBlank_length splitBlank_joinLines splitLines_joinLines)
open Runtime (RunEvent RunEventType)
open Interfaces (Texts)

/-! ## The buffer -/

theorem drainWith_some {n : Nat} {buffer frame rest : List Char}
    (h : splitBlank buffer = some (frame, rest)) :
    drainWith (n + 1) buffer = (frame :: (drainWith n rest).1, (drainWith n rest).2) := by
  rw [drainWith, h]

theorem drainWith_enough : ∀ {fuel : Nat} {buffer : List Char}, buffer.length ≤ fuel →
    drainWith fuel buffer = drain buffer := by
  intro fuel
  induction fuel using Nat.strong_induction_on with
  | _ fuel ih =>
    intro buffer hle
    rw [drain]
    cases hs : splitBlank buffer with
    | none =>
      have hstop : ∀ n, drainWith n buffer = ([], buffer) := by
        intro n
        cases n with
        | zero => rfl
        | succ n => rw [drainWith, hs]
      rw [hstop, hstop]
    | some cut =>
      obtain ⟨frame, rest⟩ := cut
      have hlen := splitBlank_length hs
      obtain ⟨n, rfl⟩ : ∃ n, fuel = n + 1 := ⟨fuel - 1, by omega⟩
      obtain ⟨m, hm⟩ : ∃ m, buffer.length = m + 1 := ⟨buffer.length - 1, by omega⟩
      have hn : drainWith n rest = drain rest := ih n (by omega) (by omega)
      have hm' : drainWith m rest = drain rest := ih m (by omega) (by omega)
      rw [hm, drainWith_some hs, drainWith_some hs, hn, hm']

theorem drain_none {buffer : List Char} (h : splitBlank buffer = none) :
    drain buffer = ([], buffer) := by
  rw [drain]
  cases buffer.length with
  | zero => rfl
  | succ n => rw [drainWith, h]

theorem drain_some {buffer frame rest : List Char} (h : splitBlank buffer = some (frame, rest)) :
    drain buffer = (frame :: (drain rest).1, (drain rest).2) := by
  have hlen := splitBlank_length h
  obtain ⟨n, hn⟩ : ∃ n, buffer.length = n + 1 := ⟨buffer.length - 1, by omega⟩
  have : drainWith n rest = drain rest := drainWith_enough (by omega)
  rw [drain, hn, drainWith_some h, this]

/-- No frame is left in the rest. -/
theorem splitBlank_drain (buffer : List Char) : splitBlank (drain buffer).2 = none := by
  induction hn : buffer.length using Nat.strong_induction_on generalizing buffer with
  | _ n ih =>
    cases hs : splitBlank buffer with
    | none => rw [drain_none hs, hs]
    | some cut =>
      have hlen := splitBlank_length hs
      rw [drain_some hs]
      exact ih _ (by omega) _ rfl

/-- **More text behind changes nothing in front**: the frames found stay, and the search goes on in
the rest. -/
theorem drain_append (a b : List Char) : drain (a ++ b)
    = ((drain a).1 ++ (drain ((drain a).2 ++ b)).1, (drain ((drain a).2 ++ b)).2) := by
  induction hn : a.length using Nat.strong_induction_on generalizing a with
  | _ n ih =>
    cases hs : splitBlank a with
    | none => rw [drain_none hs, List.nil_append]
    | some cut =>
      have hlen := splitBlank_length hs
      rw [drain_some hs, drain_some (splitBlank_append b hs), ih _ (by omega) _ rfl]
      simp

/-! ## Outcomes -/

variable {α : Type}

@[simp] theorem Outcome.andThen_empty (first : Outcome α) : first.andThen {} = first := by
  unfold Outcome.andThen
  split
  · rfl
  · rename_i h
    have : first.error = none := by simpa using h
    rw [← this]
    simp

@[simp] theorem Outcome.empty_andThen (second : Outcome α) :
    Outcome.andThen {} second = second := by
  simp [Outcome.andThen]

theorem Outcome.andThen_assoc (a b c : Outcome α) :
    (a.andThen b).andThen c = a.andThen (b.andThen c) := by
  by_cases ha : a.error.isSome
  · simp [andThen, ha]
  · by_cases hb : b.error.isSome
    · simp [andThen, ha, hb]
    · simp [andThen, ha, hb]

variable (parse : List Char → Option α)

theorem consumeAll_append (a b : List (List Char)) :
    consumeAll parse (a ++ b) = (consumeAll parse a).andThen (consumeAll parse b) := by
  induction a with
  | nil => simp [consumeAll]
  | cons frame a ih => rw [List.cons_append, consumeAll, consumeAll, ih, Outcome.andThen_assoc]

/-! ## Any chunks -/

/-- What a whole text is read as. -/
def readText (text : List Char) : Outcome α :=
  (consumeAll parse (drain text).1).andThen
    (if (trim (drain text).2).isEmpty then {} else consume parse (drain text).2)

/-- The induction is on the pieces; the buffer between two of them holds no whole frame. -/
theorem readPieces_eq : ∀ (pieces : List (List Char)) {buffer : List Char},
    splitBlank buffer = none →
    readPieces parse false buffer pieces = readText parse (buffer ++ pieces.flatten)
  | [], buffer, h => by
    simp [readPieces, readText, drain_none h, consumeAll]
  | piece :: pieces, buffer, _ => by
    have ih := readPieces_eq pieces (splitBlank_drain (buffer ++ piece))
    rw [readPieces, ih, readText, readText, List.flatten_cons, ← List.append_assoc,
      drain_append (buffer ++ piece), consumeAll_append, Outcome.andThen_assoc]

/-- **Where the body is cut makes no difference**: only its text counts. -/
theorem parseSSEStream_text {decoder : StreamDecoder} (hd : decoder.Faithful)
    {contentType : String} (hc : isEventStream contentType = true) {text : List Char}
    {chunks : List (List UInt8)} (hbom : text.head? ≠ some '\uFEFF')
    (h : chunks.flatten = utf8Encode text) :
    parseSSEStream parse decoder ⟨some contentType, some ⟨chunks, false⟩⟩ = readText parse text := by
  have hpieces := readPieces_eq parse (decoder.pieces decoder.start chunks)
    (rfl : splitBlank [] = none)
  rw [hd text chunks hbom h, List.nil_append] at hpieces
  simp [parseSSEStream, hc, hpieces]

/-! ## One frame of a run stream -/

/-- The three lines of a frame. -/
def frameLines (texts : Texts) (event : RunEvent) : List (List Char) :=
  ["id: ".toList ++ (toString event.sequence).toList,
    "event: ".toList ++ event.eventType.value.toList, "data: ".toList ++ texts.dumps event]

theorem frame_eq (texts : Texts) (event : RunEvent) :
    texts.frame event = joinLines (frameLines texts event) ++ ['\n', '\n'] := by
  have hevent : "\nevent: ".toList = '\n' :: "event: ".toList := by decide
  have hdata : "\ndata: ".toList = '\n' :: "data: ".toList := by decide
  have hblank : "\n\n".toList = ['\n', '\n'] := by decide
  unfold Texts.frame frameLines
  rw [hevent, hdata, hblank]
  simp only [joinLines, List.append_assoc, List.cons_append]

/-- The values of the parameters hold no line break. -/
theorem isBlock_frameLines {texts : Texts} (hfloat : ∀ q, OneLine (texts.reprFloat q))
    (event : RunEvent) : IsBlock (frameLines texts event) := by
  have htype : OneLine event.eventType.value.toList := by
    cases event.eventType <;> exact .of_all (by decide)
  have hdata : OneLine (texts.dumps event) := Infra.Json.dumps_oneLine hfloat _
  intro line hline
  simp only [frameLines, List.mem_cons, List.not_mem_nil, or_false] at hline
  rcases hline with rfl | rfl | rfl
  · exact ⟨by simp, .append (.of_all (by decide)) (Infra.Json.nat_oneLine _)⟩
  · exact ⟨by simp, .append (.of_all (by decide)) htype⟩
  · exact ⟨by simp, .append (.of_all (by decide)) hdata⟩

theorem trim_value (type : RunEventType) : trim (' ' :: type.value.toList) = type.value.toList := by
  cases type <;> decide

/-- The data of an event is an object, so no white space is trimmed off its front. -/
theorem trimStart_dumps (texts : Texts) (event : RunEvent) :
    trimStart (' ' :: texts.dumps event) = texts.dumps event := by
  rw [Texts.dumps, RunEvent.modelDump, Infra.Json.dumps]
  rfl

/-! ### The fields -/

theorem line_id (text : List Char) : Fields.line {} ("id: ".toList ++ text) = {} := by
  have hid : "id: ".toList = ['i', 'd', ':', ' '] := by decide
  have hevent : "event:".toList = ['e', 'v', 'e', 'n', 't', ':'] := by decide
  have hdata : "data:".toList = ['d', 'a', 't', 'a', ':'] := by decide
  simp [Fields.line, hid, hevent, hdata]

theorem line_event (fields : Fields) (text : List Char) :
    fields.line ("event: ".toList ++ text) = { fields with eventName := trim (' ' :: text) } := by
  have hspace : "event: ".toList = ['e', 'v', 'e', 'n', 't', ':', ' '] := by decide
  have hevent : "event:".toList = ['e', 'v', 'e', 'n', 't', ':'] := by decide
  simp [Fields.line, hspace, hevent]

theorem line_data (fields : Fields) (text : List Char) :
    fields.line ("data: ".toList ++ text)
      = { fields with dataLines := fields.dataLines ++ [trimStart (' ' :: text)] } := by
  have hspace : "data: ".toList = ['d', 'a', 't', 'a', ':', ' '] := by decide
  have hevent : "event:".toList = ['e', 'v', 'e', 'n', 't', ':'] := by decide
  have hdata : "data:".toList = ['d', 'a', 't', 'a', ':'] := by decide
  simp [Fields.line, hspace, hevent, hdata]

theorem consume_frame {texts : Texts} (hfloat : ∀ q, OneLine (texts.reprFloat q))
    {event : RunEvent} {data : α} (hp : parse (texts.dumps event) = some data) :
    consume parse (joinLines (frameLines texts event))
      = { calls := [⟨event.eventType.value.toList, data⟩] } := by
  have hlines := splitLines_joinLines (by simp [frameLines]) (isBlock_frameLines hfloat event)
  rw [consume, hlines, frameLines]
  simp only [List.foldl_cons, List.foldl_nil, line_id, line_event, line_data, trim_value,
    trimStart_dumps]
  simp [joinLines, hp]

/-! ## The whole stream -/

/-- The text of the body for these events. -/
def streamText (texts : Texts) (events : List RunEvent) : List Char :=
  events.flatMap texts.frame

theorem drain_streamText {texts : Texts} (hfloat : ∀ q, OneLine (texts.reprFloat q)) :
    ∀ events : List RunEvent, drain (streamText texts events)
      = (events.map fun event => joinLines (frameLines texts event), [])
  | [] => rfl
  | event :: events => by
    have hs := splitBlank_joinLines (streamText texts events) (isBlock_frameLines hfloat event)
    have htext : streamText texts (event :: events) = joinLines (frameLines texts event)
        ++ '\n' :: '\n' :: streamText texts events := by
      simp [streamText, frame_eq]
    rw [htext, drain_some hs, drain_streamText hfloat events]
    rfl

theorem consumeAll_frames {texts : Texts} (hfloat : ∀ q, OneLine (texts.reprFloat q))
    {value : RunEvent → α} : ∀ {events : List RunEvent},
    (∀ event ∈ events, parse (texts.dumps event) = some (value event)) →
    consumeAll parse (events.map fun event => joinLines (frameLines texts event))
      = { calls := events.map fun event => ⟨event.eventType.value.toList, value event⟩ }
  | [], _ => rfl
  | event :: events, h => by
    have ih := consumeAll_frames hfloat fun e he => h e (List.mem_cons_of_mem event he)
    rw [List.map_cons, consumeAll, ih, consume_frame parse hfloat (h event List.mem_cons_self)]
    rfl

theorem head?_streamText (texts : Texts) (events : List RunEvent) :
    (streamText texts events).head? ≠ some '\uFEFF' := by
  cases events with
  | nil => simp [streamText]
  | cons event events =>
    have hid : "id: ".toList = ['i', 'd', ':', ' '] := by decide
    unfold streamText
    rw [List.flatMap_cons]
    unfold Texts.frame
    rw [hid]
    simp only [List.append_assoc, List.cons_append, List.head?_cons]
    decide

/-- **Round trip.** Whatever the payloads of the events hold and wherever the bytes are cut,
`parseSSEStream` makes one call for each event, in their order, with its type and the value of its JSON
text, and reports no error. -/
theorem parseSSEStream_run {texts : Texts} (hfloat : ∀ q, OneLine (texts.reprFloat q))
    {decoder : StreamDecoder} (hd : decoder.Faithful) {value : RunEvent → α}
    {events : List RunEvent}
    (hp : ∀ event ∈ events, parse (texts.dumps event) = some (value event))
    {contentType : String} (hc : isEventStream contentType = true) {chunks : List (List UInt8)}
    (h : chunks.flatten = utf8Encode (events.flatMap texts.frame)) :
    parseSSEStream parse decoder ⟨some contentType, some ⟨chunks, false⟩⟩
      = { calls := events.map fun event => ⟨event.eventType.value.toList, value event⟩ } := by
  rw [parseSSEStream_text parse hd hc (head?_streamText texts events) h, readText,
    drain_streamText hfloat, consumeAll_frames parse hfloat hp]
  -- nothing is left in the buffer when the body ends
  exact Outcome.andThen_empty _

/-! ### A payload with breaks in it, one byte at a time -/

def sampleTexts : Texts where
  reprFloat q := (toString q.num).toList
  isoformat _ := "2026-01-01T00:00:00Z"

def sampleEvents : List RunEvent :=
  [{ runId := "run-1", sequence := 1, eventType := .runStarted, occurredAt := 0 },
    { runId := "run-1", sequence := 2, eventType := .contextReady, occurredAt := 0,
      publicPayload := [("resolved_question", .str "销售额\r\n\r\ndata: 1\n\n")] }]

def sampleParse (text : List Char) : Option Infra.Json :=
  (sampleEvents.map fun event => event.modelDump sampleTexts.isoformat).find?
    fun value => value.dumps sampleTexts.reprFloat = text

theorem parseSSEStream_bytes :
    parseSSEStream sampleParse Infra.utf8Decoder
        ⟨some "text/event-stream; charset=utf-8",
          some ⟨(utf8Encode (sampleEvents.flatMap sampleTexts.frame)).map fun b => [b], false⟩⟩
      = { calls := sampleEvents.map fun event =>
            ⟨event.eventType.value.toList, event.modelDump sampleTexts.isoformat⟩ } := by
  have hparse : ∀ event ∈ sampleEvents, sampleParse (sampleTexts.dumps event)
      = some (event.modelDump sampleTexts.isoformat) := by
    decide +kernel
  have hchunks (bytes : List UInt8) : (bytes.map fun b => [b]).flatten = bytes := by
    rw [← List.flatMap_def, List.flatMap_singleton']
  exact parseSSEStream_run sampleParse (fun q => Infra.Json.int_oneLine q.num)
    Infra.utf8Decoder_faithful hparse (by rfl) (hchunks _)

end Web
