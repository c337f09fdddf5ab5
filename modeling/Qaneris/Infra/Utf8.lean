/-!
# Decoding UTF-8 that arrives in chunks

A streaming decoder turns chunks of bytes into pieces of text. It is faithful when the pieces, put
together, are the text whose bytes came in, wherever the chunks were cut.
-/

namespace Infra

/-- The bytes of a text. -/
def utf8Encode (text : List Char) : List UInt8 := text.flatMap String.utf8EncodeChar

@[simp] theorem utf8Encode_nil : utf8Encode [] = [] := rfl

@[simp] theorem utf8Encode_cons (c : Char) (text : List Char) :
    utf8Encode (c :: text) = String.utf8EncodeChar c ++ utf8Encode text := rfl

/-- `new TextDecoder()`: `decode state bytes stream` is `decode(bytes, { stream })`. -/
structure StreamDecoder where
  State : Type
  start : State
  decode : State → List UInt8 → (stream : Bool) → List Char × State

namespace StreamDecoder

variable (d : StreamDecoder)

/-- The pieces of text for the chunks read, the last one for the end of the input. -/
def pieces : d.State → List (List UInt8) → List (List Char)
  | state, [] => [(d.decode state [] false).1]
  | state, chunk :: chunks =>
    let read := d.decode state chunk true
    read.1 :: pieces read.2 chunks

/-- The pieces make up the text. A byte order mark in front of the text is the exception: a decoder
may drop it. -/
def Faithful : Prop :=
  ∀ (text : List Char) (chunks : List (List UInt8)), text.head? ≠ some '\uFEFF' →
    chunks.flatten = utf8Encode text → (d.pieces d.start chunks).flatten = text

end StreamDecoder

/-! ## A decoder, byte by byte

The bytes of an unfinished character are kept until they make up the character. Only the input that
is the UTF-8 of a text is of interest: an impossible byte is not replaced before the input ends.
-/

/-- The character that the bytes start with. -/
def leadingChar (bytes : List UInt8) : Option Char := bytes.toByteArray.utf8DecodeChar? 0

/-- The text of `bytes` behind the unfinished `pending`, and what is unfinished then. -/
def decodeBytes : (pending bytes : List UInt8) → List Char × List UInt8
  | pending, [] => ([], pending)
  | pending, b :: bytes =>
    match leadingChar (pending ++ [b]) with
    | some c =>
      let more := decodeBytes [] bytes
      (c :: more.1, more.2)
    | none => decodeBytes (pending ++ [b]) bytes

def utf8Decoder : StreamDecoder where
  State := List UInt8
  start := []
  decode pending bytes stream :=
    let read := decodeBytes pending bytes
    if stream then read
    else (if read.2.isEmpty then read.1 else read.1 ++ ['\uFFFD'], [])

/-! ### The bytes of one character -/

theorem leadingChar_encode (c : Char) : leadingChar (String.utf8EncodeChar c) = some c := by
  have h : (String.utf8EncodeChar c).toByteArray.utf8DecodeChar? 0 = some c := by
    rw [← List.utf8Encode_singleton]
    exact List.utf8DecodeChar?_utf8Encode_singleton
  exact h

/-- No character ends before its bytes do. -/
theorem leadingChar_none {c : Char} {front back : List UInt8} (hback : back ≠ [])
    (h : front ++ back = String.utf8EncodeChar c) : leadingChar front = none := by
  cases hf : leadingChar front with
  | none => rfl
  | some other =>
    -- the longer text starts with the same character, so the front holds all its bytes
    have hsome : (front.toByteArray ++ back.toByteArray).utf8DecodeChar? 0 = some other :=
      ByteArray.utf8DecodeChar?_append_eq_some hf _
    rw [← List.toByteArray_append, h] at hsome
    have hc : c = other := by
      have := (leadingChar_encode c).symm.trans hsome
      exact Option.some.inj this
    subst hc
    obtain ⟨rest, hrest⟩ := ByteArray.exists_of_utf8DecodeChar?_eq_some hf
    have hsize := congrArg ByteArray.size hrest
    have hlen := congrArg List.length h
    have : 0 < back.length := List.length_pos_iff.mpr hback
    simp at hsize hlen
    omega

theorem decodeBytes_char {c : Char} : ∀ {front back : List UInt8} (rest : List UInt8),
    back ≠ [] → front ++ back = String.utf8EncodeChar c →
    decodeBytes front (back ++ rest)
      = (c :: (decodeBytes [] rest).1, (decodeBytes [] rest).2)
  | _, [], _, h, _ => absurd rfl h
  | front, [b], rest, _, h => by
    rw [List.cons_append, List.nil_append, decodeBytes, h, leadingChar_encode]
  | front, b :: b' :: back, rest, _, h => by
    have h' : (front ++ [b]) ++ (b' :: back) = String.utf8EncodeChar c := by
      rw [← h]
      simp
    rw [List.cons_append, decodeBytes, leadingChar_none (by simp) h']
    exact decodeBytes_char rest (by simp) h'

/-! ### The bytes of a text -/

theorem decodeBytes_encode : ∀ text : List Char, decodeBytes [] (utf8Encode text) = (text, [])
  | [] => rfl
  | c :: text => by
    rw [utf8Encode_cons, decodeBytes_char _ String.utf8EncodeChar_ne_nil (List.nil_append _),
      decodeBytes_encode text]

/-- Where the bytes are cut makes no difference. -/
theorem decodeBytes_append : ∀ pending a b : List UInt8, decodeBytes pending (a ++ b)
    = ((decodeBytes pending a).1 ++ (decodeBytes (decodeBytes pending a).2 b).1,
      (decodeBytes (decodeBytes pending a).2 b).2)
  | _, [], _ => rfl
  | pending, byte :: a, b => by
    rw [List.cons_append, decodeBytes, decodeBytes]
    cases leadingChar (pending ++ [byte]) with
    | some c =>
      have ih := decodeBytes_append [] a b
      simp only [ih, List.cons_append]
    | none => exact decodeBytes_append (pending ++ [byte]) a b

theorem utf8Decoder_pieces : ∀ (pending : List UInt8) (chunks : List (List UInt8)),
    (decodeBytes pending chunks.flatten).2 = [] →
    (utf8Decoder.pieces pending chunks).flatten = (decodeBytes pending chunks.flatten).1
  | pending, [], h => by
    have hp : pending = [] := h
    subst hp
    rfl
  | pending, chunk :: chunks, h => by
    rw [List.flatten_cons, decodeBytes_append] at h ⊢
    have ih := utf8Decoder_pieces (decodeBytes pending chunk).2 chunks h
    rw [← ih]
    rfl

theorem utf8Decoder_faithful : utf8Decoder.Faithful := by
  intro text chunks _ h
  have hread := decodeBytes_encode text
  rw [← h] at hread
  have := utf8Decoder_pieces [] chunks (by rw [hread])
  rw [hread] at this
  exact this

end Infra
