import Mathlib.Tactic.Common

/-!
# Base64

`urlsafe_b64encode`, and `urlsafe_b64decode` as it forgives: characters outside the alphabet are passed over,
both alphabets are read, and what stands behind the padding is not.

* `decode_encode` — an encoded list of bytes is decoded
-/

namespace Infra.Base64

/-- The digits are the letters, the figures, `-` and `_`. -/
def digit (n : Nat) : Char :=
  if n < 26 then Char.ofNat ('A'.toNat + n)
  else if n < 52 then Char.ofNat ('a'.toNat + (n - 26))
  else if n < 62 then Char.ofNat ('0'.toNat + (n - 52))
  else if n = 62 then '-'
  else '_'

/-- The value of a digit of either alphabet. -/
def sextet (c : Char) : Option Nat :=
  if 'A' ≤ c ∧ c ≤ 'Z' then some (c.toNat - 'A'.toNat)
  else if 'a' ≤ c ∧ c ≤ 'z' then some (c.toNat - 'a'.toNat + 26)
  else if '0' ≤ c ∧ c ≤ '9' then some (c.toNat - '0'.toNat + 52)
  else if c = '-' ∨ c = '+' then some 62
  else if c = '_' ∨ c = '/' then some 63
  else none

/-- `urlsafe_b64encode(bytes)` -/
def encode : List UInt8 → List Char
  | a :: b :: c :: bytes =>
    digit (a.toNat / 4) :: digit (a.toNat % 4 * 16 + b.toNat / 16) :: digit (b.toNat % 16 * 4 + c.toNat / 64) ::
      digit (c.toNat % 64) :: encode bytes
  | [a, b] =>
    [digit (a.toNat / 4), digit (a.toNat % 4 * 16 + b.toNat / 16), digit (b.toNat % 16 * 4), '=']
  | [a] => [digit (a.toNat / 4), digit (a.toNat % 4 * 16), '=', '=']
  | [] => []

/-- `a2b_base64`: `quad` digits of a group are read, `left` are the bits of them that make no byte yet, and `pads`
signs of padding have followed. -/
def decodeFrom (quad left pads : Nat) : List Char → Option (List UInt8)
  | [] => if quad = 0 then some [] else none
  | c :: text =>
    if c = '=' then
      if 2 ≤ quad then
        if 4 ≤ quad + (pads + 1) then some [] else decodeFrom quad left (pads + 1) text
      else decodeFrom quad left pads text
    else
      match sextet c with
      | none => decodeFrom quad left pads text
      | some n =>
        match quad with
        | 0 => decodeFrom 1 n 0 text
        | 1 => (decodeFrom 2 (n % 16) 0 text).map (UInt8.ofNat (left * 4 + n / 16) :: ·)
        | 2 => (decodeFrom 3 (n % 4) 0 text).map (UInt8.ofNat (left * 16 + n / 4) :: ·)
        | _ => (decodeFrom 0 0 0 text).map (UInt8.ofNat (left * 64 + n) :: ·)

/-- `urlsafe_b64decode(text)`; none where it raises a `ValueError`. -/
def decode (text : List Char) : Option (List UInt8) :=
  if text.all fun c => c.toNat < 0x80 then decodeFrom 0 0 0 text else none

/-! ## What is encoded is decoded -/

section Digit

variable {n : Nat}

set_option maxRecDepth 2000 in
theorem sextet_digit (h : n < 64) : sextet (digit n) = some n := by
  have hall : ∀ m : Fin 64, sextet (digit m) = some m.val := by decide
  exact hall ⟨n, h⟩

theorem digit_ne_pad (h : n < 64) : digit n ≠ '=' := by
  have hall : ∀ m : Fin 64, digit m ≠ '=' := by decide
  exact hall ⟨n, h⟩

theorem digit_ascii (n : Nat) : (digit n).toNat < 0x80 := by
  by_cases h : n < 64
  · have hall : ∀ m : Fin 64, (digit m).toNat < 0x80 := by decide
    exact hall ⟨n, h⟩
  · have hlast : digit n = '_' := by
      rw [digit, if_neg (by omega), if_neg (by omega), if_neg (by omega), if_neg (by omega)]
    rw [hlast]
    decide

section Read

variable (h : n < 64) (left pads : Nat) (text : List Char)
include h

theorem decodeFrom_first : decodeFrom 0 left pads (digit n :: text) = decodeFrom 1 n 0 text := by
  simp only [decodeFrom, if_neg (digit_ne_pad h), sextet_digit h]

theorem decodeFrom_second : decodeFrom 1 left pads (digit n :: text) =
    (decodeFrom 2 (n % 16) 0 text).map (UInt8.ofNat (left * 4 + n / 16) :: ·) := by
  simp only [decodeFrom, if_neg (digit_ne_pad h), sextet_digit h]

theorem decodeFrom_third : decodeFrom 2 left pads (digit n :: text) =
    (decodeFrom 3 (n % 4) 0 text).map (UInt8.ofNat (left * 16 + n / 4) :: ·) := by
  simp only [decodeFrom, if_neg (digit_ne_pad h), sextet_digit h]

theorem decodeFrom_fourth : decodeFrom 3 left pads (digit n :: text) =
    (decodeFrom 0 0 0 text).map (UInt8.ofNat (left * 64 + n) :: ·) := by
  simp only [decodeFrom, if_neg (digit_ne_pad h), sextet_digit h]

end Read

end Digit

theorem ofNat_eq {b : UInt8} {n : Nat} (h : n = b.toNat) : UInt8.ofNat n = b := by
  rw [h]
  exact UInt8.ofNat_toNat

theorem decodeFrom_encode (bytes : List UInt8) : decodeFrom 0 0 0 (encode bytes) = some bytes := by
  induction bytes using encode.induct with
  | case1 a b c bytes ih =>
    have ha := a.toNat_lt
    have hb := b.toNat_lt
    have hc := c.toNat_lt
    rw [encode, decodeFrom_first (by omega), decodeFrom_second (by omega), decodeFrom_third (by omega),
      decodeFrom_fourth (by omega), ih, ofNat_eq (b := a) (by omega), ofNat_eq (b := b) (by omega),
      ofNat_eq (b := c) (by omega)]
    rfl
  | case2 a b =>
    have ha := a.toNat_lt
    have hb := b.toNat_lt
    rw [encode, decodeFrom_first (by omega), decodeFrom_second (by omega), decodeFrom_third (by omega),
      ofNat_eq (b := a) (by omega), ofNat_eq (b := b) (by omega)]
    rfl
  | case3 a =>
    have ha := a.toNat_lt
    rw [encode, decodeFrom_first (by omega), decodeFrom_second (by omega), ofNat_eq (b := a) (by omega)]
    rfl
  | case4 => rfl

theorem encode_ascii (bytes : List UInt8) : ∀ c ∈ encode bytes, c.toNat < 0x80 := by
  induction bytes using encode.induct with
  | case1 a b c bytes ih =>
    intro x hx
    simp only [encode, List.mem_cons] at hx
    rcases hx with rfl | rfl | rfl | rfl | hx
    · exact digit_ascii _
    · exact digit_ascii _
    · exact digit_ascii _
    · exact digit_ascii _
    · exact ih x hx
  | case2 a b =>
    intro x hx
    simp only [encode, List.mem_cons, List.not_mem_nil, or_false] at hx
    rcases hx with rfl | rfl | rfl | rfl
    · exact digit_ascii _
    · exact digit_ascii _
    · exact digit_ascii _
    · decide
  | case3 a =>
    intro x hx
    simp only [encode, List.mem_cons, List.not_mem_nil, or_false] at hx
    rcases hx with rfl | rfl | rfl | rfl
    · exact digit_ascii _
    · exact digit_ascii _
    · decide
    · decide
  | case4 => exact fun x hx => absurd hx List.not_mem_nil

/-- What is encoded is decoded. -/
theorem decode_encode (bytes : List UInt8) : decode (encode bytes) = some bytes := by
  have hall : (encode bytes).all (fun c => c.toNat < 0x80) = true :=
    List.all_eq_true.mpr fun c hc => decide_eq_true (encode_ascii bytes c hc)
  rw [decode, if_pos hall]
  exact decodeFrom_encode bytes

end Infra.Base64
