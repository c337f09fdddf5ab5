import Mathlib.Tactic.Common

/-!
# An ideal AEAD

Authenticated encryption under one key, idealised: what opens was sealed, under the nonce and the associated
data it is opened with.
-/

namespace Infra

/-- How texts are sealed. A sealed text is not shorter than its tag. -/
structure Aead (Data : Type) where
  encrypt : (nonce plaintext : List UInt8) → Data → List UInt8
  tagLength : Nat
  tag_pos : 0 < tagLength
  length_encrypt : ∀ nonce plaintext data, (encrypt nonce plaintext data).length = plaintext.length + tagLength
  encrypt_inj : ∀ nonce data {plaintext plaintext'},
    encrypt nonce plaintext data = encrypt nonce plaintext' data → plaintext = plaintext'

/-- What was sealed. -/
structure Sealed (Data : Type) where
  nonce : List UInt8
  data : Data
  plaintext : List UInt8
  ciphertext : List UInt8
  deriving DecidableEq, Repr

namespace Aead

variable {Data : Type} [DecidableEq Data]

/-- The plaintext of a ciphertext that was sealed with the nonce and the data. -/
def decrypt (log : List (Sealed Data)) (nonce ciphertext : List UInt8) (data : Data) : Option (List UInt8) :=
  (log.find? fun s => s.nonce = nonce ∧ s.ciphertext = ciphertext ∧ s.data = data).map Sealed.plaintext

variable {log : List (Sealed Data)} {nonce ciphertext plaintext : List UInt8} {data : Data}

/-- What opens was sealed. -/
theorem exists_of_decrypt (h : decrypt log nonce ciphertext data = some plaintext) :
    ∃ s ∈ log, s.nonce = nonce ∧ s.ciphertext = ciphertext ∧ s.data = data ∧ s.plaintext = plaintext := by
  obtain ⟨s, hs, rfl⟩ := Option.map_eq_some_iff.mp h
  obtain ⟨hnonce, hciphertext, hdata⟩ : s.nonce = nonce ∧ s.ciphertext = ciphertext ∧ s.data = data := by
    simpa using List.find?_some hs
  exact ⟨s, List.mem_of_find?_eq_some hs, hnonce, hciphertext, hdata, rfl⟩

/-- What was sealed opens. -/
theorem decrypt_encrypt (aead : Aead Data) (hlog : ∀ s ∈ log, s.ciphertext = aead.encrypt s.nonce s.plaintext s.data)
    {s : Sealed Data} (h : s ∈ log) : decrypt log s.nonce s.ciphertext s.data = some s.plaintext := by
  have hsome : (decrypt log s.nonce s.ciphertext s.data).isSome := by
    rw [decrypt, Option.isSome_map, List.find?_isSome]
    exact ⟨s, h, by simp⟩
  obtain ⟨plaintext, hopen⟩ := Option.isSome_iff_exists.mp hsome
  obtain ⟨s', hs', hnonce, hciphertext, hdata, rfl⟩ := exists_of_decrypt hopen
  rw [hopen]
  refine congrArg some (aead.encrypt_inj s.nonce s.data ?_)
  rw [← hlog s h, ← hciphertext, hlog s' hs', hnonce, hdata]

end Aead

end Infra
