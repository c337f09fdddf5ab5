import Mathlib.Data.List.Basic

/-!
# Scanning a text

A machine reads a text once and writes one character for each that it reads. At each character it sees
the text before, last character first, and the text after.

* `scan_eq_of_simulates` — two machines that agree wherever the first is fine with the text write the same
-/

namespace Infra

/-- What the machine does with the character `c`: what it writes, and its next state. -/
abbrev Scanner (σ : Type) := (state : σ) → (before : List Char) → (c : Char) → (after : List Char) →
  Char × σ

section Scan

variable {σ τ : Type} (m : Scanner σ)

def scan : σ → List Char → List Char → List Char
  | _, _, [] => []
  | state, before, c :: after =>
    (m state before c after).1 :: scan (m state before c after).2 (c :: before) after

/-- The machine is fine with each character, given its state and the text around it. -/
def Fine (fine : σ → List Char → Char → List Char → Bool) : σ → List Char → List Char → Bool
  | _, _, [] => true
  | state, before, c :: after =>
    fine state before c after && Fine fine (m state before c after).2 (c :: before) after

variable {m}

@[simp] theorem scan_nil (state : σ) (before : List Char) : scan m state before [] = [] := rfl

theorem scan_cons (state : σ) (before : List Char) (c : Char) (after : List Char) :
    scan m state before (c :: after) =
      (m state before c after).1 :: scan m (m state before c after).2 (c :: before) after := rfl

/-- Two machines in related states, one of which is fine with the text, write the same. -/
theorem scan_eq_of_simulates {n : Scanner τ} {fine : σ → List Char → Char → List Char → Bool}
    {R : σ → τ → Prop}
    (hstep : ∀ s t before c after, R s t → fine s before c after →
      (m s before c after).1 = (n t before c after).1 ∧
        R (m s before c after).2 (n t before c after).2)
    {s : σ} {t : τ} {before text : List Char} (hR : R s t) (hfine : Fine m fine s before text) :
    scan m s before text = scan n t before text := by
  induction text generalizing s t before with
  | nil => rfl
  | cons c after ih =>
    rw [Fine, Bool.and_eq_true] at hfine
    obtain ⟨hout, hnext⟩ := hstep s t before c after hR hfine.1
    rw [scan_cons, scan_cons, hout, ih hnext hfine.2]

end Scan

end Infra
