import Mathlib.Data.Option.Basic

/-!
# Three-valued logic

What SQL makes of a comparison with `NULL`: it is unknown, and a condition holds only when it is true.

* `all_eq_true` — a conjunction is true if and only if each of its parts is
* `any_eq_true` — a disjunction is true if and only if one of its parts is
-/

namespace Infra

/-- `none` is unknown. -/
abbrev Truth := Option Bool

namespace Truth

def and : Truth → Truth → Truth
  | some false, _ | _, some false => some false
  | some true, some true => some true
  | _, _ => none

def or : Truth → Truth → Truth
  | some true, _ | _, some true => some true
  | some false, some false => some false
  | _, _ => none

def all (truths : List Truth) : Truth := truths.foldr and (some true)

def any (truths : List Truth) : Truth := truths.foldr or (some false)

theorem and_eq_true {a b : Truth} : a.and b = some true ↔ a = some true ∧ b = some true := by
  rcases a with - | (- | -) <;> rcases b with - | (- | -) <;> simp [and]

theorem or_eq_true {a b : Truth} : a.or b = some true ↔ a = some true ∨ b = some true := by
  rcases a with - | (- | -) <;> rcases b with - | (- | -) <;> simp [or]

theorem all_eq_true {truths : List Truth} :
    all truths = some true ↔ ∀ truth ∈ truths, truth = some true := by
  induction truths with
  | nil => simp [all]
  | cons truth truths ih =>
    rw [all, List.foldr_cons, and_eq_true, ← all, ih, List.forall_mem_cons]

theorem any_eq_true {truths : List Truth} :
    any truths = some true ↔ ∃ truth ∈ truths, truth = some true := by
  induction truths with
  | nil => simp [any]
  | cons truth truths ih =>
    rw [any, List.foldr_cons, or_eq_true, ← any, ih]
    simp only [List.mem_cons, exists_eq_or_imp]

end Truth

end Infra
