import Mathlib.Data.List.Sort
import Mathlib.Data.Rat.Cast.Order
import Qaneris.Infra.Json

/-!
# Equality of JSON values in Python

Numbers are equal when their values are, whatever their types, and the order of the fields of an object
makes no difference. Two values are equal when they have one canonical form.
-/

namespace Infra.Json

mutual

/-- Every number is a rational, and the fields of an object are sorted. -/
def canonical : Json → Json
  | .null => .null
  | .bool b => .real (if b then 1 else 0)
  | .int n => .real n
  | .real q => .real q
  | .str s => .str s
  | .arr items => .arr (canonicalItems items)
  | .obj fields => .obj ((canonicalFields fields).insertionSort fun a b => a.1 ≤ b.1)

def canonicalItems : List Json → List Json
  | [] => []
  | item :: items => canonical item :: canonicalItems items

def canonicalFields : List (String × Json) → List (String × Json)
  | [] => []
  | (key, item) :: fields => (key, canonical item) :: canonicalFields fields

end

/-- `a == b` -/
def same (a b : Json) : Bool := a.canonical = b.canonical

theorem same_iff {a b : Json} : same a b = true ↔ a.canonical = b.canonical := decide_eq_true_iff

example : same (.int 1) (.bool true) = true := by decide

end Infra.Json
