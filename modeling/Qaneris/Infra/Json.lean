import Mathlib.Data.Rat.Defs

/-!
# JSON values

The values a stored document, a filter or a reply of the model may carry. A number keeps whether it
was written as an integer.
-/

namespace Infra

inductive Json where
  | null
  | bool (b : Bool)
  | int (n : Int)
  | real (q : Rat)
  | str (s : String)
  | arr (items : List Json)
  | obj (fields : List (String × Json))
  deriving Repr, Inhabited

namespace Json

/-! ## Equality is decidable -/

mutual

def decEq : (a b : Json) → Decidable (a = b)
  | .null, .null => isTrue rfl
  | .bool a, .bool b => decidable_of_iff (a = b) (by simp)
  | .int a, .int b => decidable_of_iff (a = b) (by simp)
  | .real a, .real b => decidable_of_iff (a = b) (by simp)
  | .str a, .str b => decidable_of_iff (a = b) (by simp)
  | .arr a, .arr b =>
    match decEqItems a b with
    | isTrue h => isTrue (by rw [h])
    | isFalse h => isFalse fun he => h (Json.arr.inj he)
  | .obj a, .obj b =>
    match decEqFields a b with
    | isTrue h => isTrue (by rw [h])
    | isFalse h => isFalse fun he => h (Json.obj.inj he)
  | .null, .bool _ | .null, .int _ | .null, .real _ | .null, .str _ | .null, .arr _ | .null, .obj _
  | .bool _, .null | .bool _, .int _ | .bool _, .real _ | .bool _, .str _ | .bool _, .arr _
  | .bool _, .obj _ | .int _, .null | .int _, .bool _ | .int _, .real _ | .int _, .str _
  | .int _, .arr _ | .int _, .obj _ | .real _, .null | .real _, .bool _ | .real _, .int _
  | .real _, .str _ | .real _, .arr _ | .real _, .obj _ | .str _, .null | .str _, .bool _
  | .str _, .int _ | .str _, .real _ | .str _, .arr _ | .str _, .obj _ | .arr _, .null
  | .arr _, .bool _ | .arr _, .int _ | .arr _, .real _ | .arr _, .str _ | .arr _, .obj _
  | .obj _, .null | .obj _, .bool _ | .obj _, .int _ | .obj _, .real _ | .obj _, .str _
  | .obj _, .arr _ => isFalse (by simp)

def decEqItems : (a b : List Json) → Decidable (a = b)
  | [], [] => isTrue rfl
  | [], _ :: _ | _ :: _, [] => isFalse (by simp)
  | x :: xs, y :: ys =>
    match decEq x y, decEqItems xs ys with
    | isTrue h, isTrue t => isTrue (by rw [h, t])
    | isFalse h, _ => isFalse fun he => h (List.cons.inj he).1
    | _, isFalse t => isFalse fun he => t (List.cons.inj he).2

def decEqFields : (a b : List (String × Json)) → Decidable (a = b)
  | [], [] => isTrue rfl
  | [], _ :: _ | _ :: _, [] => isFalse (by simp)
  | (k, x) :: xs, (l, y) :: ys =>
    if hk : k = l then
      match decEq x y, decEqFields xs ys with
      | isTrue h, isTrue t => isTrue (by rw [hk, h, t])
      | isFalse h, _ => isFalse fun he => h (Prod.mk.inj (List.cons.inj he).1).2
      | _, isFalse t => isFalse fun he => t (List.cons.inj he).2
    else isFalse fun he => hk (Prod.mk.inj (List.cons.inj he).1).1

end

instance : DecidableEq Json := decEq

/-- `value.get(key)` of an object; the first field of the name. -/
def get? (v : Json) (key : String) : Option Json :=
  match v with
  | .obj fields => fields.lookup key
  | _ => none

end Json

end Infra
