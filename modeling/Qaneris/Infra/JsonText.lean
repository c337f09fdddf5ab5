import Qaneris.Infra.Json
import Qaneris.Infra.Lines

/-!
# The text of a JSON value

`json.dumps(value, ensure_ascii=False)`: a character outside ASCII stands for itself, the control
characters below U+0020 are escaped. How a float is written is a parameter.
-/

namespace Infra

/-- Numbers are told apart by their digits. -/
theorem repr_inj {m n : Nat} (h : Nat.repr m = Nat.repr n) : m = n := by
  have hdigits : Nat.toDigits 10 m = Nat.toDigits 10 n := by
    rw [← Nat.toList_repr, ← Nat.toList_repr, h]
  rw [← Nat.ofDigitChars_toDigits (b := 10) (n := m) (by decide) (by decide), hdigits,
    Nat.ofDigitChars_toDigits (by decide) (by decide)]

/-- The integer of its digits, which a minus sign may come before. -/
def readInt : List Char → Int
  | '-' :: text => -(Nat.ofDigitChars 10 text 0 : Nat)
  | text => (Nat.ofDigitChars 10 text 0 : Nat)

theorem ofDigitChars_repr (n : Nat) : Nat.ofDigitChars 10 n.repr.toList 0 = n := by
  rw [Nat.toList_repr, Nat.ofDigitChars_toDigits (by decide) (by decide)]

theorem readInt_toString (n : Int) : readInt (toString n).toList = n := by
  cases n with
  | ofNat n =>
    show readInt n.repr.toList = n
    unfold readInt
    split
    · next text heq =>
      have hdigit : '-' ∈ Nat.toDigits 10 n := by
        rw [← Nat.toList_repr, heq]
        exact List.mem_cons_self
      exact absurd (Nat.isDigit_of_mem_toDigits (by decide) (by decide) hdigit) (by decide)
    · rw [ofDigitChars_repr]
  | negSucc n =>
    have htext : (toString (Int.negSucc n)).toList = '-' :: (n + 1).repr.toList := by
      show ("-" ++ (n + 1).repr).toList = _
      rw [String.toList_append]
      rfl
    rw [htext]
    show -((Nat.ofDigitChars 10 (n + 1).repr.toList 0 : Nat) : Int) = Int.negSucc n
    rw [ofDigitChars_repr]
    rfl

namespace Json

/-- `encode_basestring` on one character. -/
def escapeChar (c : Char) : List Char :=
  if c = '"' then ['\\', '"']
  else if c = '\\' then ['\\', '\\']
  else if c = '\n' then ['\\', 'n']
  else if c = '\r' then ['\\', 'r']
  else if c = '\t' then ['\\', 't']
  else if c.toNat = 0x0C then ['\\', 'f']
  else if c.toNat = 0x08 then ['\\', 'b']
  else if c.toNat < 0x20 then
    ['\\', 'u', '0', '0', Nat.digitChar (c.toNat / 16), Nat.digitChar (c.toNat % 16)]
  else [c]

def quote (s : String) : List Char := '"' :: (s.toList.flatMap escapeChar ++ ['"'])

variable (reprFloat : Rat → List Char)

mutual

def dumps : Json → List Char
  | .null => "null".toList
  | .bool true => "true".toList
  | .bool false => "false".toList
  | .int n => (toString n).toList
  | .real q => reprFloat q
  | .str s => quote s
  | .arr items => '[' :: (dumpItems items ++ [']'])
  | .obj fields => '{' :: (dumpFields fields ++ ['}'])

/-- The items, `", "` between them. -/
def dumpItems : List Json → List Char
  | [] => []
  | [item] => dumps item
  | item :: items => dumps item ++ ',' :: ' ' :: dumpItems items

/-- The members, `": "` between key and value. -/
def dumpFields : List (String × Json) → List Char
  | [] => []
  | [(key, value)] => quote key ++ ':' :: ' ' :: dumps value
  | (key, value) :: fields =>
    quote key ++ ':' :: ' ' :: (dumps value ++ ',' :: ' ' :: dumpFields fields)

end

/-! ## The text is one line -/

theorem digitChar_oneLine {n : Nat} (h : n < 16) : OneLine [Nat.digitChar n] := by
  have hall : ∀ m : Fin 16, [Nat.digitChar m].all (fun c => c != '\n' && c != '\r') = true := by decide
  exact .of_all (hall ⟨n, h⟩)

/-- **No escape writes a line break**, and no other character is one. -/
theorem escapeChar_oneLine (c : Char) : OneLine (escapeChar c) := by
  unfold escapeChar
  split
  · exact .of_all rfl
  split
  · exact .of_all rfl
  split
  · exact .of_all rfl
  split
  · exact .of_all rfl
  split
  · exact .of_all rfl
  split
  · exact .of_all rfl
  split
  · exact .of_all rfl
  split
  · rename_i hlow
    have hhigh : c.toNat / 16 < 16 := by omega
    have hmod : c.toNat % 16 < 16 := by omega
    have hfront : OneLine ['\\', 'u', '0', '0'] := .of_all rfl
    exact .append hfront (.append (digitChar_oneLine hhigh) (digitChar_oneLine hmod))
  · rename_i hn hr _ _ _ _
    exact .cons hn hr .nil

theorem quote_oneLine (s : String) : OneLine (quote s) := by
  refine .cons (by decide) (by decide) (.append ?_ (.of_all rfl))
  intro c hc
  obtain ⟨d, -, hd⟩ := List.mem_flatMap.mp hc
  exact escapeChar_oneLine d c hd

theorem nat_oneLine (n : Nat) : OneLine (toString n).toList := by
  intro c hc
  have hdigit : c.isDigit = true := by
    rw [Nat.toString_eq_repr, Nat.toList_repr] at hc
    exact Nat.isDigit_of_mem_toDigits (by decide) (by decide) hc
  constructor
  · rintro rfl
    exact absurd hdigit (by decide)
  · rintro rfl
    exact absurd hdigit (by decide)

theorem int_oneLine (n : Int) : OneLine (toString n).toList := by
  cases n with
  | ofNat n => exact nat_oneLine n
  | negSucc n =>
    have h : (toString (Int.negSucc n)).toList = '-' :: (toString (n + 1)).toList := by
      show ("-" ++ toString (n + 1)).toList = _
      simp
    rw [h]
    exact .cons (by decide) (by decide) (nat_oneLine _)

variable {reprFloat}

mutual

theorem dumps_oneLine (hfloat : ∀ q, OneLine (reprFloat q)) : ∀ v : Json, OneLine (dumps reprFloat v)
  | .null => .of_all rfl
  | .bool true => .of_all rfl
  | .bool false => .of_all rfl
  | .int n => by
    rw [dumps]
    exact int_oneLine n
  | .real q => by
    rw [dumps]
    exact hfloat q
  | .str s => by
    rw [dumps]
    exact quote_oneLine s
  | .arr items => by
    rw [dumps]
    exact .cons (by decide) (by decide) (.append (dumpItems_oneLine hfloat items) (.of_all rfl))
  | .obj fields => by
    rw [dumps]
    exact .cons (by decide) (by decide) (.append (dumpFields_oneLine hfloat fields) (.of_all rfl))

theorem dumpItems_oneLine (hfloat : ∀ q, OneLine (reprFloat q)) :
    ∀ items : List Json, OneLine (dumpItems reprFloat items)
  | [] => .of_all rfl
  | [item] => by
    rw [dumpItems]
    exact dumps_oneLine hfloat item
  | item :: next :: items => by
    rw [dumpItems]
    · exact .append (dumps_oneLine hfloat item) (.cons (by decide) (by decide)
        (.cons (by decide) (by decide) (dumpItems_oneLine hfloat (next :: items))))
    · simp

theorem dumpFields_oneLine (hfloat : ∀ q, OneLine (reprFloat q)) :
    ∀ fields : List (String × Json), OneLine (dumpFields reprFloat fields)
  | [] => .of_all rfl
  | [(key, value)] => by
    rw [dumpFields]
    exact .append (quote_oneLine key) (.cons (by decide) (by decide)
      (.cons (by decide) (by decide) (dumps_oneLine hfloat value)))
  | (key, value) :: next :: fields => by
    rw [dumpFields]
    · exact .append (quote_oneLine key) (.cons (by decide) (by decide)
        (.cons (by decide) (by decide) (.append (dumps_oneLine hfloat value)
          (.cons (by decide) (by decide) (.cons (by decide) (by decide)
            (dumpFields_oneLine hfloat (next :: fields)))))))
    · simp

end

end Json

end Infra
