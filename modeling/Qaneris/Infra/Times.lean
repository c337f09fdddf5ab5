import Qaneris.Infra.Calendar

/-!
# Times of a day and their texts

* `readTime_isoTime`, `readDateTime_isoDateTime` — the text of a time is read back, whatever follows it
-/

namespace Infra

/-- A day of the calendar. -/
@[ext] structure CalendarDay where
  ordinal : Nat
  range : 0 < ordinal ∧ ordinal ≤ maxOrdinal
  deriving Repr

instance : DecidableEq CalendarDay := fun _ _ => decidable_of_iff' _ CalendarDay.ext_iff

/-- A time of a day, in microseconds after midnight. -/
structure TimeOfDay where
  micros : Nat
  range : micros < 86400000000
  deriving DecidableEq, Repr

def midnight : TimeOfDay := ⟨0, by decide⟩

/-! ## The texts -/

/-- `.ffffff`, and nothing for whole seconds. -/
def fraction (micros : Nat) : List Char := if micros = 0 then [] else '.' :: digits 6 micros

/-- `HH:MM:SS` or `HH:MM:SS.ffffff` -/
def isoTime (t : TimeOfDay) : List Char :=
  let seconds := t.micros / 1000000
  digits 2 (seconds / 3600) ++ ':' :: (digits 2 (seconds / 60 % 60) ++ ':' :: (digits 2 (seconds % 60) ++
    fraction (t.micros % 1000000)))

/-- `YYYY-MM-DD` -/
def CalendarDay.isoformat (day : CalendarDay) : List Char := isoDate day.ordinal

/-- A date, a `T` and a time. -/
def isoDateTime (day : CalendarDay) (t : TimeOfDay) : List Char := day.isoformat ++ 'T' :: isoTime t

/-! ## Reading them -/

/-- The text after this character. -/
def after (c : Char) : List Char → Option (List Char)
  | [] => none
  | d :: text => if d = c then some text else none

@[simp] theorem after_cons (c : Char) (text : List Char) : after c (c :: text) = some text := if_pos rfl

/-- The microseconds of a fraction, if there is one. -/
def readFraction : List Char → Option (Nat × List Char)
  | '.' :: text => readDigits 6 text
  | text => some (0, text)

/-- The time of a text that begins with one, and the text after it. -/
def readTime (text : List Char) : Option (TimeOfDay × List Char) := do
  let (hour, text) ← readDigits 2 text
  let (minute, text) ← readDigits 2 (← after ':' text)
  let (second, text) ← readDigits 2 (← after ':' text)
  let (micros, text) ← readFraction text
  let total := ((hour * 60 + minute) * 60 + second) * 1000000 + micros
  if h : minute < 60 ∧ second < 60 ∧ total < 86400000000 then return (⟨total, h.2.2⟩, text) else none

/-- The day of a text that begins with a date, and the text after it. -/
def readDay (text : List Char) : Option (CalendarDay × List Char) := do
  let (n, text) ← readDate text
  if h : 0 < n ∧ n ≤ maxOrdinal then return (⟨n, h⟩, text) else none

def readDateTime (text : List Char) : Option ((CalendarDay × TimeOfDay) × List Char) := do
  let (day, text) ← readDay text
  let (t, text) ← readTime (← after 'T' text)
  return ((day, t), text)

theorem readFraction_fraction {micros : Nat} (h : micros < 1000000) {rest : List Char}
    (hrest : rest.head? ≠ some '.') : readFraction (fraction micros ++ rest) = some (micros, rest) := by
  unfold fraction
  split
  · next hzero =>
    subst hzero
    unfold readFraction
    split
    · next heq =>
      rw [List.nil_append] at heq
      exact absurd (by rw [heq]; rfl) hrest
    · rfl
  · exact readDigits_digits 6 h rest

theorem readTime_isoTime (t : TimeOfDay) {rest : List Char} (hrest : rest.head? ≠ some '.') :
    readTime (isoTime t ++ rest) = some (t, rest) := by
  have hrange := t.range
  have hhour : t.micros / 1000000 / 3600 < 10 ^ 2 := by omega
  have hminute : t.micros / 1000000 / 60 % 60 < 10 ^ 2 := by omega
  have hsecond : t.micros / 1000000 % 60 < 10 ^ 2 := by omega
  have hfraction := readFraction_fraction (Nat.mod_lt t.micros (by decide : 0 < 1000000)) hrest
  -- The seconds are the quotients and the remainders put together again.
  have htotal : ((t.micros / 1000000 / 3600 * 60 + t.micros / 1000000 / 60 % 60) * 60 +
      t.micros / 1000000 % 60) * 1000000 + t.micros % 1000000 = t.micros := by omega
  unfold readTime isoTime
  simp only [List.append_assoc, List.cons_append]
  rw [readDigits_digits 2 hhour]
  simp only [Option.bind_eq_bind, Option.bind_some, after_cons]
  rw [readDigits_digits 2 hminute]
  simp only [Option.bind_some, after_cons]
  rw [readDigits_digits 2 hsecond]
  simp only [Option.bind_some, hfraction]
  rw [dif_pos ⟨by omega, by omega, by omega⟩]
  simp only [htotal]
  rfl

theorem readDay_isoformat (day : CalendarDay) (rest : List Char) :
    readDay (day.isoformat ++ rest) = some (day, rest) := by
  unfold readDay CalendarDay.isoformat
  rw [readDate_isoDate day.range.1 day.range.2]
  simp only [Option.bind_eq_bind, Option.bind_some, dif_pos day.range]
  rfl

theorem readDateTime_isoDateTime (day : CalendarDay) (t : TimeOfDay) {rest : List Char}
    (hrest : rest.head? ≠ some '.') : readDateTime (isoDateTime day t ++ rest) = some ((day, t), rest) := by
  unfold readDateTime isoDateTime
  rw [List.append_assoc, readDay_isoformat]
  simp only [List.cons_append, Option.bind_eq_bind, Option.bind_some, after_cons, readTime_isoTime t hrest]
  rfl

example : isoTime ⟨45296000007, by decide⟩ = "12:34:56.000007".toList := by decide

end Infra
