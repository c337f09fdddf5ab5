import Mathlib.Algebra.Ring.Nat
import Mathlib.Data.Nat.Find
import Mathlib.Order.Monotone.Basic
import Mathlib.Tactic.Common

/-!
# Dates and their texts

Days are counted from 1 January of the year 1 in the Gregorian calendar, as Python's `toordinal` does.

* `compareText_isoDate` — the texts of two dates compare as their days do
* `readDate_isoDate` — the text of a date is read back
-/

namespace Infra

/-- How two values compare. -/
abbrev Order := Ordering

theorem order_assoc (a b c : Order) : (a.then b).then c = a.then (b.then c) :=
  Ordering.then_assoc a b c

section Compare

variable {m n : Nat}

theorem compare_lt (h : m < n) : compare m n = .lt := Nat.compare_eq_lt.mpr h

theorem compare_gt (h : n < m) : compare m n = .gt := Nat.compare_eq_gt.mpr h

theorem compare_self (n : Nat) : compare n n = .eq := Nat.compare_eq_eq.mpr rfl

/-- Two numbers that lie in the steps of a monotone function compare as their steps do, and within one
step as they are. -/
theorem compare_step {f : Nat → Nat} {x y i j k : Nat}
    (hf : ∀ a b, a ≤ b → b ≤ k → f a ≤ f b) (hi : f i < x) (hi' : x ≤ f (i + 1)) (hj : f j < y)
    (hj' : y ≤ f (j + 1)) (hib : i < k) (hjb : j < k) :
    compare x y = (compare i j).then (compare x y) := by
  rcases Nat.lt_trichotomy i j with hlt | rfl | hgt
  · have hstep := hf (i + 1) j hlt (Nat.le_of_lt hjb)
    rw [compare_lt hlt, compare_lt (show x < y by omega)]
    rfl
  · rw [compare_self]
    rfl
  · have hstep := hf (j + 1) i hgt (Nat.le_of_lt hib)
    rw [compare_gt hgt, compare_gt (show y < x by omega)]
    rfl

theorem compare_sub {x y a : Nat} (hx : a ≤ x) (hy : a ≤ y) :
    compare (x - a) (y - a) = compare x y := by
  rcases Nat.lt_trichotomy x y with hlt | rfl | hgt
  · rw [compare_lt hlt, compare_lt (show x - a < y - a by omega)]
  · rw [compare_self, compare_self]
  · rw [compare_gt hgt, compare_gt (show y - a < x - a by omega)]

theorem compare_add (a x y : Nat) : compare (a + x) (a + y) = compare x y := by
  have h := compare_sub (Nat.le_add_right a x) (Nat.le_add_right a y)
  rwa [Nat.add_sub_cancel_left, Nat.add_sub_cancel_left, eq_comm] at h

/-- The quotients first, then the remainders. -/
theorem compare_div_mod (k : Nat) :
    (compare (m / k) (n / k)).then (compare (m % k) (n % k)) = compare m n := by
  have hm := Nat.div_add_mod m k
  have hn := Nat.div_add_mod n k
  rcases Nat.eq_zero_or_pos k with rfl | hk
  · rw [Nat.div_zero, Nat.div_zero, Nat.mod_zero, Nat.mod_zero, compare_self]
    rfl
  have hmk := Nat.mod_lt m hk
  have hnk := Nat.mod_lt n hk
  rcases Nat.lt_trichotomy (m / k) (n / k) with hlt | heq | hgt
  · have hmul : k * (m / k) + k ≤ k * (n / k) := by
      rw [← Nat.mul_succ]
      exact Nat.mul_le_mul_left k hlt
    rw [compare_lt hlt, compare_lt (show m < n by omega)]
    rfl
  · rw [heq, compare_self]
    rw [heq] at hm
    rw [← compare_sub (x := m) (y := n) (a := k * (n / k)) (by omega) (by omega)]
    rw [show m - k * (n / k) = m % k by omega, show n - k * (n / k) = n % k by omega]
    rfl
  · have hmul : k * (n / k) + k ≤ k * (m / k) := by
      rw [← Nat.mul_succ]
      exact Nat.mul_le_mul_left k hgt
    rw [compare_gt hgt, compare_gt (show n < m by omega)]
    rfl

end Compare

/-! ## Texts -/

/-- Texts compare as their code points do. -/
def compareText (a b : List Char) : Order :=
  a.compareLex (fun c c' => compare c.toNat c'.toNat) b

theorem compareText_cons (c c' : Char) (a b : List Char) :
    compareText (c :: a) (c' :: b) = (compare c.toNat c'.toNat).then (compareText a b) :=
  List.compareLex_cons_cons

theorem compareText_same (c : Char) (a b : List Char) :
    compareText (c :: a) (c :: b) = compareText a b := by
  rw [compareText_cons, compare_self]
  rfl

/-- A decimal digit. -/
def digit (n : Nat) : Char := Char.ofNat (48 + n)

theorem digit_toNat {n : Nat} (h : n < 10) : (digit n).toNat = 48 + n := by
  have hall : ∀ k < 10, (digit k).toNat = 48 + k := by decide
  exact hall n h

/-- The last `width` decimal digits of a number. -/
def digits : (width : Nat) → Nat → List Char
  | 0, _ => []
  | width + 1, n => digit (n / 10 ^ width) :: digits width (n % 10 ^ width)

/-- The number of the first `width` characters, which are digits, and the text after them. -/
def readDigits : (width : Nat) → List Char → Option (Nat × List Char)
  | 0, text => some (0, text)
  | _ + 1, [] => none
  | width + 1, c :: text =>
    if c.isDigit then
      (readDigits width text).map fun (n, rest) => ((c.toNat - 48) * 10 ^ width + n, rest)
    else none

theorem digit_lt {width n : Nat} (h : n < 10 ^ (width + 1)) : n / 10 ^ width < 10 := by
  rw [Nat.div_lt_iff_lt_mul (Nat.pow_pos (by decide))]
  rwa [Nat.pow_succ, Nat.mul_comm] at h

/-- Digits of one width compare as their numbers do. -/
theorem compareText_digits (width : Nat) {m n : Nat} (hm : m < 10 ^ width) (hn : n < 10 ^ width)
    (a b : List Char) :
    compareText (digits width m ++ a) (digits width n ++ b) =
      (compare m n).then (compareText a b) := by
  induction width generalizing m n with
  | zero =>
    obtain rfl : m = 0 := by simpa using hm
    obtain rfl : n = 0 := by simpa using hn
    rfl
  | succ width ih =>
    have hpos : 0 < 10 ^ width := Nat.pow_pos (by decide)
    have hchars : compare (digit (m / 10 ^ width)).toNat (digit (n / 10 ^ width)).toNat =
        compare (m / 10 ^ width) (n / 10 ^ width) := by
      rw [digit_toNat (digit_lt hm), digit_toNat (digit_lt hn), compare_add]
    rw [digits, digits, List.cons_append, List.cons_append, compareText_cons,
      ih (Nat.mod_lt _ hpos) (Nat.mod_lt _ hpos), hchars, ← order_assoc, compare_div_mod]

theorem readDigits_digits (width : Nat) {n : Nat} (h : n < 10 ^ width) (rest : List Char) :
    readDigits width (digits width n ++ rest) = some (n, rest) := by
  induction width generalizing n with
  | zero =>
    obtain rfl : n = 0 := by simpa using h
    rfl
  | succ width ih =>
    have hlt := digit_lt h
    have hdigit : (digit (n / 10 ^ width)).isDigit = true := by
      have hall : ∀ k < 10, (digit k).isDigit = true := by decide
      exact hall _ hlt
    rw [digits, List.cons_append, readDigits, if_pos hdigit, ih (Nat.mod_lt _ (Nat.pow_pos (by decide))),
      digit_toNat hlt, Nat.add_sub_cancel_left, Option.map_some]
    dsimp only
    rw [Nat.mul_comm, Nat.div_add_mod]

/-! ## The calendar -/

/-- `_is_leap` -/
def isLeap (year : Nat) : Bool := year % 4 = 0 ∧ (year % 100 ≠ 0 ∨ year % 400 = 0)

/-- `_days_before_year` -/
def daysBeforeYear (year : Nat) : Nat :=
  (year - 1) * 365 + (year - 1) / 4 - (year - 1) / 100 + (year - 1) / 400

/-- `_DAYS_BEFORE_MONTH`; the last one is for the year after. -/
def daysBeforeMonths : List Nat := [0, 0, 31, 59, 90, 120, 151, 181, 212, 243, 273, 304, 334, 365]

/-- `_days_before_month` -/
def daysBeforeMonth (leap : Bool) (month : Nat) : Nat :=
  daysBeforeMonths.getD month 365 + (if 2 < month ∧ leap then 1 else 0)

/-- The year of a day: the last one that begins before it. -/
def yearOf (n : Nat) : Nat := Nat.findGreatest (fun year => daysBeforeYear year < n) (n / 365 + 1)

def dayOfYear (n : Nat) : Nat := n - daysBeforeYear (yearOf n)

def monthOf (n : Nat) : Nat :=
  Nat.findGreatest (fun month => daysBeforeMonth (isLeap (yearOf n)) month < dayOfYear n) 12

def dayOfMonth (n : Nat) : Nat := dayOfYear n - daysBeforeMonth (isLeap (yearOf n)) (monthOf n)

/-- The last day of the year 9999. -/
def maxOrdinal : Nat := 3652059

theorem daysBeforeYear_succ (year : Nat) :
    daysBeforeYear (year + 1) = year * 365 + year / 4 - year / 100 + year / 400 := rfl

theorem daysBeforeYear_mono {a b : Nat} (h : a ≤ b) : daysBeforeYear a ≤ daysBeforeYear b := by
  refine monotone_nat_of_le_succ (fun year => ?_) h
  unfold daysBeforeYear
  omega

theorem succ_div (y k : Nat) :
    ((y + 1) % k = 0 ∧ (y + 1) / k = y / k + 1) ∨ ((y + 1) % k ≠ 0 ∧ (y + 1) / k = y / k) := by
  by_cases h : k ∣ y + 1
  · exact .inl ⟨Nat.mod_eq_zero_of_dvd h, Nat.succ_div_of_dvd h⟩
  · exact .inr ⟨fun hmod => h (Nat.dvd_of_mod_eq_zero hmod), Nat.succ_div_of_not_dvd h⟩

/-- A year has 365 days, or 366 if it is a leap year. -/
theorem daysBeforeYear_step {year : Nat} (h : 0 < year) :
    daysBeforeYear (year + 1) = daysBeforeYear year + 365 + (if isLeap year then 1 else 0) := by
  obtain ⟨y, rfl⟩ : ∃ y, year = y + 1 := ⟨year - 1, by omega⟩
  have hfour := succ_div y 4
  have hcentury := succ_div y 100
  have hfourth := succ_div y 400
  have hcentury4 : (y + 1) % 100 = 0 → (y + 1) % 4 = 0 := by omega
  have hfourth100 : (y + 1) % 400 = 0 → (y + 1) % 100 = 0 := by omega
  have hpos : y / 100 ≤ y / 4 := Nat.div_le_div_left (by decide) (by decide)
  rw [daysBeforeYear_succ, daysBeforeYear_succ]
  generalize (y + 1) / 4 = a at *
  generalize (y + 1) / 100 = b at *
  generalize (y + 1) / 400 = c at *
  generalize y / 4 = a' at *
  generalize y / 100 = b' at *
  generalize y / 400 = c' at *
  by_cases hleap : (y + 1) % 4 = 0 ∧ ((y + 1) % 100 ≠ 0 ∨ (y + 1) % 400 = 0)
  · have hyear : isLeap (y + 1) = true := decide_eq_true hleap
    rw [if_pos hyear]
    omega
  · have hyear : ¬ isLeap (y + 1) = true := fun h => hleap (of_decide_eq_true h)
    rw [if_neg hyear]
    omega

theorem daysBeforeMonth_mono (leap : Bool) {a b : Nat} (h : a ≤ b) (hb : b ≤ 13) :
    daysBeforeMonth leap a ≤ daysBeforeMonth leap b := by
  have hall : ∀ leap, ∀ b < 14, ∀ a < b + 1, daysBeforeMonth leap a ≤ daysBeforeMonth leap b := by
    decide
  exact hall leap b (by omega) a (by omega)

section Ordinal

variable {n : Nat}

theorem yearOf_spec (h : 0 < n) :
    0 < yearOf n ∧ daysBeforeYear (yearOf n) < n ∧ n ≤ daysBeforeYear (yearOf n + 1) := by
  have hone : daysBeforeYear 1 < n := h
  have hle : 1 ≤ yearOf n := Nat.le_findGreatest (by omega) hone
  have hspec : daysBeforeYear (yearOf n) < n :=
    Nat.findGreatest_spec (P := fun year => daysBeforeYear year < n) (Nat.le_add_left 1 _) hone
  refine ⟨hle, hspec, Nat.le_of_not_lt fun hlt => ?_⟩
  by_cases hbound : yearOf n + 1 ≤ n / 365 + 1
  · exact Nat.findGreatest_is_greatest (P := fun year => daysBeforeYear year < n)
      (Nat.lt_succ_self (yearOf n)) hbound hlt
  · rw [daysBeforeYear_succ] at hlt
    omega

theorem yearOf_le (h : 0 < n) (hn : n ≤ maxOrdinal) : yearOf n ≤ 9999 := by
  by_contra hlt
  have hmono := daysBeforeYear_mono (show 10000 ≤ yearOf n by omega)
  have hmax : daysBeforeYear 10000 = maxOrdinal := rfl
  have hspec := (yearOf_spec h).2.1
  omega

theorem dayOfYear_spec (h : 0 < n) :
    0 < dayOfYear n ∧ dayOfYear n ≤ daysBeforeMonth (isLeap (yearOf n)) 13 := by
  obtain ⟨hpos, hlt, hle⟩ := yearOf_spec h
  rw [daysBeforeYear_step hpos] at hle
  unfold dayOfYear
  cases hleap : isLeap (yearOf n) with
  | false =>
    have hlast : daysBeforeMonth false 13 = 365 := rfl
    rw [hleap, if_neg Bool.false_ne_true] at hle
    omega
  | true =>
    have hlast : daysBeforeMonth true 13 = 366 := rfl
    rw [hleap, if_pos rfl] at hle
    omega

theorem monthOf_spec (h : 0 < n) :
    0 < monthOf n ∧ monthOf n ≤ 12 ∧
      daysBeforeMonth (isLeap (yearOf n)) (monthOf n) < dayOfYear n ∧
      dayOfYear n ≤ daysBeforeMonth (isLeap (yearOf n)) (monthOf n + 1) := by
  obtain ⟨hpos, hlast⟩ := dayOfYear_spec h
  have hone : daysBeforeMonth (isLeap (yearOf n)) 1 < dayOfYear n := by
    cases isLeap (yearOf n) <;> exact hpos
  have hle : monthOf n ≤ 12 := Nat.findGreatest_le 12
  have hspec : daysBeforeMonth (isLeap (yearOf n)) (monthOf n) < dayOfYear n :=
    Nat.findGreatest_spec
      (P := fun month => daysBeforeMonth (isLeap (yearOf n)) month < dayOfYear n) (by decide) hone
  refine ⟨Nat.le_findGreatest (by decide) hone, hle, hspec, Nat.le_of_not_lt fun hlt => ?_⟩
  by_cases hmonth : monthOf n = 12
  · rw [hmonth] at hlt
    exact absurd hlast (Nat.not_le_of_lt hlt)
  · exact Nat.findGreatest_is_greatest
      (P := fun month => daysBeforeMonth (isLeap (yearOf n)) month < dayOfYear n)
      (Nat.lt_succ_self (monthOf n)) (by omega) hlt

theorem dayOfMonth_spec (h : 0 < n) : 0 < dayOfMonth n ∧ dayOfMonth n < 100 := by
  obtain ⟨-, hle, hlt, hstep⟩ := monthOf_spec h
  have hall : ∀ leap, ∀ m < 13, daysBeforeMonth leap (m + 1) ≤ daysBeforeMonth leap m + 31 := by
    decide
  have hmonth := hall (isLeap (yearOf n)) (monthOf n) (by omega)
  unfold dayOfMonth
  omega

/-- The day of a date. -/
theorem ordinal_eq (h : 0 < n) :
    daysBeforeYear (yearOf n) + daysBeforeMonth (isLeap (yearOf n)) (monthOf n) + dayOfMonth n = n := by
  have hyear := (yearOf_spec h).2.1
  have hmonth := (monthOf_spec h).2.2.1
  unfold dayOfMonth
  unfold dayOfYear at hmonth ⊢
  omega

/-- Dates compare by their years, then their months, then their days. -/
theorem compare_date {m : Nat} (hm : 0 < m) (hn : 0 < n) :
    compare m n = (compare (yearOf m) (yearOf n)).then
      ((compare (monthOf m) (monthOf n)).then (compare (dayOfMonth m) (dayOfMonth n))) := by
  obtain ⟨-, hm₁, hm₂⟩ := yearOf_spec hm
  obtain ⟨-, hn₁, hn₂⟩ := yearOf_spec hn
  rw [compare_step (k := yearOf m + yearOf n + 1) (fun a b h _ => daysBeforeYear_mono h) hm₁ hm₂
    hn₁ hn₂ (by omega) (by omega)]
  rcases Nat.lt_trichotomy (yearOf m) (yearOf n) with hlt | heq | hgt
  · rw [compare_lt hlt]
    rfl
  · obtain ⟨-, hm12, hm₃, hm₄⟩ := monthOf_spec hm
    obtain ⟨-, hn12, hn₃, hn₄⟩ := monthOf_spec hn
    rw [heq] at hm₁
    have hsame : compare m n = compare (dayOfYear m) (dayOfYear n) := by
      rw [dayOfYear, dayOfYear, heq, compare_sub (by omega) (by omega)]
    rw [heq, compare_self, hsame]
    rw [heq] at hm₃ hm₄
    rw [compare_step (fun a b h hb => daysBeforeMonth_mono _ h hb) hm₃ hm₄ hn₃ hn₄ (by omega)
      (by omega)]
    rcases Nat.lt_trichotomy (monthOf m) (monthOf n) with hlt' | heq' | hgt'
    · rw [compare_lt hlt']
      rfl
    · rw [heq'] at hm₃
      rw [heq', compare_self, dayOfMonth, dayOfMonth, heq, heq', compare_sub (by omega) (by omega)]
    · rw [compare_gt hgt']
      rfl
  · rw [compare_gt hgt]
    rfl

end Ordinal

/-! ## The texts of dates -/

/-- `YYYY-MM-DD` -/
def isoDate (n : Nat) : List Char :=
  digits 4 (yearOf n) ++ '-' :: (digits 2 (monthOf n) ++ '-' :: digits 2 (dayOfMonth n))

/-- The day of a text that begins with a date, and the text after it. -/
def readDate (text : List Char) : Option (Nat × List Char) := do
  let (year, text) ← readDigits 4 text
  let (month, text) ← readDigits 2 (← text.head?.bind fun c => if c = '-' then text.tail else none)
  let (day, text) ← readDigits 2 (← text.head?.bind fun c => if c = '-' then text.tail else none)
  let n := daysBeforeYear year + daysBeforeMonth (isLeap year) month + day
  if yearOf n = year ∧ monthOf n = month ∧ dayOfMonth n = day then return (n, text) else none

/-- **The texts of two dates compare as their days do, whatever follows them.** -/
theorem compareText_isoDate {m n : Nat} (hm : 0 < m) (hn : 0 < n) (hm' : m ≤ maxOrdinal)
    (hn' : n ≤ maxOrdinal) (a b : List Char) :
    compareText (isoDate m ++ a) (isoDate n ++ b) = (compare m n).then (compareText a b) := by
  have hym := yearOf_le hm hm'
  have hyn := yearOf_le hn hn'
  have hmm := (monthOf_spec hm).2.1
  have hmn := (monthOf_spec hn).2.1
  have hdm := (dayOfMonth_spec hm).2
  have hdn := (dayOfMonth_spec hn).2
  unfold isoDate
  simp only [List.append_assoc, List.cons_append]
  rw [compareText_digits 4 (by omega) (by omega), compareText_same,
    compareText_digits 2 (by omega) (by omega), compareText_same,
    compareText_digits 2 (by omega) (by omega), compare_date hm hn, order_assoc, order_assoc]

/-- **The text of a date is read back.** -/
theorem readDate_isoDate {n : Nat} (h : 0 < n) (hn : n ≤ maxOrdinal) (rest : List Char) :
    readDate (isoDate n ++ rest) = some (n, rest) := by
  have hy := yearOf_le h hn
  have hm := (monthOf_spec h).2.1
  have hd := (dayOfMonth_spec h).2
  unfold readDate isoDate
  simp only [List.append_assoc, List.cons_append]
  rw [readDigits_digits 4 (by omega)]
  simp only [Option.bind_eq_bind, Option.bind_some, List.head?_cons, List.tail_cons, if_true]
  rw [readDigits_digits 2 (by omega)]
  simp only [Option.bind_some, List.head?_cons, List.tail_cons, if_true]
  rw [readDigits_digits 2 (by omega)]
  simp only [Option.bind_some, ordinal_eq h, and_self, if_true]
  rfl

end Infra
