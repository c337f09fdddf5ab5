import Mathlib.Data.Int.Log
import Mathlib.Data.Rat.Floor
import Mathlib.Algebra.Order.Floor.Ring
import Mathlib.Tactic.Linarith
import Mathlib.Tactic.Ring
import Mathlib.Tactic.FieldSimp
import Mathlib.Tactic.Positivity

/-!
# Rounding to a number of digits

The numbers of a format are the multiples of a power of its base, with at most so many digits. A number is
rounded to the nearest of them, and to the even one where two are as near. The exponent has a least value,
and no greatest one: what is too large is left to the user of the format.
-/

namespace Infra

/-! ## To an integer -/

/-- The nearest integer, and the even one of two. -/
def roundEven (x : Rat) : Int :=
  let n := ⌊x⌋
  if x - n < 1 / 2 then n
  else if 1 / 2 < x - n then n + 1
  else if n % 2 = 0 then n
  else n + 1

theorem roundEven_cases (x : Rat) : (roundEven x = ⌊x⌋ ∧ x - ⌊x⌋ ≤ 1 / 2) ∨
    (roundEven x = ⌊x⌋ + 1 ∧ 1 / 2 ≤ x - ⌊x⌋) := by
  unfold roundEven
  dsimp only
  split
  · next h => exact .inl ⟨rfl, h.le⟩
  · next h =>
    split
    · next h' => exact .inr ⟨rfl, h'.le⟩
    · next h' =>
      split
      · exact .inl ⟨rfl, not_lt.mp h'⟩
      · exact .inr ⟨rfl, not_lt.mp h⟩

@[simp] theorem roundEven_intCast (n : Int) : roundEven n = n := by
  unfold roundEven
  simp

theorem roundEven_le {x : Rat} {n : Int} (h : x < n + 1 / 2) : roundEven x ≤ n := by
  have hfloor := Int.floor_le x
  rcases roundEven_cases x with ⟨heq, -⟩ | ⟨heq, hhalf⟩
  · have : (⌊x⌋ : Rat) < (n + 1 : Int) := by
      push_cast
      linarith
    have := Int.cast_lt.mp this
    omega
  · have : (⌊x⌋ : Rat) < (n : Int) := by linarith
    have := Int.cast_lt.mp this
    omega

theorem le_roundEven {x : Rat} {n : Int} (h : n - 1 / 2 < x) : n ≤ roundEven x := by
  have hfloor := Int.lt_floor_add_one x
  rcases roundEven_cases x with ⟨heq, hhalf⟩ | ⟨heq, -⟩
  · have : ((n - 1 : Int) : Rat) < ⌊x⌋ := by
      push_cast
      linarith
    have := Int.cast_lt.mp this
    omega
  · have : ((n - 1 - 1 : Int) : Rat) < ⌊x⌋ := by
      push_cast
      linarith
    have := Int.cast_lt.mp this
    omega

/-- What is near an interval around zero is rounded into it. -/
theorem abs_roundEven_le {x : Rat} {n : Int} (h : |x| < n + 1 / 2) : |roundEven x| ≤ n := by
  obtain ⟨hlow, hhigh⟩ := abs_lt.mp h
  have hge : -n ≤ roundEven x := le_roundEven (by push_cast; linarith)
  exact abs_le.mpr ⟨hge, roundEven_le hhigh⟩

/-! ## Formats -/

structure NumberFormat where
  base : Nat
  one_lt_base : 1 < base
  precision : Nat
  precision_pos : 0 < precision
  /-- Every number is a multiple of the base to this power. -/
  minExponent : Int
  deriving DecidableEq

namespace NumberFormat

variable {f : NumberFormat}

/-- The numbers of the format. -/
def Represents (f : NumberFormat) (x : Rat) : Prop :=
  ∃ (m : Int) (k : Int), |m| < (f.base : Int) ^ f.precision ∧ f.minExponent ≤ k ∧ x = m * (f.base : Rat) ^ k

/-- The power of the base that a number is rounded to a multiple of. -/
def exponent (f : NumberFormat) (x : Rat) : Int :=
  max (Int.log f.base |x| - (f.precision - 1)) f.minExponent

/-- The number that `x` is rounded to. -/
def round (f : NumberFormat) (x : Rat) : Rat :=
  roundEven (x / (f.base : Rat) ^ f.exponent x) * (f.base : Rat) ^ f.exponent x

theorem base_pos (f : NumberFormat) : (0 : Rat) < f.base := by
  have := f.one_lt_base
  exact_mod_cast (by omega : 0 < f.base)

theorem one_lt_base' (f : NumberFormat) : (1 : Rat) < f.base := by
  exact_mod_cast f.one_lt_base

theorem power_pos (f : NumberFormat) (k : Int) : (0 : Rat) < (f.base : Rat) ^ k := zpow_pos f.base_pos k

theorem div_mul_pow (f : NumberFormat) (x : Rat) (k : Int) :
    x / (f.base : Rat) ^ k * (f.base : Rat) ^ k = x :=
  div_mul_cancel₀ x (f.power_pos k).ne'

theorem minExponent_le_exponent (f : NumberFormat) (x : Rat) : f.minExponent ≤ f.exponent x :=
  le_max_right _ _

/-- A number below a power has an exponent that is as much below. -/
theorem exponent_le {x : Rat} (hx : x ≠ 0) {n : Int} (hmin : f.minExponent ≤ n - f.precision)
    (h : |x| < (f.base : Rat) ^ n) : f.exponent x ≤ n - f.precision := by
  have := (Int.lt_zpow_iff_log_lt f.one_lt_base (abs_pos.mpr hx)).mp h
  exact max_le (by omega) hmin

theorem lt_pow_exponent (f : NumberFormat) (x : Rat) :
    |x| < (f.base : Rat) ^ (f.exponent x + f.precision) := by
  refine (Int.lt_zpow_succ_log_self f.one_lt_base |x|).trans_le ?_
  refine zpow_le_zpow_right₀ f.one_lt_base'.le ?_
  have : Int.log f.base |x| - (f.precision - 1) ≤ f.exponent x := le_max_left _ _
  omega

/-! ## What a number is rounded to -/

@[simp] theorem round_zero (f : NumberFormat) : f.round 0 = 0 := by
  have : roundEven 0 = 0 := by simpa using roundEven_intCast 0
  rw [round, zero_div, this, Int.cast_zero, zero_mul]

/-- A multiple of what it would be rounded to a multiple of stays as it is. -/
theorem round_of_exponent_le {x : Rat} {m k : Int} (h : f.exponent x ≤ k)
    (hx : x = m * (f.base : Rat) ^ k) : f.round x = x := by
  have hpow : (f.base : Rat) ^ k =
      ((f.base ^ (k - f.exponent x).toNat : Int) : Rat) * (f.base : Rat) ^ f.exponent x := by
    push_cast
    rw [← zpow_natCast, ← zpow_add₀ f.base_pos.ne']
    congr 1
    omega
  have hdiv : x / (f.base : Rat) ^ f.exponent x = ((m * f.base ^ (k - f.exponent x).toNat : Int) : Rat) := by
    rw [div_eq_iff (f.power_pos _).ne', Int.cast_mul, mul_assoc, ← hpow]
    exact hx
  rw [round, hdiv, roundEven_intCast, ← hdiv, f.div_mul_pow]

/-- **A number of the format stays as it is.** -/
theorem round_of_represents {x : Rat} (h : f.Represents x) : f.round x = x := by
  by_cases hzero : x = 0
  · rw [hzero, round_zero]
  obtain ⟨m, k, hm, hk, rfl⟩ := h
  refine round_of_exponent_le (k := k) ?_ rfl
  have hm' : |(m : Rat)| < (f.base : Rat) ^ f.precision := by exact_mod_cast hm
  have hlt : |(m * (f.base : Rat) ^ k : Rat)| < (f.base : Rat) ^ (k + f.precision) := by
    rw [abs_mul, abs_of_pos (f.power_pos k), add_comm, zpow_add₀ f.base_pos.ne', zpow_natCast]
    exact mul_lt_mul_of_pos_right hm' (f.power_pos k)
  have := exponent_le hzero (by omega) hlt
  omega

/-- **A number is rounded to one of the format.** -/
theorem represents_round (f : NumberFormat) (x : Rat) : f.Represents (f.round x) := by
  have hdiv : |x / (f.base : Rat) ^ f.exponent x| < ((f.base ^ f.precision : Int) : Rat) := by
    rw [abs_div, abs_of_pos (f.power_pos _), div_lt_iff₀ (f.power_pos _)]
    push_cast
    rw [← zpow_natCast, ← zpow_add₀ f.base_pos.ne', add_comm]
    exact f.lt_pow_exponent x
  have hround := abs_roundEven_le (hdiv.trans (lt_add_of_pos_right _ one_half_pos))
  obtain hlt | heq := hround.lt_or_eq
  · exact ⟨_, f.exponent x, hlt, f.minExponent_le_exponent x, rfl⟩
  · -- the digits carried over into one more
    have hcarry : ∃ u : Int, |u| = 1 ∧
        roundEven (x / (f.base : Rat) ^ f.exponent x) = u * (f.base : Int) ^ f.precision := by
      rcases abs_eq (by positivity) |>.mp heq with h | h
      · exact ⟨1, rfl, by rw [h, one_mul]⟩
      · exact ⟨-1, rfl, by rw [h, neg_one_mul]⟩
    obtain ⟨u, hu, hcarry⟩ := hcarry
    refine ⟨u, f.exponent x + f.precision, ?_, ?_, ?_⟩
    · rw [hu]
      exact one_lt_pow₀ (by exact_mod_cast f.one_lt_base) f.precision_pos.ne'
    · have := f.minExponent_le_exponent x
      omega
    · rw [round, hcarry, zpow_add₀ f.base_pos.ne', zpow_natCast]
      push_cast
      ring

/-- A number stays as it is exactly when it is one of the format. -/
theorem round_eq_self_iff {x : Rat} : f.round x = x ↔ f.Represents x := by
  constructor
  · intro h
    rw [← h]
    exact f.represents_round x
  · exact round_of_represents

/-- An integer is rounded to an integer. -/
theorem round_intCast (f : NumberFormat) (n : Int) : ∃ m : Int, f.round n = m := by
  obtain hneg | hpos := le_total (f.exponent n) 0
  · exact ⟨n, round_of_exponent_le hneg (by rw [zpow_zero, mul_one])⟩
  · refine ⟨roundEven (n / (f.base : Rat) ^ f.exponent n) * f.base ^ (f.exponent n).toNat, ?_⟩
    push_cast
    rw [round, ← zpow_natCast, Int.toNat_of_nonneg hpos]

/-- An integer is of the format when it has at most so many digits before a number of zeros. -/
theorem represents_intCast_iff (hmin : f.minExponent ≤ 0) {n : Int} : f.Represents n ↔
    ∃ k : Nat, (f.base : Int) ^ k ∣ n ∧ |n| < (f.base : Int) ^ (f.precision + k) := by
  have hpos : ∀ k : Nat, (0 : Int) < (f.base : Int) ^ k := fun k => pow_pos (by
    have := f.one_lt_base
    omega) k
  constructor
  · rintro ⟨m, k, hm, -, hn⟩
    obtain hk | hk := le_total 0 k
    · obtain ⟨k, rfl⟩ := Int.eq_ofNat_of_zero_le hk
      have hn' : n = m * (f.base : Int) ^ k := by
        rw [zpow_natCast] at hn
        exact_mod_cast hn
      refine ⟨k, ⟨m, by rw [hn', mul_comm]⟩, ?_⟩
      rw [hn', abs_mul, abs_of_pos (hpos k), pow_add]
      exact mul_lt_mul_of_pos_right hm (hpos k)
    · obtain ⟨j, rfl⟩ : ∃ j : Nat, k = -j := ⟨k.natAbs, by omega⟩
      have hm' : m = n * (f.base : Int) ^ j := by
        rw [zpow_neg, zpow_natCast, ← div_eq_mul_inv, eq_div_iff (pow_pos f.base_pos j).ne'] at hn
        exact_mod_cast hn.symm
      refine ⟨0, by rw [pow_zero]; exact one_dvd n, lt_of_le_of_lt ?_ hm⟩
      rw [hm', abs_mul, abs_of_pos (hpos j)]
      exact le_mul_of_one_le_right (abs_nonneg n) (hpos j)
  · rintro ⟨k, ⟨m, rfl⟩, hn⟩
    refine ⟨m, k, ?_, by omega, by rw [zpow_natCast]; push_cast; ring⟩
    rw [abs_mul, abs_of_pos (hpos k), pow_add, mul_comm] at hn
    exact lt_of_mul_lt_mul_right hn (hpos k).le

/-! ## How large it is -/

/-- What is at most a power of the base is rounded to at most that power. -/
theorem abs_round_le {x : Rat} {n : Int} (hmin : f.minExponent ≤ n) (h : |x| ≤ (f.base : Rat) ^ n) :
    |f.round x| ≤ (f.base : Rat) ^ n := by
  by_cases hzero : x = 0
  · rw [hzero, round_zero, abs_zero]
    exact (f.power_pos n).le
  have hexponent : f.exponent x ≤ n := by
    have hlog : Int.log f.base |x| ≤ n := by
      have := Int.log_mono_right (b := f.base) (abs_pos.mpr hzero) h
      rwa [Int.log_zpow f.one_lt_base] at this
    have := f.precision_pos
    exact max_le (by omega) hmin
  have hpow : ((f.base ^ (n - f.exponent x).toNat : Int) : Rat) * (f.base : Rat) ^ f.exponent x =
      (f.base : Rat) ^ n := by
    push_cast
    rw [← zpow_natCast, ← zpow_add₀ f.base_pos.ne']
    congr 1
    omega
  have hdiv : |x / (f.base : Rat) ^ f.exponent x| ≤ ((f.base ^ (n - f.exponent x).toNat : Int) : Rat) := by
    rw [abs_div, abs_of_pos (f.power_pos _), div_le_iff₀ (f.power_pos _), hpow]
    exact h
  have hround := abs_roundEven_le (hdiv.trans_lt (lt_add_of_pos_right _ one_half_pos))
  rw [round, abs_mul, abs_of_pos (f.power_pos _), ← hpow]
  refine mul_le_mul_of_nonneg_right ?_ (f.power_pos _).le
  exact_mod_cast hround

/-- What is above a power by less than half of a last digit is rounded to at most that power. -/
theorem abs_round_le_of_near {x d : Rat} {n : Int} (hmin : f.minExponent ≤ n - f.precision + 1)
    (hd : d < (f.base : Rat) ^ (n - f.precision + 1) / 2) (h : |x| ≤ (f.base : Rat) ^ n + d) :
    |f.round x| ≤ (f.base : Rat) ^ n := by
  have hprecision := f.precision_pos
  obtain hle | hgt := le_or_gt |x| ((f.base : Rat) ^ n)
  · exact abs_round_le (by omega) hle
  have hpos : 0 < |x| := (f.power_pos n).trans hgt
  have hlast : (f.base : Rat) ^ (n - f.precision + 1) ≤ (f.base : Rat) ^ n :=
    zpow_le_zpow_right₀ f.one_lt_base'.le (by omega)
  have htwo : (2 : Rat) ≤ f.base := by
    have := f.one_lt_base
    exact_mod_cast this
  have hbelow : |x| < (f.base : Rat) ^ (n + 1) := by
    rw [zpow_add_one₀ f.base_pos.ne']
    have := mul_le_mul_of_nonneg_left htwo (f.power_pos n).le
    linarith
  have hexponent : f.exponent x = n - f.precision + 1 := by
    have hlow := (Int.zpow_le_iff_le_log f.one_lt_base hpos).mp hgt.le
    have hhigh := (Int.lt_zpow_iff_log_lt f.one_lt_base hpos).mp hbelow
    unfold exponent
    omega
  have hpow : ((f.base ^ (f.precision - 1) : Int) : Rat) * (f.base : Rat) ^ f.exponent x =
      (f.base : Rat) ^ n := by
    push_cast
    rw [← zpow_natCast, ← zpow_add₀ f.base_pos.ne', hexponent]
    congr 1
    omega
  have hdiv : |x / (f.base : Rat) ^ f.exponent x| < ((f.base ^ (f.precision - 1) : Int) : Rat) + 1 / 2 := by
    rw [abs_div, abs_of_pos (f.power_pos _), div_lt_iff₀ (f.power_pos _), add_mul, hpow]
    rw [← hexponent] at hd
    linarith
  rw [round, abs_mul, abs_of_pos (f.power_pos _), ← hpow]
  refine mul_le_mul_of_nonneg_right ?_ (f.power_pos _).le
  exact_mod_cast abs_roundEven_le hdiv

end NumberFormat

end Infra
