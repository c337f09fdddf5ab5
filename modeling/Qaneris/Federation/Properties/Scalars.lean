import Qaneris.Federation.Scalars
import Qaneris.Infra.Except
import Qaneris.Infra.JsonText
import Mathlib.Data.List.Sigma

/-!
# What a merge of integers computes

The inputs are reported as they are. A sum is rounded to 28 digits after each step, so that it is exact only
where nothing is lost or what is lost cancels out; an integer that has too many digits for its text is not
read at all.
-/

namespace Federation

open Infra

variable {t : Floats}

/-! ## Rounding -/

/-- What rounding adds to a number. -/
def lost (x : Rat) : Rat := decimalContext.round x - x

/-- What rounding has added to a running sum in the end. -/
def drift : Rat → List Rat → Rat
  | _, [] => 0
  | sum, value :: values => lost (sum + value) + drift (decimalContext.round (sum + value)) values

theorem represents_intCast {n : Int} (h : |n| < 10 ^ 28) : decimalContext.Represents n :=
  ⟨n, 0, h, by decide, by rw [zpow_zero, mul_one]⟩

theorem lost_eq_zero_iff {x : Rat} : lost x = 0 ↔ decimalContext.Represents x := by
  rw [lost, sub_eq_zero, NumberFormat.round_eq_self_iff]

/-- Nothing is lost where every partial sum has at most 28 digits. -/
theorem drift_eq_zero {sum : Rat} {values : List Rat}
    (h : ∀ part, part <+: values → part ≠ [] → decimalContext.Represents (sum + part.sum)) :
    drift sum values = 0 := by
  induction values generalizing sum with
  | nil => rfl
  | cons value values ih =>
    have hvalue : decimalContext.Represents (sum + value) := by
      simpa using h [value] (List.prefix_append [value] values) (List.cons_ne_nil _ _)
    rw [drift, lost_eq_zero_iff.mpr hvalue, zero_add, NumberFormat.round_of_represents hvalue]
    refine ih fun part hpart hne => ?_
    have := h (value :: part) (List.cons_prefix_cons.mpr ⟨rfl, hpart⟩) (List.cons_ne_nil _ _)
    rwa [List.sum_cons, ← add_assoc] at this

/-- A result of a moderate size is not trapped. -/
theorem rounded_ok {x : Rat} {n : Nat} (hn : n ≤ maxExponent) (h : |decimalContext.round x| ≤ (10 : Rat) ^ n) :
    rounded x = .ok (decimalContext.round x) := by
  refine if_neg (not_le.mpr (h.trans_lt ?_))
  exact pow_lt_pow_right₀ (by norm_num) (Nat.lt_succ_of_le hn)

theorem abs_round_le {x : Rat} {n : Nat} (h : |x| ≤ (10 : Rat) ^ n) :
    |decimalContext.round x| ≤ (10 : Rat) ^ n := by
  have hbase : ((decimalContext.base : Nat) : Rat) ^ (n : Int) = (10 : Rat) ^ n := by
    rw [zpow_natCast]
    rfl
  have hmin : decimalContext.minExponent ≤ (n : Int) := by
    have : decimalContext.minExponent = -1000026 := rfl
    omega
  have := NumberFormat.abs_round_le (f := decimalContext) hmin (hbase ▸ h)
  rwa [hbase] at this

/-! ## Sums -/

/-- No sum of integers that are read gets beyond this power of ten. -/
def sumExponent : Nat := maxStrDigits + 28

theorem abs_round_add_le {sum value : Rat} (hsum : |sum| ≤ (10 : Rat) ^ sumExponent)
    (hvalue : |value| ≤ (10 : Rat) ^ maxStrDigits) :
    |decimalContext.round (sum + value)| ≤ (10 : Rat) ^ sumExponent := by
  have hbase : ((decimalContext.base : Nat) : Rat) = 10 := rfl
  have hlast : ((sumExponent : Nat) : Int) - (decimalContext.precision : Nat) + 1 =
      ((maxStrDigits + 1 : Nat) : Int) := by
    decide
  have hmin : decimalContext.minExponent ≤ (sumExponent : Int) - (decimalContext.precision : Nat) + 1 := by
    decide
  have hhalf : (10 : Rat) ^ maxStrDigits < ((decimalContext.base : Nat) : Rat) ^
      ((sumExponent : Int) - (decimalContext.precision : Nat) + 1) / 2 := by
    rw [hlast, hbase, zpow_natCast, pow_succ]
    have : (0 : Rat) < 10 ^ maxStrDigits := pow_pos (by norm_num) _
    linarith
  have h : |sum + value| ≤ ((decimalContext.base : Nat) : Rat) ^ (sumExponent : Int) +
      (10 : Rat) ^ maxStrDigits := by
    rw [hbase, zpow_natCast]
    exact (abs_add_le sum value).trans (add_le_add hsum hvalue)
  have hround := NumberFormat.abs_round_le_of_near hmin hhalf h
  rwa [hbase, zpow_natCast] at hround

theorem foldlM_rounded {values : List Rat}
    (hvalues : ∀ value ∈ values, |value| ≤ (10 : Rat) ^ maxStrDigits) :
    ∀ {sum : Rat}, |sum| ≤ (10 : Rat) ^ sumExponent →
      values.foldlM (fun sum value => rounded (sum + value)) sum =
          .ok (sum + values.sum + drift sum values) ∧
        |sum + values.sum + drift sum values| ≤ (10 : Rat) ^ sumExponent := by
  induction values with
  | nil =>
    intro sum hsum
    rw [List.sum_nil, add_zero, drift, add_zero]
    exact ⟨rfl, hsum⟩
  | cons value values ih =>
    intro sum hsum
    obtain ⟨hvalue, hvalues⟩ := List.forall_mem_cons.mp hvalues
    have hround := abs_round_add_le hsum hvalue
    have hstep : decimalContext.round (sum + value) + values.sum +
          drift (decimalContext.round (sum + value)) values =
        sum + (value :: values).sum + drift sum (value :: values) := by
      rw [List.sum_cons, drift, lost]
      ring
    obtain ⟨hrest, hbound⟩ := ih hvalues hround
    rw [hstep] at hrest hbound
    refine ⟨?_, hbound⟩
    rw [List.foldlM_cons, rounded_ok (by decide) hround]
    exact hrest

/-- **The sum of integers is their sum and what was lost on the way.** -/
theorem total_eq {values : List Rat} (hvalues : ∀ value ∈ values, |value| ≤ (10 : Rat) ^ maxStrDigits) :
    total values = .ok (values.sum + drift 0 values) ∧
      |values.sum + drift 0 values| ≤ (10 : Rat) ^ sumExponent := by
  have hzero : |(0 : Rat)| ≤ (10 : Rat) ^ sumExponent := by
    rw [abs_zero]
    exact (pow_pos (by norm_num) _).le
  have h := foldlM_rounded hvalues hzero
  rwa [zero_add] at h

/-- The sum of integers is an integer. -/
theorem drift_intCast (values : List Int) : ∀ sum : Int, ∃ n : Int,
    drift sum (values.map fun value : Int => (value : Rat)) = n := by
  induction values with
  | nil => exact fun _ => ⟨0, Int.cast_zero.symm⟩
  | cons value values ih =>
    intro sum
    have hcast : ((sum : Rat) + (value : Rat)) = ((sum + value : Int) : Rat) := by push_cast; rfl
    obtain ⟨m, hm⟩ := decimalContext.round_intCast (sum + value)
    obtain ⟨n, hn⟩ := ih m
    refine ⟨m - (sum + value) + n, ?_⟩
    rw [List.map_cons, drift, lost, hcast, hm, hn]
    push_cast
    ring

/-! ## Labels -/

namespace ControlledMerger

/-- The labels of different sources are different, whatever the names of their columns. -/
theorem scalarLabel_inj {i j : Nat} {a b : String} (h : scalarLabel i a = scalarLabel j b) : i = j := by
  have hdigits : ∀ n : Nat, ∀ c ∈ (toString (n + 1)).toList, (c ≠ '_' : Bool) = true := by
    intro n c hc
    rw [Nat.toString_eq_repr, Nat.toList_repr] at hc
    have hdigit := Nat.isDigit_of_mem_toDigits (by decide) (by decide) hc
    refine decide_eq_true ?_
    rintro rfl
    exact absurd hdigit (by decide)
  have hread : ∀ (n : Nat) (name : String),
      ((scalarLabel n name).toList.drop 7).takeWhile (· ≠ '_') = (toString (n + 1)).toList := by
    intro n name
    have hlist : (scalarLabel n name).toList.drop 7 =
        (toString (n + 1)).toList ++ '_' :: name.toList := by
      simp [scalarLabel]
    rw [hlist, List.takeWhile_append_of_pos (hdigits n), List.takeWhile_cons_of_neg (by simp),
      List.append_nil]
  have hsame := hread i a
  rw [h, hread j b] at hsame
  have := repr_inj (String.toList_inj.mp hsame)
  omega

/-- A label of a source is not that of an operation. -/
theorem scalarLabel_ne_text (i : Nat) (name : String) (operation : ScalarOperation) :
    scalarLabel i name ≠ operation.text := by
  intro h
  have hhead : operation.text.toList.take 2 = ['s', 'o'] := by
    rw [← h]
    simp [scalarLabel]
  cases operation <;> exact absurd hhead (by decide)

/-! ## The inputs -/

/-- The result of the response is one integer under this name. -/
def Single (response : SourceResponse) (cell : String × Int) : Prop :=
  ∃ table, response.result = some table ∧ table.rows = [[(cell.1, .int cell.2)]]

/-- The integer has a text. -/
def Short (n : Int) : Prop := n.natAbs < 10 ^ maxStrDigits

/-- What is read of a response. -/
def itemOf (cell : (String × Int) × Nat) : String × Rat := (scalarLabel cell.2 cell.1.1, cell.1.2)

variable {inputs : List SourceResponse} {cells : List (String × Int)} {plan : MergePlan}

theorem scalarInput_eq {response : SourceResponse} {cell : String × Int} (h : Single response cell)
    (k : Nat) : scalarInput t (response, k) =
      if 10 ^ maxStrDigits ≤ cell.2.natAbs then .error .valueError else .ok (itemOf (cell, k)) := by
  obtain ⟨table, hresult, hrows⟩ := h
  by_cases hlong : 10 ^ maxStrDigits ≤ cell.2.natAbs
  · simp only [scalarInput, tableOf, hresult, hrows, number, bind, Except.bind, if_pos hlong]
  · simp only [scalarInput, tableOf, hresult, hrows, number, bind, Except.bind, if_neg hlong, pure,
      Except.pure, itemOf]

theorem inputs_short (h : List.Forall₂ Single inputs cells) (hshort : ∀ cell ∈ cells, Short cell.2) :
    ∀ k, (inputs.zipIdx k).mapM (scalarInput t) = .ok ((cells.zipIdx k).map itemOf) := by
  induction h with
  | nil => exact fun _ => rfl
  | @cons response cell inputs cells hsingle htail ih =>
    intro k
    obtain ⟨hcell, hcells⟩ := List.forall_mem_cons.mp hshort
    rw [List.zipIdx_cons, List.mapM_cons, scalarInput_eq hsingle, if_neg (Nat.not_le.mpr hcell), ih hcells]
    rfl

theorem inputs_long (h : List.Forall₂ Single inputs cells) (hlong : ¬ ∀ cell ∈ cells, Short cell.2) :
    ∀ k, (inputs.zipIdx k).mapM (scalarInput t) = .error .valueError := by
  induction h with
  | nil => exact absurd (fun _ hcell => absurd hcell List.not_mem_nil) hlong
  | @cons response cell inputs cells hsingle htail ih =>
    intro k
    rw [List.zipIdx_cons, List.mapM_cons, scalarInput_eq hsingle]
    by_cases hcell : 10 ^ maxStrDigits ≤ cell.2.natAbs
    · rw [if_pos hcell]
      rfl
    · have htail' : ¬ ∀ cell ∈ cells, Short cell.2 := fun hall =>
        hlong (List.forall_mem_cons.mpr ⟨Nat.not_le.mp hcell, hall⟩)
      rw [if_neg hcell, ih htail']
      rfl

theorem nodup_labels (cells : List (String × Int)) :
    (cells.zipIdx.map fun cell => scalarLabel cell.2 cell.1.1).Nodup := by
  have hindices := List.pairwise_map.mp (List.nodup_zipIdx_map_snd cells)
  exact List.pairwise_map.mpr (hindices.imp fun hne heq => hne (scalarLabel_inj heq))

theorem plain_intCast (n : Int) : plain t n = .int n := by
  rw [plain, if_pos (Rat.den_intCast n), Rat.num_intCast]

/-- The numbers that are computed with. -/
def numbers (cells : List (String × Int)) : List Rat := cells.map fun cell => (cell.2 : Rat)

/-- The inputs as they are reported. -/
def reported (cells : List (String × Int)) : Dict Cell :=
  Dict.update [] (cells.zipIdx.map fun cell => (scalarLabel cell.2 cell.1.1, .int cell.1.2))

theorem reported_get? {i : Nat} {cell : String × Int} (h : cells[i]? = some cell) :
    (reported cells).get? (scalarLabel i cell.1) = some (.int cell.2) := by
  refine Dict.get?_update_nil ?_ (List.mem_map.mpr ⟨(cell, i), List.mem_zipIdx_iff_getElem?.mpr h, rfl⟩)
  rw [List.map_map]
  exact nodup_labels cells

def mergedRow (plan : MergePlan) (row : Dict Cell) : Merged where
  columns := row.keys
  rows := [row]
  rowCount := 1
  operation := plan.operation

/-- What becomes of integers that are read. -/
theorem scalars_short (plan : MergePlan) (h : List.Forall₂ Single inputs cells)
    (hshort : ∀ cell ∈ cells, Short cell.2) :
    scalars t plan inputs = match plan.scalarOperation with
      | none => .ok (mergedRow plan (reported cells))
      | some operation => (calculated operation (numbers cells)).map fun number =>
          mergedRow plan ((reported cells).set operation.text (plain t number)) := by
  have hvalues : ((cells.zipIdx.map itemOf).map Prod.snd) = numbers cells := by
    rw [List.map_map, numbers]
    conv_rhs => rw [← List.zipIdx_map_fst 0 cells]
    rw [List.map_map]
    rfl
  have hrow : (cells.zipIdx.map itemOf).map (fun item => (item.1, plain t item.2)) =
      cells.zipIdx.map fun cell => (scalarLabel cell.2 cell.1.1, .int cell.1.2) := by
    rw [List.map_map]
    refine List.map_congr_left fun cell _ => ?_
    rw [Function.comp_apply, itemOf, plain_intCast]
  unfold scalars
  rw [inputs_short h hshort 0]
  simp only [bind, Except.bind, hvalues, hrow]
  cases plan.scalarOperation with
  | none => rfl
  | some operation =>
    dsimp only
    cases calculated operation (numbers cells) with
    | error e => rfl
    | ok number => rfl

/-! ## What is promised -/

/-- **The merge of integers is exact.** -/
structure ExactScalars (t : Floats) (plan : MergePlan) (inputs : List SourceResponse)
    (cells : List (String × Int)) : Prop where
  raises : ∀ e, scalars t plan inputs = .error e → ∃ code blocked, e = .failure code blocked
  unchanged : ∀ merged, scalars t plan inputs = .ok merged → ∃ row, merged.rows = [row] ∧
    ∀ i cell, cells[i]? = some cell → row.get? (scalarLabel i cell.1) = some (.int cell.2)
  distinct : (cells.zipIdx.map fun cell => scalarLabel cell.2 cell.1.1).Nodup ∧
    ∀ operation : ScalarOperation,
      operation.text ∉ cells.zipIdx.map fun cell => scalarLabel cell.2 cell.1.1
  sum : plan.scalarOperation = some .sum → ∃ merged row, scalars t plan inputs = .ok merged ∧
    merged.rows = [row] ∧ row.get? "sum" = some (.int (cells.map (·.2)).sum)
  difference : plan.scalarOperation = some .difference → ∀ first rest, cells = first :: rest →
    ∃ merged row, scalars t plan inputs = .ok merged ∧ merged.rows = [row] ∧
      row.get? "difference" = some (.int (first.2 - (rest.map (·.2)).sum))

/-- There is something to compute with, and what is lost by rounding cancels out. -/
def Cancels (operation : Option ScalarOperation) (cells : List (String × Int)) : Prop :=
  match operation, cells with
  | some .sum, [] | some .difference, [] => False
  | some .sum, cells => drift 0 (numbers cells) = 0
  | some .difference, first :: rest =>
    lost (first.2 - ((numbers rest).sum + drift 0 (numbers rest))) = drift 0 (numbers rest)
  | _, _ => True

/-! ## What the operations compute -/

theorem abs_numbers_le (hshort : ∀ cell ∈ cells, Short cell.2) :
    ∀ value ∈ numbers cells, |value| ≤ (10 : Rat) ^ maxStrDigits := by
  intro value hvalue
  obtain ⟨cell, hcell, rfl⟩ := List.mem_map.mp hvalue
  have hlt : ((cell.2.natAbs : Nat) : Rat) < ((10 ^ maxStrDigits : Nat) : Rat) :=
    Nat.cast_lt.mpr (hshort cell hcell)
  rw [Nat.cast_natAbs, Int.cast_abs, Nat.cast_pow, Nat.cast_ofNat] at hlt
  exact hlt.le

theorem drift_numbers (cells : List (String × Int)) : ∃ n : Int, drift 0 (numbers cells) = n := by
  obtain ⟨n, hn⟩ := drift_intCast (cells.map (·.2)) 0
  rw [List.map_map, Int.cast_zero] at hn
  exact ⟨n, hn⟩

theorem sum_numbers (cells : List (String × Int)) : (numbers cells).sum = ((cells.map (·.2)).sum : Int) := by
  induction cells with
  | nil => rfl
  | cons cell cells ih =>
    rw [List.map_cons, List.sum_cons, Int.cast_add, ← ih]
    rfl

theorem calculated_sum (hshort : ∀ cell ∈ cells, Short cell.2) (hne : cells ≠ []) :
    calculated .sum (numbers cells) = .ok ((numbers cells).sum + drift 0 (numbers cells)) := by
  have hnumbers : numbers cells ≠ [] := fun h => hne (List.map_eq_nil_iff.mp h)
  rw [calculated, if_neg hnumbers]
  exact (total_eq (abs_numbers_le hshort)).1

theorem calculated_difference {first : String × Int} {rest : List (String × Int)}
    (hshort : ∀ cell ∈ first :: rest, Short cell.2) :
    calculated .difference (numbers (first :: rest)) = .ok (decimalContext.round
      (first.2 - ((numbers rest).sum + drift 0 (numbers rest)))) := by
  have hfirst : |(first.2 : Rat)| ≤ (10 : Rat) ^ maxStrDigits :=
    abs_numbers_le hshort _ (List.mem_cons_self)
  obtain ⟨htotal, hbound⟩ := total_eq (abs_numbers_le (List.forall_mem_cons.mp hshort).2)
  have hround : |decimalContext.round (first.2 - ((numbers rest).sum + drift 0 (numbers rest)))| ≤
      (10 : Rat) ^ sumExponent := by
    rw [sub_eq_neg_add]
    exact abs_round_add_le (by rwa [abs_neg]) hfirst
  show (total (numbers rest) >>= fun sum => rounded (first.2 - sum)) = _
  rw [htotal]
  exact rounded_ok (by decide) hround

theorem rounded_of_le {x : Rat} {n : Nat} (hn : n ≤ maxExponent) (h : |x| ≤ (10 : Rat) ^ n) :
    rounded x = .ok (decimalContext.round x) ∧ |decimalContext.round x| ≤ (10 : Rat) ^ n :=
  ⟨rounded_ok hn (abs_round_le h), abs_round_le h⟩

/-- A quotient by an integer is at most what is divided. -/
theorem abs_div_le {x : Rat} {b : Int} {n : Nat} (hb : b ≠ 0) (h : |x| ≤ (10 : Rat) ^ n) :
    |x / b| ≤ (10 : Rat) ^ n := by
  have hone : (1 : Rat) ≤ |(b : Rat)| := by
    have : (1 : Int) ≤ |b| := Int.one_le_abs hb
    exact_mod_cast this
  rw [abs_div, div_le_iff₀ (by linarith)]
  exact h.trans (le_mul_of_one_le_right (pow_pos (by norm_num) n).le hone)

/-- The other operations fail as a merge does, or not at all. -/
theorem calculated_failure {operation : ScalarOperation} (hsum : operation ≠ .sum)
    (hdifference : operation ≠ .difference) (hshort : ∀ cell ∈ cells, Short cell.2) {e : MergeError}
    (h : calculated operation (numbers cells) = .error e) : ∃ code blocked, e = .failure code blocked := by
  have hinvalid : ∃ code blocked, MergeError.invalid = .failure code blocked := ⟨_, _, rfl⟩
  rcases cells with _ | ⟨a, _ | ⟨b, _ | ⟨c, cells⟩⟩⟩
  · cases operation <;> first | exact absurd rfl hsum | exact absurd rfl hdifference | (cases h; exact hinvalid)
  · cases operation <;> first | exact absurd rfl hsum | exact absurd rfl hdifference | (cases h; exact hinvalid)
  · have ha : |(a.2 : Rat)| ≤ (10 : Rat) ^ maxStrDigits := abs_numbers_le hshort _ (by simp [numbers])
    have hb : |(b.2 : Rat)| ≤ (10 : Rat) ^ maxStrDigits := abs_numbers_le hshort _ (by simp [numbers])
    have hcalculated : calculated operation (numbers [a, b]) =
        if (b.2 : Rat) = 0 then .error (.failure "division_by_zero")
        else rounded (a.2 / b.2) >>= fun quotient =>
          if operation = .ratio then .ok quotient
          else rounded (a.2 - b.2) >>= fun change => rounded (change / b.2) >>= fun share =>
            rounded (share * 100) := by
      cases operation <;> first | exact absurd rfl hsum | exact absurd rfl hdifference | rfl
    rw [hcalculated] at h
    split at h
    · cases h
      exact ⟨_, _, rfl⟩
    · next hzero =>
      have hb' : b.2 ≠ 0 := fun h => hzero (by rw [h, Int.cast_zero])
      have hmax : ∀ n : Nat, n ≤ 4303 → n ≤ maxExponent := fun n hn => by
        rw [maxExponent]
        omega
      -- every result of the way is below the trap
      obtain ⟨hquotient, -⟩ := rounded_of_le (hmax 4300 (by omega)) (abs_div_le hb' ha)
      have hchange : |(a.2 : Rat) - b.2| ≤ (10 : Rat) ^ 4301 := by
        have hten : (10 : Rat) ^ 4301 = 10 ^ maxStrDigits * 10 := pow_succ _ _
        have hpos : (0 : Rat) < 10 ^ maxStrDigits := pow_pos (by norm_num) _
        have hsub : |(a.2 : Rat) - b.2| ≤ |(a.2 : Rat)| + |(b.2 : Rat)| := abs_sub _ _
        rw [hten]
        generalize (10 : Rat) ^ maxStrDigits = most at ha hb hpos
        linarith
      obtain ⟨hrounded, hbound⟩ := rounded_of_le (hmax 4301 (by omega)) hchange
      obtain ⟨hshare, hbound⟩ := rounded_of_le (hmax 4301 (by omega)) (abs_div_le hb' hbound)
      have hpercent : |decimalContext.round (decimalContext.round (a.2 - b.2) / b.2) * 100| ≤
          (10 : Rat) ^ 4303 := by
        have hten : (10 : Rat) ^ 4303 = 10 ^ 4301 * 100 := by
          rw [pow_succ, pow_succ, mul_assoc]
          norm_num
        rw [abs_mul, hten]
        exact mul_le_mul hbound (by norm_num) (abs_nonneg _) (pow_pos (by norm_num) _).le
      obtain ⟨hresult, -⟩ := rounded_of_le (hmax 4303 (by omega)) hpercent
      rw [hquotient] at h
      simp only [bind, Except.bind, hrounded, hshare, hresult] at h
      split at h
      · cases h
      · cases h
  · cases operation <;> first | exact absurd rfl hsum | exact absurd rfl hdifference | (cases h; exact hinvalid)

/-! ## The result -/

theorem get?_set_label {operation : ScalarOperation} {value : Cell} {i : Nat} {name : String}
    (row : Dict Cell) : (row.set operation.text value).get? (scalarLabel i name) =
      row.get? (scalarLabel i name) := by
  rw [Dict.get?_set, if_neg (scalarLabel_ne_text i name operation)]

theorem distinct_labels (cells : List (String × Int)) :
    (cells.zipIdx.map fun cell => scalarLabel cell.2 cell.1.1).Nodup ∧
      ∀ operation : ScalarOperation,
        operation.text ∉ cells.zipIdx.map fun cell => scalarLabel cell.2 cell.1.1 := by
  refine ⟨nodup_labels cells, fun operation hmem => ?_⟩
  obtain ⟨cell, -, hcell⟩ := List.mem_map.mp hmem
  exact scalarLabel_ne_text cell.2 cell.1.1 operation hcell

/-- The result of an operation that gives an integer. -/
theorem scalars_calculated {operation : ScalarOperation} (h : List.Forall₂ Single inputs cells)
    (hshort : ∀ cell ∈ cells, Short cell.2) (hoperation : plan.scalarOperation = some operation) {n : Int}
    (hn : calculated operation (numbers cells) = .ok (n : Rat)) {m : Int} :
    (∃ merged row, scalars t plan inputs = .ok merged ∧ merged.rows = [row] ∧
      row.get? operation.text = some (.int m)) ↔ n = m := by
  have hscalars := scalars_short (t := t) plan h hshort
  rw [hoperation] at hscalars
  dsimp only at hscalars
  rw [hn] at hscalars
  dsimp only [Except.map] at hscalars
  rw [plain_intCast] at hscalars
  have hget : ((reported cells).set operation.text (.int n)).get? operation.text = some (.int n) := by
    rw [Dict.get?_set, if_pos rfl]
  constructor
  · rintro ⟨merged, row, hmerged, hrows, hrow⟩
    obtain rfl := Except.ok.inj (hscalars.symm.trans hmerged)
    obtain rfl : _ = row := List.singleton_inj.mp hrows
    rw [hget] at hrow
    exact Cell.int.inj (Option.some.inj hrow)
  · rintro rfl
    exact ⟨_, _, hscalars, rfl, hget⟩

/-- What is computed, as an integer. -/
theorem exists_calculated_sum (hshort : ∀ cell ∈ cells, Short cell.2) (hne : cells ≠ []) :
    ∃ n : Int, calculated .sum (numbers cells) = .ok (n : Rat) ∧
      (n = (cells.map (·.2)).sum ↔ drift 0 (numbers cells) = 0) := by
  obtain ⟨d, hd⟩ := drift_numbers cells
  refine ⟨(cells.map (·.2)).sum + d, ?_, ?_⟩
  · rw [calculated_sum hshort hne, sum_numbers, hd, Int.cast_add]
  · rw [hd, add_eq_left, Int.cast_eq_zero]

theorem exists_calculated_difference {first : String × Int} {rest : List (String × Int)}
    (hshort : ∀ cell ∈ first :: rest, Short cell.2) :
    ∃ n : Int, calculated .difference (numbers (first :: rest)) = .ok (n : Rat) ∧
      (n = first.2 - (rest.map (·.2)).sum ↔
        lost (first.2 - ((numbers rest).sum + drift 0 (numbers rest))) = drift 0 (numbers rest)) := by
  obtain ⟨d, hd⟩ := drift_numbers rest
  have hcast : (first.2 : Rat) - ((numbers rest).sum + drift 0 (numbers rest)) =
      ((first.2 - ((rest.map (·.2)).sum + d) : Int) : Rat) := by
    rw [sum_numbers, hd]
    push_cast
    rfl
  obtain ⟨n, hn⟩ := decimalContext.round_intCast (first.2 - ((rest.map (·.2)).sum + d))
  refine ⟨n, ?_, ?_⟩
  · rw [calculated_difference hshort, hcast, hn]
  · rw [hcast, lost, hn, hd, ← Int.cast_sub, Int.cast_inj]
    omega

/-- Nothing is lost of integers whose partial sums have at most 28 digits. -/
theorem drift_numbers_eq_zero (h : ∀ k, |((cells.take k).map (·.2)).sum| < 10 ^ 28) :
    drift 0 (numbers cells) = 0 := by
  refine drift_eq_zero fun part hpart _ => ?_
  obtain ⟨front, hfront, rfl⟩ := List.prefix_map_iff.mp hpart
  have hsum : ((front.map fun cell => (cell.2 : Rat))).sum = ((front.map (·.2)).sum : Int) := sum_numbers front
  rw [zero_add, hsum]
  refine represents_intCast ?_
  rw [List.prefix_iff_eq_take.mp hfront]
  exact h _

/-- A merge of the values of two sources. -/
def sumPlan : MergePlan := { operation := .combineScalars, scalarOperation := some .sum }

def valueOf (n : Int) : SourceResponse := { result := some { columns := ["n"], rows := [[("n", .int n)]] } }

def plainFloats : Floats where
  written q := q
  ofNumber q := .finite q

theorem single_valueOf (n : Int) : Single (valueOf n) ("n", n) := ⟨_, rfl, rfl⟩

end ControlledMerger

end Federation
