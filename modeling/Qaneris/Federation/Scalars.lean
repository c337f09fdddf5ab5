import Qaneris.Federation.Merger
import Qaneris.Infra.Rounding

/-!
# Merges of single values

`ControlledMerger._scalars`: the numbers are computed with in the default context of decimal numbers, which
keeps 28 digits of the result of an operation. What makes a number of a float and a float of a number is a
parameter.
-/

namespace Federation

open Infra

/-! ## Decimal numbers -/

/-- `decimal.DefaultContext`, whose `Etiny()` is the least exponent. -/
def decimalContext : NumberFormat where
  base := 10
  one_lt_base := by decide
  precision := 28
  precision_pos := by decide
  minExponent := -1000026

/-- `Emax` -/
def maxExponent : Nat := 999999

/-- The result of an operation. The context traps what is too large. -/
def rounded (x : Rat) : Except MergeError Rat :=
  if (10 : Rat) ^ (maxExponent + 1) ≤ |decimalContext.round x| then .error .overflow
  else .ok (decimalContext.round x)

/-- `sum(values)`, which starts with zero. -/
def total (values : List Rat) : Except MergeError Rat :=
  values.foldlM (fun sum value => rounded (sum + value)) 0

/-- `sys.get_int_max_str_digits()` -/
def maxStrDigits : Nat := 4300

structure Floats where
  /-- The number that `str(value)` of a float writes. -/
  written : Rat → Rat
  /-- `float(number)` of a number with a fraction. -/
  ofNumber : Rat → Real

variable (t : Floats)

/-- `_number`: a text of an integer has at most so many digits. -/
def number : Cell → Except MergeError Rat
  | .int n => if 10 ^ maxStrDigits ≤ n.natAbs then .error .valueError else .ok n
  | .float (.finite q) => .ok (t.written q)
  | .decimal (.finite q) => .ok q
  | _ => .error .invalid

/-- `_plain` -/
def plain (number : Rat) : Cell :=
  if number.den = 1 then .int number.num else .float (t.ofNumber number)

/-! ## The merge -/

/-- `scalar_operation` as a text. -/
def ScalarOperation.text : ScalarOperation → String
  | .sum => "sum"
  | .difference => "difference"
  | .ratio => "ratio"
  | .percentageChange => "percentage_change"
  | .percentageDifference => "percentage_difference"

namespace ControlledMerger

def scalarLabel (index : Nat) (name : String) : String :=
  "source_" ++ toString (index + 1) ++ "_" ++ name

/-- The label and the number of one response. -/
def scalarInput (input : SourceResponse × Nat) : Except MergeError (String × Rat) := do
  let table ← tableOf input.1
  match table.rows with
  | [[(name, value)]] => return (scalarLabel input.2 name, ← number t value)
  | _ => .error .invalid

/-- `calculated`. The sum of no numbers is an `int`, which has no `to_integral_value`. -/
def calculated (operation : ScalarOperation) (values : List Rat) : Except MergeError Rat :=
  match operation with
  | .sum => if values = [] then .error .attributeError else total values
  | .difference =>
    match values with
    | [] => .error .indexError
    | first :: rest => do rounded (first - (← total rest))
  | _ =>
    match values with
    | [a, b] =>
      if b = 0 then .error (.failure "division_by_zero")
      else do
        let quotient ← rounded (a / b)
        if operation = .ratio then return quotient
        else rounded ((← rounded ((← rounded (a - b)) / b)) * 100)
    | _ => .error .invalid

/-- `ControlledMerger._scalars` -/
def scalars (plan : MergePlan) (inputs : List SourceResponse) : Except MergeError Merged := do
  let items ← inputs.zipIdx.mapM (scalarInput t)
  let row := Dict.update [] (items.map fun item => (item.1, plain t item.2))
  let row ← match plan.scalarOperation with
    | none => pure row
    | some operation => do
      let number ← calculated operation (items.map Prod.snd)
      pure (row.set operation.text (plain t number))
  return { columns := row.keys, rows := [row], rowCount := 1, operation := plan.operation }

end ControlledMerger

end Federation
