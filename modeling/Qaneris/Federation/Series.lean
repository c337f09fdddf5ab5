import Qaneris.Federation.Governance
import Qaneris.Federation.Scalars
import Qaneris.Infra.Alignment
import Qaneris.Infra.Unicode

/-!
# The other merges

`ControlledMerger`: rows of one shape are put together, series are aligned on the texts of their times, and
`merge` itself, which bounds what goes in and what comes out. Which texts `date.fromisoformat` reads is a
parameter, and so is the length of the JSON text of rows.
-/

namespace Federation

open Contracts (AskPlan)
open Infra (Dict Json align isoDate)

namespace ControlledMerger

/-! ## Series -/

/-- `int` of a decimal digit. -/
def decimalValue (c : Char) : Nat :=
  match Infra.decimalZeros.find? fun z => z ≤ c.toNat && c.toNat < z + 10 with
  | some first => c.toNat - first
  | none => 0

/-- The month of a text `\d{4}-\d{2}`, which may be no month. -/
def monthIn : List Char → Option Nat
  | [a, b, c, d, '-', e, f] =>
    if [a, b, c, d, e, f].all Infra.isDecimal then some (decimalValue e * 10 + decimalValue f) else none
  | _ => none

/-- The text of a value on the time axis. -/
def timeKey (isDate : String → Bool) : Cell → Except MergeError String
  | .date day => .ok (String.ofList (isoDate day.ordinal))
  | .datetime t => .ok (String.ofList t.isoformat)
  | .str s =>
    if s = "" then .error .invalid
    else
      match monthIn s.toList with
      | some month => if 1 ≤ month ∧ month ≤ 12 then .ok s else .error .invalid
      | none => if isDate (String.ofList (s.toList.take 10)) then .ok s else .error .invalid
  | _ => .error .invalid

/-- One row of a source: the value of its metric under the key of its time. -/
def addPoint (isDate : String → Bool) (axis metric : String) (values : Dict Cell) (row : Dict Cell) :
    Except MergeError (Dict Cell) := do
  let key ← timeKey isDate (cellOf row axis)
  if key ∈ values.keys then .error (.failure "merge_time_axis_duplicate")
  else return values.set key (cellOf row metric)

/-- The series of one source. -/
def seriesOf (isDate : String → Bool) (response : SourceResponse) : Except MergeError (Dict Cell) :=
  match response.plan with
  | some (.grounded plan) =>
    match plan.timeField with
    | none => .error (.failure "merge_time_axis_unconfirmed")
    | some field => do
      let table ← tableOf response
      let axis ← column table.rows field.fieldPath
      if table.rows = [] then return []
      else
        match table.columns.filter (· ≠ axis) with
        | [metric] => table.rows.foldlM (addPoint isDate axis metric) []
        | _ => .error .invalid
  | _ => .error (.failure "merge_time_axis_unconfirmed")

/-- `source_1_value` and so on. -/
def valueLabel (index : Nat) : String := scalarLabel index "value"

def alignedRow (row : String × List (Option Cell)) : Dict Cell :=
  Dict.update [("time_key", .str row.1)]
    (row.2.zipIdx.map fun cell => (valueLabel cell.2, cell.1.getD .null))

/-- `ControlledMerger._timeseries` -/
def timeseries (isDate : String → Bool) (inputs : List SourceResponse) : Except MergeError Merged := do
  let series ← inputs.mapM (seriesOf isDate)
  let rows := (align series).map alignedRow
  return {
    columns := "time_key" :: (List.range inputs.length).map valueLabel
    rows, rowCount := rows.length, operation := .alignTimeSeries }

/-! ## Unions -/

/-- `type(value)` -/
def typeName : Cell → Option String
  | .null => none
  | .bool _ => some "bool"
  | .int _ => some "int"
  | .float _ => some "float"
  | .decimal _ => some "Decimal"
  | .str _ => some "str"
  | .date _ => some "date"
  | .datetime _ => some "datetime"
  | .nested (.arr _) => some "list"
  | .nested _ => some "dict"
  | .other type _ => some type

/-- The types of the values in a column, apart from null. -/
def kinds (column : String) (rows : List (Dict Cell)) : List String :=
  rows.filterMap fun row => typeName (cellOf row column)

/-- `len(kinds) > 1 and not kinds <= {int, float, Decimal}` -/
def mixed (kinds : List String) : Bool :=
  1 < kinds.dedup.length && !kinds.all fun kind => kind ∈ ["int", "float", "Decimal"]

/-- `FederationFailure("merge_schema_mismatch")` -/
def schemaMismatch : MergeError := .failure "merge_schema_mismatch"

/-- `ControlledMerger._union` -/
def union (inputs : List SourceResponse) : Except MergeError Merged :=
  match inputs.filterMap SourceResponse.result with
  | [] => .error schemaMismatch
  | first :: rest =>
    if (first :: rest).any fun table => ¬ sameSet table.columns first.columns then .error schemaMismatch
    else do
      let tables ← inputs.mapM tableOf
      let rows := tables.flatMap Table.rows
      if rows.any fun row => ¬ sameSet row.keys first.columns then .error schemaMismatch
      else if first.columns.any fun column => mixed (kinds column rows) then .error schemaMismatch
      else return {
        columns := first.columns, rows, rowCount := rows.length, operation := .unionRows }

/-! ## The whole merge -/

/-- A completed response, with the flag of its result. -/
structure SourceAnswer extends SourceResponse where
  truncated : Bool := false
  deriving DecidableEq, Repr

/-- The rows of a merge, with the flag. -/
structure MergedAnswer extends Merged where
  truncated : Bool
  deriving DecidableEq, Repr

/-- What `merge` raises. -/
inductive MergeRaised where
  | error (e : MergeError)
  /-- `KeyError`: there is no response of the task. -/
  | missing (taskId : String)
  deriving DecidableEq, Repr

/-- What the merges compute with. -/
structure Texts where
  floats : Floats
  isDate : String → Bool
  /-- `len(json.dumps(rows, …).encode())`, which may fail. -/
  jsonSize : List (Dict Cell) → Except MergeError Nat

/-- `FederationFailure("result_limit")` -/
def resultLimit : MergeError := .failure "result_limit"

variable (t : Texts)

/-- One round of the loop over the inputs: the rows and the bytes so far. -/
def checkInput (scope : ExecutionScope) (sofar : Nat × Nat) (answer : SourceAnswer) :
    Except MergeError (Nat × Nat) := do
  let table ← tableOf answer.toSourceResponse
  let rows := sofar.1 + table.rows.length
  if scope.maxRowsPerSource < table.rows.length ∨ scope.maxTotalRows < rows then .error resultLimit
  else do
    let bytes := sofar.2 + (← t.jsonSize table.rows)
    if scope.maxIntermediateBytes < bytes then .error resultLimit
    else return (rows, bytes)

/-- The operation of the plan. -/
def operate (plan : MergePlan) (mapping : Option JoinMapping) (inputs : List SourceResponse) :
    Except MergeError Merged :=
  match plan.operation, mapping with
  | .compareScalars, _ | .combineScalars, _ => scalars t.floats plan inputs
  | .unionRows, _ => union inputs
  | .alignTimeSeries, _ => timeseries t.isDate inputs
  | .keyedJoin, some mapping => join inputs plan mapping
  | .keyedJoin, none => .error (.failure "unsupported_merge_operation" true)

/-- What is merged of the inputs, within the limits. -/
def mergeInputs (scope : ExecutionScope) (plan : MergePlan) (mapping : Option JoinMapping)
    (inputs : List SourceAnswer) : Except MergeError MergedAnswer := do
  let _ ← inputs.foldlM (checkInput t scope) (0, 0)
  let result ← operate t plan mapping (inputs.map SourceAnswer.toSourceResponse)
  if scope.maxTotalRows < result.rowCount then .error resultLimit
  else do
    let bytes ← t.jsonSize result.rows
    if scope.maxIntermediateBytes < bytes then .error resultLimit
    else return {
      result with
      operation := plan.operation
      truncated := inputs.any fun answer => answer.result.isSome && answer.truncated }

/-- `responses[task_id]` -/
def answerOf (responses : Dict SourceAnswer) (taskId : String) : Except MergeRaised SourceAnswer :=
  match responses.get? taskId with
  | none => .error (.missing taskId)
  | some answer => .ok answer

/-- `ControlledMerger.merge` -/
def merge (now : Instant) (plan : MergePlan) (responses : Dict SourceAnswer) (scope : ExecutionScope)
    (mapping : Option JoinMapping) : Except MergeRaised MergedAnswer :=
  if scope.deadline ≤ now then .error (.error (.failure "federation_deadline_exceeded"))
  else do
    let inputs ← plan.inputTaskIds.mapM (answerOf responses)
    (mergeInputs t scope plan mapping inputs).mapError .error

end ControlledMerger

end Federation
