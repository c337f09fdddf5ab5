import Qaneris.Federation.Models
import Qaneris.Infra.Calendar
import Qaneris.Infra.Dict
import Qaneris.Infra.Joins

/-!
# Controlled merges

`ControlledMerger`: the rows of completed responses are joined by a key, aligned on time, or computed with.
A response in memory carries the values that the drivers returned, where a stored one carries their JSON.
-/

namespace Federation

open Contracts (AskPlan GroundedQueryPlan)
open Infra (Dict Json digits isoDate maxOrdinal)

/-! ## The values of rows -/

/-- A floating-point or a decimal number. What is not a number is equal to itself only, as an object. -/
inductive Real where
  | finite (q : Rat)
  | infinite (negative : Bool)
  | nan (object : Nat)
  deriving DecidableEq, Repr

structure Day where
  ordinal : Nat
  range : 0 < ordinal ∧ ordinal ≤ maxOrdinal
  deriving DecidableEq, Repr

/-- A time of a day, in microseconds, and its offset from UTC where it has a time zone. -/
structure Timestamp where
  day : Day
  time : Nat
  offset : Option Int := none
  deriving DecidableEq, Repr

inductive Cell where
  | null
  | bool (b : Bool)
  | int (n : Int)
  | float (x : Real)
  | decimal (x : Real)
  | str (s : String)
  | date (day : Day)
  | datetime (t : Timestamp)
  /-- A list or a dictionary. -/
  | nested (value : Json)
  /-- A value of another type, which is its text. -/
  | other (type text : String)
  deriving DecidableEq, Repr

/-- `_format_offset` -/
def offsetText (offset : Int) : List Char :=
  let micros := offset.natAbs
  let seconds := micros / 1000000
  (if offset < 0 then '-' else '+') :: (digits 2 (seconds / 3600) ++ ':' :: (digits 2 (seconds / 60 % 60) ++
    (if micros % 60000000 = 0 then []
    else ':' :: (digits 2 (seconds % 60) ++
      if micros % 1000000 = 0 then [] else '.' :: digits 6 (micros % 1000000)))))

/-- `isoformat()` of a timestamp. -/
def Timestamp.isoformat (t : Timestamp) : List Char :=
  let seconds := t.time / 1000000
  isoDate t.day.ordinal ++ 'T' :: (digits 2 (seconds / 3600) ++ ':' :: (digits 2 (seconds / 60 % 60) ++
    ':' :: (digits 2 (seconds % 60) ++
      (if t.time % 1000000 = 0 then [] else '.' :: digits 6 (t.time % 1000000)) ++
      (t.offset.map offsetText).getD [])))

/-- `(type(value), value)`, up to the equality of Python. -/
inductive Key where
  | bool (b : Bool)
  | int (n : Int)
  | float (x : Real)
  | decimal (x : Real)
  | str (s : String)
  | date (day : Day)
  | wall (day : Day) (time : Nat)
  /-- Timestamps with a time zone are equal when their instants are. -/
  | instant (micros : Int)
  | other (type text : String)
  deriving DecidableEq, Repr

/-- The microsecond at which a timestamp with this offset stands. -/
def Timestamp.instant (t : Timestamp) (offset : Int) : Int :=
  t.day.ordinal * 86400000000 + t.time - offset

/-- `none`: the value has no hash. -/
def Cell.key : Cell → Option Key
  | .null | .nested _ => none
  | .bool b => some (.bool b)
  | .int n => some (.int n)
  | .float x => some (.float x)
  | .decimal x => some (.decimal x)
  | .str s => some (.str s)
  | .date day => some (.date day)
  | .datetime t =>
    match t.offset with
    | none => some (.wall t.day t.time)
    | some offset => some (.instant (t.instant offset))
  | .other type text => some (.other type text)

/-! ## Responses -/

/-- What a merge raises. -/
inductive MergeError where
  | failure (code : String) (blocked : Bool := false)
  | valueError
  | attributeError
  | indexError
  | overflow
  deriving DecidableEq, Repr

/-- `FederationFailure("merge_input_invalid")` -/
def MergeError.invalid : MergeError := .failure "merge_input_invalid"

structure Table where
  columns : List String
  rows : List (Dict Cell)
  deriving DecidableEq, Repr

structure SourceResponse where
  plan : Option AskPlan := none
  result : Option Table := none
  deriving DecidableEq, Repr

structure Merged where
  columns : List String
  rows : List (Dict Cell)
  rowCount : Nat
  operation : MergeOperation
  warnings : List String := []
  deriving DecidableEq, Repr

/-- `row.get(name)` -/
def cellOf (row : Dict Cell) (name : String) : Cell := (row.get? name).getD .null

/-- The result of a response; `_rows` are its rows. -/
def tableOf (response : SourceResponse) : Except MergeError Table :=
  match response.result with
  | none => .error .invalid
  | some table => .ok table

/-- `path.rsplit(".", 1)[-1]` -/
def lastSegment (path : String) : String :=
  String.ofList (path.toList.reverse.takeWhile (· ≠ '.')).reverse

/-- `_column` -/
def column (rows : List (Dict Cell)) (path : String) : Except MergeError String :=
  match rows with
  | [] => .ok path
  | row :: _ =>
    match [path, lastSegment path].find? (· ∈ row.keys) with
    | some name => .ok name
    | none => .error .invalid

namespace ControlledMerger

/-! ## Keyed joins -/

/-- The tables of the two sides, and the columns of their keys. -/
structure JoinInputs where
  left : Table
  leftKey : String
  right : Table
  rightKey : String
  deriving DecidableEq, Repr

/-- The plan selects the key of the side. -/
def projects (plan : GroundedQueryPlan) (side : MappingSide) : Bool :=
  plan.selectedFields.any fun field =>
    field.dataObjectId = side.dataObjectId ∧ field.fieldPath = side.fieldPath

/-- What `_join` checks before it looks at the keys. -/
def joinInputs (inputs : List SourceResponse) (mapping : JoinMapping) : Except MergeError JoinInputs :=
  match inputs with
  | [left, right] =>
    match left.plan, right.plan with
    | some (.grounded leftPlan), some (.grounded rightPlan) =>
      if leftPlan.datasourceId ≠ mapping.left.datasourceId ∨
          rightPlan.datasourceId ≠ mapping.right.datasourceId then
        .error (.failure "join_mapping_source_mismatch")
      else if ¬ projects leftPlan mapping.left ∨ ¬ projects rightPlan mapping.right then
        .error (.failure "join_projection_unconfirmed")
      else do
        let leftTable ← tableOf left
        let rightTable ← tableOf right
        let leftKey ← column leftTable.rows mapping.left.fieldPath
        let rightKey ← column rightTable.rows mapping.right.fieldPath
        return { left := leftTable, leftKey, right := rightTable, rightKey }
    | _, _ => .error (.failure "join_projection_unconfirmed")
  | _ => .error .valueError

def nullRows (key : String) (rows : List (Dict Cell)) : List (Dict Cell) :=
  rows.filter fun row => cellOf row key = .null

def keyedRows (key : String) (rows : List (Dict Cell)) : List (Dict Cell) :=
  rows.filter fun row => cellOf row key ≠ .null

/-- `(type(row[key]), row[key])` -/
def rowKey (key : String) (row : Dict Cell) : Option Key := (cellOf row key).key

/-- `prepare`: the rows that have a key, and the warning about those that have none. -/
def prepare (policy : NullPolicy) (side key : String) (rows : List (Dict Cell)) :
    Except MergeError (List (Dict Cell) × List String) :=
  if nullRows key rows ≠ [] ∧ policy = .reject then .error (.failure "join_null_key")
  else .ok (keyedRows key rows,
    if nullRows key rows = [] then []
    else [side ++ "_null_keys_dropped:" ++ toString (nullRows key rows).length])

/-- Every key has a hash. -/
def requireHashes (key : String) (rows : List (Dict Cell)) : Except MergeError Unit :=
  if rows.any fun row => rowKey key row = none then .error .invalid else .ok ()

/-- A side declared unique repeats no key. -/
def requireUnique (unique : Bool) (key : String) (rows : List (Dict Cell)) : Except MergeError Unit :=
  if unique ∧ (Infra.countsOf (rows.map (rowKey key))).any fun entry => 1 < entry.2 then
    .error (.failure "join_cardinality_violation")
  else .ok ()

def leftUnique (cardinality : Cardinality) : Bool := cardinality ∈ [.oneToOne, .oneToMany]

def rightUnique (cardinality : Cardinality) : Bool := cardinality ∈ [.oneToOne, .manyToOne]

def leftPart (inputs : JoinInputs) (row : Dict Cell) : Dict Cell :=
  Dict.update [] (inputs.left.columns.map fun name => ("left_" ++ name, cellOf row name))

/-- The columns of the right side, which are null where there is no row. -/
def rightPart (inputs : JoinInputs) (row : Option (Dict Cell)) : List (String × Cell) :=
  inputs.right.columns.map fun name => ("right_" ++ name, (row.map (cellOf · name)).getD .null)

def joined (inputs : JoinInputs) (row : Dict Cell) (other : Option (Dict Cell)) : Dict Cell :=
  (leftPart inputs row).update (rightPart inputs other)

/-- What a row of the left side contributes. -/
def joinRow (inputs : JoinInputs) (mode : Option JoinMode) (row : Dict Cell) (found : List (Dict Cell)) :
    List (Dict Cell) :=
  if mode = some .anti ∧ found = [] then [leftPart inputs row]
  else if mode = some .left ∧ found = [] then [joined inputs row none]
  else if mode = some .inner ∨ mode = some .left then found.map fun other => joined inputs row (some other)
  else []

/-- `ControlledMerger._join` -/
def join (inputs : List SourceResponse) (plan : MergePlan) (mapping : JoinMapping) :
    Except MergeError Merged := do
  let ins ← joinInputs inputs mapping
  let (leftRows, leftWarnings) ← prepare mapping.nullPolicy "left" ins.leftKey ins.left.rows
  let (rightRows, rightWarnings) ← prepare mapping.nullPolicy "right" ins.rightKey ins.right.rows
  requireHashes ins.leftKey leftRows
  requireHashes ins.rightKey rightRows
  requireUnique (leftUnique mapping.cardinality) ins.leftKey leftRows
  requireUnique (rightUnique mapping.cardinality) ins.rightKey rightRows
  let index := Infra.indexBy (rowKey ins.rightKey) rightRows
  let output := leftRows.flatMap fun row =>
    joinRow ins plan.joinMode row (Infra.rowsAt index (rowKey ins.leftKey row))
  return {
    columns := ins.left.columns.map ("left_" ++ ·) ++
      if plan.joinMode = some .anti then [] else ins.right.columns.map ("right_" ++ ·)
    rows := output, rowCount := output.length, operation := .keyedJoin
    warnings := leftWarnings ++ rightWarnings }

end ControlledMerger

end Federation
