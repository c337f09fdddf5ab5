import Qaneris.Infra.Rounding
import Qaneris.Infra.Text
import Qaneris.Infra.Times

/-!
# Cell types

What one stored cell of a worksheet is, the column type that its kind asks for, and the value that is
written to SQLite. A number is its value, so that zero has no sign; a timestamp has no time zone, as no cell
of a worksheet has one.
-/

namespace Ingestion

open Infra (CalendarDay TimeOfDay midnight isoTime isoDateTime ignoreCaseEq NumberFormat)

/-! ## Values -/

/-- The numbers of doubles, and greater ones of the same precision. -/
def binary64 : NumberFormat where
  base := 2
  one_lt_base := by decide
  precision := 53
  precision_pos := by decide
  minExponent := -1074

/-- A finite double. -/
structure Double where
  value : Rat
  represented : binary64.Represents value
  bounded : |value| < 2 ^ 1024
  deriving DecidableEq, Repr

/-- The value of a cell that is not empty. -/
inductive CellValue where
  | bool (b : Bool)
  | int (n : Int)
  | float (x : Double)
  | nonFinite (isNan : Bool)
  | date (day : CalendarDay)
  | datetime (day : CalendarDay) (time : TimeOfDay)
  | time (time : TimeOfDay)
  | str (s : String)
  /-- A value of another type, and whether it is true. -/
  | other (type : String) (truth : Bool)
  deriving DecidableEq, Repr

inductive CellKind where
  | null
  | boolean
  | integer
  | real
  | date
  | datetime
  | time
  | text
  deriving DecidableEq, Repr

inductive ColumnType where
  | boolean
  | integer
  | real
  | date
  | datetime
  | text
  deriving DecidableEq, Repr

def ColumnType.value : ColumnType → String
  | .boolean => "BOOLEAN"
  | .integer => "INTEGER"
  | .real => "REAL"
  | .date => "DATE"
  | .datetime => "DATETIME"
  | .text => "TEXT"

/-- What is written to SQLite. -/
inductive SqlValue where
  | null
  | integer (n : Int)
  | real (x : Double)
  | nonFinite (isNan : Bool)
  | text (s : String)
  deriving DecidableEq, Repr

/-- What the conversion of a cell raises. -/
inductive CellError where
  /-- `UnsupportedCellValue` -/
  | unsupported (message : String)
  | raised (typeName : String)
  deriving DecidableEq, Repr

/-- What the conversions compute with. -/
structure CellTexts where
  /-- `str` of a float. -/
  reprFloat : Double → String
  /-- `sys.get_int_max_str_digits()` -/
  maxStrDigits : Nat
  /-- `int` and `float` of a text. -/
  intOf : String → Option Int
  floatOf : String → Option SqlValue

/-! ## Number formats -/

/-- What `[hms]` matches under `IGNORECASE`. -/
def isElapsedUnit (c : Char) : Bool := ['h', 'm', 's'].any fun unit => ignoreCaseEq unit c

/-- The text begins with `[hms]+\]`. -/
def elapsedEnds : Bool → List Char → Bool
  | _, [] => false
  | some?, c :: text => if isElapsedUnit c then elapsedEnds true text else some? && c == ']'

/-- `_ELAPSED_TIME_SECTION.search` -/
def hasElapsedSection : List Char → Bool
  | [] => false
  | c :: text => (c == '[' && elapsedEnds false text) || hasElapsedSection text

/-- Drops each section from one character to the next of another; what is not closed stays. -/
def dropSections (first last : Char) : (inside : Bool) → List Char → List Char
  | _, [] => []
  | true, c :: text => dropSections first last (c ≠ last) text
  | false, c :: text =>
    if c = first ∧ last ∈ text then dropSections first last true text
    else c :: dropSections first last false text

/-- `_ESCAPED_LITERAL.sub`: a backslash goes with the character after it, which is no line feed. -/
def dropEscaped : List Char → List Char
  | [] => []
  | [c] => [c]
  | c :: d :: text => if c = '\\' ∧ d ≠ '\n' then dropEscaped text else c :: dropEscaped (d :: text)

def formatHasTime : Option String → Bool
  | none => false
  | some format =>
    let text := format.toList
    if hasElapsedSection text then true
    else
      let stripped := dropSections '[' ']' false (dropEscaped (dropSections '"' '"' false text))
      stripped.any (fun c => ignoreCaseEq 'h' c || ignoreCaseEq 's' c) ||
        (stripped.map Char.toLower).tails.any fun tail => "am/pm".toList.isPrefixOf tail

/-! ## Kinds and column types -/

/-- `classify_cell`, or the message of its `UnsupportedCellValue`; an empty cell has no value. -/
def classifyCell (value : Option CellValue) (numberFormat : Option String) : Except String CellKind :=
  match value with
  | none => .ok .null
  | some (.bool _) => .ok .boolean
  | some (.int _) => .ok .integer
  | some (.nonFinite _) => .error "NaN / Infinity is not a valid REAL cell value"
  | some (.float _) => .ok .real
  | some (.datetime _ time) =>
    if time = midnight ∧ formatHasTime numberFormat = false then .ok .date else .ok .datetime
  | some (.date _) => .ok .date
  | some (.time _) => .ok .time
  | some (.str _) => .ok .text
  | some (.other type _) => .error ("unsupported cell value type: " ++ type)

/-- `_KIND_TO_TYPE` -/
def kindType : CellKind → Option ColumnType
  | .null => none
  | .boolean => some .boolean
  | .integer => some .integer
  | .real => some .real
  | .date => some .date
  | .datetime => some .datetime
  | .time => some .text
  | .text => some .text

def widen : Option ColumnType → Option ColumnType → Option ColumnType
  | none, right => right
  | left, none => left
  | some left, some right =>
    if left = right then some left
    else if left = .text ∨ right = .text then some .text
    else if (left, right) ∈ [(.integer, .real), (.real, .integer)] then some .real
    else if (left, right) ∈ [(.date, .datetime), (.datetime, .date)] then some .datetime
    else some .text

def inferColumnType (kinds : List CellKind) : ColumnType :=
  (kinds.foldl (fun result kind => widen result (kindType kind)) none).getD .text

/-! ## Conversions -/

/-- `float` of an integer. -/
def floatOfInt (n : Int) : Except CellError Double :=
  if h : |binary64.round n| < 2 ^ 1024 then .ok ⟨binary64.round n, NumberFormat.represents_round binary64 n, h⟩
  else .error (.raised "OverflowError")

/-- `bool(value)` -/
def CellValue.truth : CellValue → Bool
  | .bool b => b
  | .int n => n ≠ 0
  | .float x => x.value ≠ 0
  | .str s => s ≠ ""
  | .other _ truth => truth
  | _ => true

/-- `int(value)` -/
def CellValue.toInt (t : CellTexts) : CellValue → Except CellError Int
  | .bool b => .ok b.toInt
  | .int n => .ok n
  | .float x => .ok (x.value.num.tdiv x.value.den)
  | .nonFinite isNan => .error (.raised (if isNan then "ValueError" else "OverflowError"))
  | .str s =>
    match t.intOf s with
    | some n => .ok n
    | none => .error (.raised "ValueError")
  | _ => .error (.raised "TypeError")

/-- `float(value)` -/
def CellValue.toFloat (t : CellTexts) : CellValue → Except CellError SqlValue
  | .bool b => (floatOfInt b.toInt).map .real
  | .int n => (floatOfInt n).map .real
  | .float x => .ok (.real x)
  | .nonFinite isNan => .ok (.nonFinite isNan)
  | .str s =>
    match t.floatOf s with
    | some x => .ok x
    | none => .error (.raised "ValueError")
  | _ => .error (.raised "TypeError")

/-- `as_datetime` -/
def asDatetime : CellValue → Except CellError (CalendarDay × TimeOfDay)
  | .datetime day time => .ok (day, time)
  | .date day => .ok (day, midnight)
  | _ => .error (.raised "TypeError")

/-- `str` of an integer. -/
def strOfInt (t : CellTexts) (n : Int) : Except CellError String :=
  if t.maxStrDigits < (toString n.natAbs).length then .error (.raised "ValueError") else .ok (toString n)

/-- `canonical_text` of a value of this kind. -/
def canonicalText (t : CellTexts) (value : CellValue) : CellKind → Except CellError String
  | .null => .ok ""
  | .boolean => .ok (if value.truth then "true" else "false")
  | .integer => do strOfInt t (← value.toInt t)
  | .real => do
    match ← value.toFloat t with
    | .real x => return t.reprFloat x
    | _ => .error (.raised "TypeError")
  | .date => do return String.ofList (← asDatetime value).1.isoformat
  | .datetime => do
    let (day, time) ← asDatetime value
    return String.ofList (isoDateTime day time)
  | .time =>
    match value with
    | .time time => .ok (String.ofList (isoTime time))
    | .date day => .ok (String.ofList day.isoformat)
    | .datetime day time => .ok (String.ofList (isoDateTime day time))
    | _ => .error (.raised "AttributeError")
  | .text =>
    match value with
    | .str s => .ok s
    | _ => .error (.raised "TypeError")

/-- `coerce_cell` of a value. -/
def coerceValue (t : CellTexts) (value : CellValue) (numberFormat : Option String) :
    ColumnType → Except CellError SqlValue
  | .boolean => .ok (.integer (if value.truth then 1 else 0))
  | .integer => do return .integer (← value.toInt t)
  | .real => value.toFloat t
  | .date => do return .text (String.ofList (← asDatetime value).1.isoformat)
  | .datetime => do
    let (day, time) ← asDatetime value
    return .text (String.ofList (isoDateTime day time))
  | .text => do
    let kind ← (classifyCell (some value) numberFormat).mapError .unsupported
    return .text (← canonicalText t value kind)

/-- `coerce_cell`; an empty cell has no value. -/
def coerceCell (t : CellTexts) (value : Option CellValue) (numberFormat : Option String)
    (columnType : ColumnType) : Except CellError SqlValue :=
  match value with
  | none => .ok .null
  | some value => coerceValue t value numberFormat columnType

end Ingestion
