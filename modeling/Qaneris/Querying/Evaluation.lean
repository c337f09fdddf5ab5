import Qaneris.Infra.Calendar
import Qaneris.Infra.Patterns
import Qaneris.Infra.Truth
import Qaneris.Querying.Mongo
import Qaneris.Querying.Template

/-!
# What the databases make of conditions

A record gives each field a datum, or nothing: a column that is `NULL`, or a field that is missing.
The conditions of a command are evaluated on it as the relational drivers and MongoDB do.
-/

namespace Querying

open Contracts
open Infra (Truth compareText)

/-! ## Texts of values -/

/-- The text of a time of the day, which is in microseconds. -/
def isoTime (time : Nat) : List Char :=
  let seconds := time / 1000000
  Infra.digits 2 (seconds / 3600) ++ ':' :: (Infra.digits 2 (seconds / 60 % 60) ++
    ':' :: (Infra.digits 2 (seconds % 60) ++
      (if time % 1000000 = 0 then [] else '.' :: Infra.digits 6 (time % 1000000))))

/-- `isoformat()` -/
def isoMoment (m : Moment) : List Char :=
  Infra.isoDate m.day.toNat ++
    match m.time with
    | none => []
    | some time => 'T' :: isoTime time.toNat

/-- The texts with those that Python makes of texts and dates. -/
def Texts.standard (t : Texts) : Texts where
  str
    | .str s => s
    | v => t.str v
  isoformat m := String.ofList (isoMoment m)
  escape s := String.ofList (Infra.reEscape s.toList)
  dumps := t.dumps
  repr := t.repr
  reprLanguage := t.reprLanguage

/-! ## Records -/

inductive Datum where
  | bool (b : Bool)
  | number (q : Rat)
  | text (s : String)
  | moment (m : Moment)
  deriving DecidableEq, Repr

/-- `none`: `NULL`, or missing. -/
abbrev Record := String → Option Datum

/-- The microsecond at which a timestamp stands; a date stands at midnight. -/
def instant (m : Moment) : Int := m.day * 86400000000 + m.time.getD 0

/-- The order of two rational numbers. -/
def compareRat (a b : Rat) : Infra.Order := compare (a.num * b.den) (b.num * a.den)

/-- Values of one type; `none` when they are of different ones. -/
def compareAlike : Datum → Value → Option Infra.Order
  | .bool a, .bool b => some (compare a.toNat b.toNat)
  | .number a, .int b => some (compareRat a b)
  | .number a, .real b => some (compareRat a b)
  | .text a, .str b => some (compareText a.toList b.toList)
  | _, _ => none

/-- How a database compares what it stores with the values of a command, and how it searches it. -/
structure Collation where
  compare : Datum → Value → Option Infra.Order
  search : Datum → (pattern : Value) → Option Bool

/-- How a field that may be missing is compared. -/
def Collation.order (c : Collation) (v : Option Datum) (w : Value) : Option Infra.Order :=
  v.bind fun v => c.compare v w

def Comparison.holds : Comparison → Infra.Order → Bool
  | .eq, o => o = .eq
  | .ne, o => o ≠ .eq
  | .gt, o => o = .gt
  | .ge, o => o ≠ .lt
  | .lt, o => o = .lt
  | .le, o => o ≠ .gt

/-! ## SQL -/

/-- The time of the day that a text says. -/
def readTime (text : List Char) : Option Int := do
  let colon (text : List Char) := if text.head? = some ':' then some text.tail else none
  let (hours, text) ← Infra.readDigits 2 text
  let (minutes, text) ← Infra.readDigits 2 (← colon text)
  let (seconds, text) ← Infra.readDigits 2 (← colon text)
  let time : Nat := ((hours * 60 + minutes) * 60 + seconds) * 1000000
  if text = [] then return time
  else if text.head? = some '.' then
    let (fraction, text) ← Infra.readDigits 6 text.tail
    if text = [] then return (time + fraction : Nat) else none
  else none

/-- The date or the timestamp that a text says. -/
def readMoment (text : List Char) : Option Moment := do
  let (day, rest) ← Infra.readDate text
  if rest = [] then return { day }
  else if rest.head? = some 'T' ∨ rest.head? = some ' ' then
    let time ← readTime rest.tail
    return { day, time := some time }
  else none

namespace Driver

/-- The character that is an escape character of a pattern by default. -/
def escape : Driver → Option Char
  | .sqlite => none
  | .postgresql | .mysql => some '\\'

/-- SQLite stores a date or a timestamp as its text; the others read the text that it is compared
with. -/
def compareMoment (d : Driver) (m : Moment) (text : List Char) : Option Infra.Order :=
  match d with
  | .sqlite => some (compareText (isoMoment m) text)
  | .postgresql | .mysql => (readMoment text).map fun m' => compare (instant m) (instant m')

def collation (d : Driver) : Collation where
  compare
    | .moment m, .str s => d.compareMoment m s.toList
    | v, w => compareAlike v w
  search
    | .text s, .str pattern =>
      some (Infra.matchTokens (Infra.patternTokens d.escape pattern.toList) s.toList)
    | _, _ => none

end Driver

section Sql

variable (c : Collation)

/-- A comparison with `NULL` is unknown. -/
def compareTruth (v : Option Datum) (op : Comparison) (w : Value) : Truth :=
  (c.order v w).map op.holds

def Test.truth (v : Option Datum) : Test Value → Truth
  | .isNull => some (v = none)
  | .isNotNull => some (v ≠ none)
  | .compare op w => compareTruth c v op w
  | .between low high => (compareTruth c v .ge low).and (compareTruth c v .le high)
  | .isIn ws => Truth.any (ws.map (compareTruth c v .eq))
  | .like pattern => v.bind fun v => c.search v pattern

end Sql

/-- The predicate that a condition says with its parameters. -/
def readCondition (d : Driver) (condition : String × List Value) :
    Option (Predicate ColumnName Value) := do
  let tokens ← Infra.lex Infra.isWord d.quote condition.1.toList
  let cells ← fill (holes d tokens) condition.2
  let (p, rest) ← parsePredicate cells
  if rest = [] then return p else none

/-- What a `WHERE` of these conditions says of a record. -/
def whereTruth (d : Driver) (record : Record) (conditions : List (String × List Value)) :
    Option Truth :=
  (conditions.mapM (readCondition d)).map fun predicates =>
    Truth.all (predicates.map fun p => p.test.truth d.collation (record p.column.path))

/-! ## MongoDB -/

namespace Mongo

/-- Dates and timestamps are stored in milliseconds. -/
def millis (m : Moment) : Int := instant m / 1000

def collation : Collation where
  compare
    | .moment m, .moment m' => some (compare (millis m) (millis m'))
    | v, w => compareAlike v w
  search
    | .text s, .str pattern => Infra.regexFinds pattern.toList s.toList
    | _, _ => some false

/-- A missing field is equal to `null`, and a field of another type to nothing. -/
def equals (v : Option Datum) (w : Value) : Bool :=
  if w = .null then v = none else collation.order v w = some .eq

def ordered (v : Option Datum) (op : Comparison) (w : Value) : Bool :=
  (collation.order v w).any op.holds

/-- `{operator: operand}` -/
def operatorHolds (v : Option Datum) (condition : String × Value) : Option Bool :=
  let (operator, w) := condition
  if operator = "$eq" then some (equals v w)
  else if operator = "$ne" then some (!equals v w)
  else if operator = "$gt" then some (ordered v .gt w)
  else if operator = "$gte" then some (equals v w || ordered v .ge w)
  else if operator = "$lt" then some (ordered v .lt w)
  else if operator = "$lte" then some (equals v w || ordered v .le w)
  else if operator = "$in" then w.items?.map fun ws => ws.any (equals v)
  else if operator = "$regex" then
    match v with
    | none => some false
    | some v => collation.search v w
  else none

/-- `{field: {operator: operand, …}}` -/
def fieldHolds (record : Record) : String × Value → Option Bool
  | (path, .dict conditions) => (conditions.mapM (operatorHolds (record path))).map (·.all id)
  | _ => none

def documentHolds (record : Record) (fields : List (String × Value)) : Option Bool :=
  (fields.mapM (fieldHolds record)).map (·.all id)

def clauseHolds (record : Record) : Value → Option Bool
  | .dict fields => documentHolds record fields
  | _ => none

/-- What a filter says of a record. -/
def filterHolds (record : Record) : List (String × Value) → Option Bool
  | [("$and", .list clauses)] => (clauses.mapM (clauseHolds record)).map (·.all id)
  | fields => documentHolds record fields

end Mongo

end Querying
