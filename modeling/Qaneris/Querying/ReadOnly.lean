import Qaneris.Infra.Scanner
import Qaneris.Infra.Text
import Qaneris.Querying.Sql

/-!
# The read-only gate

`validate_read_only_query`: quoted regions and comments are blanked, and what is left must be one
statement that begins with `SELECT` or `WITH` and names no forbidden operation.
-/

namespace Querying

open Infra (isSpace)

/-! ## Blanking -/

/-- Where `_strip_for_safety` is. -/
inductive Region where
  | code
  | block (depth : Nat)
  | line
  | quoted (q : Char)
  | bracket
  /-- The second character of a mark of two. -/
  | second (next : Region)
  deriving DecidableEq, Repr

/-- `if out[position] != "\n": out[position] = " "` -/
def blank (c : Char) : Char := if c = '\n' then c else ' '

/-- The characters that open a quoted region which they also close. -/
def isQuote (c : Char) : Bool := c = '\'' || c = '"' || c = '`'

/-- One character of `_strip_for_safety`. -/
def stripStep : Infra.Scanner Region := fun region _ c after =>
  match region with
  | .code =>
    if c = '/' ∧ after.head? = some '*' then (blank c, .second (.block 1))
    else if c = '-' ∧ after.head? = some '-' then (blank c, .second .line)
    else if isQuote c then (blank c, .quoted c)
    else if c = '[' then (blank c, .bracket)
    else (c, .code)
  | .block depth =>
    if c = '/' ∧ after.head? = some '*' then (blank c, .second (.block (depth + 1)))
    else if c = '*' ∧ after.head? = some '/' then
      (blank c, .second (if depth = 1 then .code else .block (depth - 1)))
    else (blank c, .block depth)
  | .line => (blank c, if c = '\n' then .code else .line)
  | .quoted q =>
    if c = q then
      if after.head? = some q then (blank c, .second (.quoted q)) else (blank c, .code)
    else (blank c, .quoted q)
  | .bracket => (blank c, if c = ']' then .code else .bracket)
  | .second next => (blank c, next)

/-- `_strip_for_safety` -/
def stripForSafety (sql : List Char) : List Char := Infra.scan stripStep .code [] sql

/-! ## Trimming -/

/-- `text.rstrip()` -/
def rstrip (text : List Char) : List Char := (text.reverse.dropWhile isSpace).reverse

/-- `_strip_trailing_semicolon` -/
def stripTrailingSemicolon (text : List Char) : List Char :=
  let head := rstrip text
  if head.getLast? = some ';' then rstrip head.dropLast else head

/-! ## Keywords -/

/-- The operations that the gate lists. -/
def forbiddenOperations : List String :=
  ["insert", "update", "delete", "drop", "alter", "create", "attach", "detach", "pragma", "vacuum",
    "replace", "reindex", "analyze"]

/-- `(word|word|…)\b` at the beginning of the text. -/
def startsWithOneOf (words : List String) (text : List Char) : Bool :=
  words.any fun word =>
    match Infra.dropWord word.toList text with
    | some rest => Infra.wordBoundary word.toList.getLast? rest.head?
    | none => false

/-- `\b(word|word|…)\b` somewhere in the text. -/
def mentionsOneOf (words : List String) (text : List Char) : Bool :=
  Infra.searchFrom (fun before text => words.any fun word => Infra.wordAt word.toList before text)
    none text

/-! ## The gate -/

/-- `validate_read_only_query` -/
def validateReadOnlyQuery (query : String) : Except Failure Unit :=
  let cleaned := Infra.strip query.toList
  let counted := stripForSafety query.toList
  let withoutTrailing := stripTrailingSemicolon cleaned
  let stripped := stripForSafety withoutTrailing
  if cleaned = [] then .error (.safety "Query is empty")
  else if ¬(counted.count ';' = 0 ∨ counted.count ';' = 1 ∧ (rstrip counted).getLast? = some ';') then
    .error (.safety "Only one statement is allowed")
  else if withoutTrailing = [] then .error (.safety "Query is empty")
  else if Infra.strip stripped = [] then
    .error (.safety "Only SELECT or WITH queries are allowed")
  else if startsWithOneOf forbiddenOperations (stripped.dropWhile isSpace) then
    .error (.safety "Query starts with a forbidden operation; only SELECT and WITH are allowed")
  else if ¬startsWithOneOf ["select", "with"] stripped then
    .error (.safety "Only SELECT or WITH queries are allowed")
  else if mentionsOneOf forbiddenOperations stripped then
    .error (.safety "Query contains a forbidden operation")
  else .ok ()

end Querying
