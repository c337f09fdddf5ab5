import Mathlib.Data.List.Sort
import Qaneris.Contracts.Ask

/-!
# The Redis adapter

`RedisAdapter.execute_native`: a typed command is checked and run, and what it returns is bounded. The
client decodes its replies, so keys and values are texts.
-/

namespace Adapters

open Contracts (Command Row Value)
open Infra (Json)

/-- `MAX_TEXT_LENGTH` -/
def maxTextLength : Nat := 500

/-- `normalize_value` of a text. -/
def normalizeText (text : String) : Json :=
  if maxTextLength < text.length then .str (String.ofList (text.toList.take maxTextLength) ++ "…")
  else .str text

structure NormalizedResult where
  dataset : String
  columns : List String
  rows : List Row
  rowCount : Nat
  truncated : Bool := false
  deriving DecidableEq, Repr

namespace RedisAdapter

/-! ## The server -/

/-- What is stored under a key. The members of a sorted set are in the order of their scores. -/
inductive Stored where
  | string (value : String)
  | list (items : List String)
  | set (members : List String)
  | zset (members : List (String × Rat))
  | hash (fields : List (String × String))
  deriving DecidableEq, Repr

def Stored.kind : Stored → String
  | .string _ => "string"
  | .list _ => "list"
  | .set _ => "set"
  | .zset _ => "zset"
  | .hash _ => "hash"

/-- A reply to `SCAN`. -/
structure Page where
  cursor : Nat
  keys : List String
  deriving DecidableEq, Repr

inductive AdapterError where
  | valueError (message : String)
  /-- What the client or the server refuses. -/
  | refused
  deriving DecidableEq, Repr

/-- A keyspace that does not change, and the replies to the successive calls of `scan`. -/
structure Client where
  stored : String → Option Stored
  pages : List Page
  /-- The reply to a command that returns one value. -/
  reply : (command : String) → (args : List Value) → Except AdapterError Json

namespace Client

variable (client : Client)

/-- `client.type(key)` -/
def type (key : String) : String := ((client.stored key).map Stored.kind).getD "none"

def read (key : Value) (f : Option Stored → Except AdapterError (List α)) : Except AdapterError (List α) :=
  match key with
  | .str key => f (client.stored key)
  | _ => .error .refused

/-- `client.lrange(key, 0, stop)`: the last index is included. -/
def lrange (key : Value) (stop : Nat) : Except AdapterError (List String) :=
  client.read key fun
    | none => .ok []
    | some (.list items) => .ok (items.take (stop + 1))
    | some _ => .error .refused

/-- `client.zrange(key, 0, stop, withscores=True)` -/
def zrange (key : Value) (stop : Nat) : Except AdapterError (List (String × Rat)) :=
  client.read key fun
    | none => .ok []
    | some (.zset members) => .ok (members.take (stop + 1))
    | some _ => .error .refused

def smembers (key : Value) : Except AdapterError (List String) :=
  client.read key fun
    | none => .ok []
    | some (.set members) => .ok members
    | some _ => .error .refused

def hgetall (key : Value) : Except AdapterError (List (String × String)) :=
  client.read key fun
    | none => .ok []
    | some (.hash fields) => .ok fields
    | some _ => .error .refused

/-- `client.mget(key)`: nothing for what is not a string. -/
def mget (key : Value) : Except AdapterError (Option String) :=
  match key with
  | .str key => .ok (match client.stored key with
    | some (.string value) => some value
    | _ => none)
  | _ => .error .refused

end Client

/-! ## The keys of a kind -/

/-- The variables of the loop over the pages. -/
structure Scanned where
  rows : List String := []
  inspections : Nat := 0
  pages : Nat := 0
  cursor : Nat := 0
  overflow : Bool := false
  deriving DecidableEq, Repr

section Scan

variable (type : String → String) (kind : String) (bound maximum : Nat)

/-- The loop over the keys of a page. -/
def inspectKeys : List String → Scanned → Scanned
  | [], s => s
  | key :: keys, s =>
    let s := { s with inspections := s.inspections + 1 }
    if type key = kind then
      let s := { s with rows := s.rows ++ [key] }
      if bound ≤ s.rows.length then { s with overflow := keys ≠ [] }
      else if maximum ≤ s.inspections then s
      else inspectKeys keys s
    else if maximum ≤ s.inspections then s
    else inspectKeys keys s

/-- The loop over the pages; `none` where it asks for a page that is not there. -/
def scanPages : List Page → Scanned → Option Scanned
  | pages, s =>
    if s.inspections < maximum ∧ s.pages < maximum then
      match pages with
      | [] => none
      | page :: pages =>
        let s := inspectKeys type kind bound maximum page.keys
          { s with pages := s.pages + 1, cursor := page.cursor }
        if bound ≤ s.rows.length ∨ s.cursor = 0 then some s else scanPages pages s
    else some s

end Scan

def keyRow (key : String) : Row := [("key", normalizeText key)]

/-- What a `SCAN` returns; `none` where it does not end. -/
def scanKeys (client : Client) (kind : String) (limit maxRows : Nat) : Option NormalizedResult :=
  let bound := min limit maxRows
  let maximum := bound * 20
  (scanPages client.type kind bound maximum client.pages {}).map fun s =>
    { dataset := "redis", columns := ["key"], rows := s.rows.map keyRow, rowCount := s.rows.length
      truncated := s.overflow ∨ s.cursor ≠ 0 ∨ maximum ≤ s.inspections ∨ maximum ≤ s.pages }

/-! ## Commands -/

/-- `READ_COMMANDS` -/
def readCommands : List String :=
  ["EXISTS", "GET", "HGET", "HGETALL", "LRANGE", "MGET", "SCAN", "SCARD", "SMEMBERS", "TTL", "TYPE",
   "ZCARD", "ZRANGE"]

/-- `set(command) == names` -/
def hasShape (command : List (String × Value)) (names : List String) : Bool :=
  (command.map Prod.fst).all (· ∈ names) && names.all (· ∈ command.map Prod.fst)

/-- `isinstance(value, int)` -/
def intOf : Value → Option Int
  | .int n => some n
  | .bool b => some b.toNat
  | _ => none

/-- `value == 0` -/
def isZero : Value → Bool
  | .real q => q = 0
  | value => intOf value = some 0

def valueRow (value : Json) : Row := [("value", value)]

def scoreRow (member : String × Rat) : Row := valueRow (.arr [normalizeText member.1, .real member.2])

def memberRow (field : String × String) : Row :=
  [("member", .str field.1), ("value", normalizeText field.2)]

/-- The rows of at most `max_rows`, and whether there is one more. -/
def bounded (columns : List String) (rows : List Row) (maxRows : Nat) : NormalizedResult :=
  { dataset := "redis", columns, rows := rows.take maxRows, rowCount := (rows.take maxRows).length
    truncated := maxRows < rows.length }

/-- The last index of a range, when its arguments are those of a bounded one. -/
def rangeStop (args : List Value) : Except AdapterError (Value × Nat) :=
  match args with
  | [key, start, stop] =>
    match intOf stop with
    | some stop =>
      if isZero start ∧ 0 ≤ stop ∧ stop < 1000 then .ok (key, stop.toNat)
      else .error (.valueError "Redis range is unbounded")
    | none => .error (.valueError "Redis range is unbounded")
  | _ => .error (.valueError "Redis range is unbounded")

/-- The only key of a command. -/
def exactKey (args : List Value) : Except AdapterError Value :=
  match args with
  | [key] => .ok key
  | _ => .error (.valueError "Redis exact-key command requires one key")

def scanCommand (client : Client) (command : List (String × Value)) (args : List Value) (maxRows : Nat) :
    Except AdapterError (Option NormalizedResult) :=
  if ¬hasShape command ["command", "args", "kind", "limit"] ∨ args ≠ [] then
    .error (.valueError "Redis SCAN shape is invalid")
  else
    match command.lookup "kind", (command.lookup "limit").bind intOf with
    | some (.str kind), some limit =>
      if kind ∈ ["string", "hash", "list", "set", "zset"] ∧ 1 ≤ limit ∧ limit ≤ 1000 then
        .ok (scanKeys client kind limit.toNat maxRows)
      else .error (.valueError "Redis SCAN budget is invalid")
    | _, _ => .error (.valueError "Redis SCAN budget is invalid")

/-- What a command other than `SCAN` returns. -/
def readCommand (client : Client) (op : String) (args : List Value) (maxRows : Nat) :
    Except AdapterError NormalizedResult :=
  if op = "ZRANGE" then do
    let (key, stop) ← rangeStop args
    let members ← client.zrange key (min stop maxRows)
    return bounded ["value"] ((members.take (maxRows + 1)).map scoreRow) maxRows
  else if op = "LRANGE" then do
    let (key, stop) ← rangeStop args
    let items ← client.lrange key (min stop maxRows)
    return bounded ["value"] ((items.take (maxRows + 1)).map fun item => valueRow (normalizeText item)) maxRows
  else if op = "MGET" then
    if args = [] ∨ 1000 < args.length then .error (.valueError "Redis MGET is unbounded")
    else do
      let rows ← args.mapM fun key => do
        let value ← client.mget key
        return [("key", match key with | .str key => Json.str key | _ => .null),
          ("value", (value.map normalizeText).getD .null)]
      return bounded ["key", "value"] rows maxRows
  else do
    let key ← exactKey args
    if op = "HGETALL" then
      let fields ← client.hgetall key
      return bounded ["member", "value"]
        (((fields.insertionSort fun a b => a.1 ≤ b.1).take (maxRows + 1)).map memberRow) maxRows
    else if op = "SMEMBERS" then
      let members ← client.smembers key
      return bounded ["value"]
        (((members.insertionSort (· ≤ ·)).take (maxRows + 1)).map fun item => valueRow (normalizeText item))
        maxRows
    else
      let value ← client.reply op [key]
      return bounded ["value"] [valueRow value] maxRows

/-- `RedisAdapter.execute_native`; `none` where a scan does not end. -/
def executeNative (client : Client) (command : Command) (parameters : List Value) (maxRows : Int) :
    Except AdapterError (Option NormalizedResult) :=
  match command with
  | .text _ => .error (.valueError "Redis formal execution requires a typed bounded command")
  | .document command =>
    if parameters ≠ [] ∨ maxRows < 1 then
      .error (.valueError "Redis formal execution requires a typed bounded command")
    else
      match command.lookup "command", command.lookup "args" with
      | some (.str op), some (.list args) =>
        if op ∉ readCommands then .error (.valueError "Redis command is not allowed")
        else if op = "SCAN" then scanCommand client command args maxRows.toNat
        else if ¬hasShape command ["command", "args"] then
          .error (.valueError "Redis command shape is invalid")
        else some <$> readCommand client op args maxRows.toNat
      | _, _ => .error (.valueError "Redis command is not allowed")

end RedisAdapter

end Adapters
