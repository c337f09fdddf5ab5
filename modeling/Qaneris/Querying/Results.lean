import Mathlib.Data.List.ProdSigma
import Qaneris.Infra.Groups
import Qaneris.Querying.Evaluation

/-!
# What the databases return

The rows of a statement and of a pipeline, before they are sorted and cut off. A row gives each of its
names a datum, or nothing. What is aggregated is taken for a number, and anything else is passed over.
-/

namespace Querying

open Contracts

/-! ## Aggregates of numbers -/

def Datum.number? : Datum → Option Rat
  | .number q => some q
  | .bool _ | .text _ | .moment _ => none

def numbers (values : List (Option Datum)) : List Rat :=
  values.filterMap fun v => v.bind Datum.number?

def countOf {α : Type} (items : List α) : Datum := .number (Rat.ofInt items.length)

def sumOf (qs : List Rat) : Rat := qs.foldr Rat.add (Rat.ofInt 0)

def averageOf (qs : List Rat) : Option Rat :=
  if qs = [] then none else some ((sumOf qs).div (Rat.ofInt qs.length))

/-- The number that comes first in an order of two. -/
def extremeOf (first : Infra.Order) : List Rat → Option Rat
  | [] => none
  | q :: qs =>
    match extremeOf first qs with
    | none => some q
    | some r => some (if compareRat r q = first then r else q)

/-! ## SQL -/

/-- The rows of the tables. -/
abbrev Content := TableName → List Record

/-- A row of a `FROM` clause: a row of each table, with its place in the table. -/
structure Source where
  base : Record × Nat
  joined : Option (Record × Nat) := none

def Source.read (source : Source) (c : Column) : Option Datum :=
  match c.side with
  | .base => source.base.1 c.path
  | .joined => source.joined.bind fun row => row.1 c.path

def Source.place (source : Source) : Side → Option Nat
  | .base => some source.base.2
  | .joined => source.joined.map Prod.snd

/-- Two columns are equal. -/
def Driver.sameDatum (d : Driver) : Datum → Datum → Bool
  | .moment m, .moment m' =>
    match d with
    | .sqlite => isoMoment m = isoMoment m'
    | .postgresql | .mysql => instant m = instant m'
  | v, w => v = w

/-- The `ON` clause is true. -/
def Driver.matches_ (d : Driver) : Option Datum → Option Datum → Bool
  | some v, some w => d.sameDatum v w
  | _, _ => false

/-- The rows of two tables in pairs. -/
def pairs (left right : List Record) : List Source :=
  (left.zipIdx.product right.zipIdx).map fun pair => { base := pair.1, joined := some pair.2 }

section Select

variable (d : Driver) (content : Content) (s : Statement Column Value)

/-- `FROM` and `JOIN` -/
def sources : List Source :=
  match s.join with
  | none => (content s.table).zipIdx.map fun row => { base := row }
  | some join => (pairs (content s.table) (content join.table)).filter fun source =>
      d.matches_ (source.read join.left) (source.read join.right)

/-- `WHERE` -/
def satisfies (predicates : List (Predicate Column Value)) (source : Source) : Bool :=
  Infra.Truth.all (predicates.map fun p => p.test.truth d.collation (source.read p.column)) = some true

def keptSources : List Source := (sources d content s).filter (satisfies d s.predicates)

def groupKey (groupBy : List Column) (source : Source) : List (Option Datum) := groupBy.map source.read

/-- `GROUP BY`; without one there is one group, which may be empty. -/
def groups : List (List Source) :=
  if s.groupBy = [] then [keptSources d content s]
  else Infra.groupsBy (groupKey s.groupBy) (keptSources d content s)

end Select

/-- The rows that contribute to an aggregate of the column. -/
def contributing (c : Column) (group : List Source) : List Source :=
  group.filter fun source => (source.read c).isSome

def sqlAggregate (group : List Source) : AggregateFunction → Option Column → Option Datum
  | _, none => some (countOf group)
  | function, some c =>
    let values := (contributing c group).map fun source => source.read c
    match function with
    | .count => some (countOf values)
    | .sum => if values = [] then none else some (.number (sumOf (numbers values)))
    | .average => (averageOf (numbers values)).map .number
    | .minimum => (extremeOf .lt (numbers values)).map .number
    | .maximum => (extremeOf .gt (numbers values)).map .number

/-- The name under which a driver reports an item. -/
def Item.name : Item Column → String
  | .column c => c.path
  | .aggregate _ _ alias_ => alias_

def Item.isAggregate : Item Column → Bool
  | .column _ => false
  | .aggregate _ _ _ => true

def Item.value (group : List Source) : Item Column → Option Datum
  | .column c => group.head?.bind fun source => source.read c
  | .aggregate function argument _ => sqlAggregate group function argument

/-- A row by the names of its columns; of two columns with one name the later one stays. -/
def rowOf (items : List (Item Column)) (group : List Source) : Record := fun name =>
  (items.reverse.find? fun item => item.name = name).bind (Item.value group)

def selectRows (d : Driver) (content : Content) (s : Statement Column Value) : List Record :=
  if s.groupBy ≠ [] ∨ s.items.any Item.isAggregate then (groups d content s).map (rowOf s.items)
  else (keptSources d content s).map fun source => rowOf s.items [source]

/-- The rows that a driver returns for a query. -/
def sqlRows (d : Driver) (content : Content) (q : NativeQuery) : Option (List Record) :=
  match q.command with
  | .text command => (decode d command q.parameters).map (selectRows d content)
  | .document _ => none

/-! ## MongoDB -/

namespace Mongo

/-! ### Reading a pipeline -/

inductive Operand where
  | path (path : String)
  | number (q : Rat)
  deriving DecidableEq, Repr

inductive Operator where
  | sum
  | avg
  | min
  | max
  deriving DecidableEq, Repr

/-- `{operator: operand}` -/
structure Accumulator where
  operator : Operator
  operand : Operand
  deriving DecidableEq, Repr

/-- What documents are grouped by. -/
inductive GroupId where
  | null
  | fields (items : List (String × Operand))
  | computed (accumulator : Accumulator)
  deriving DecidableEq, Repr

inductive Projection where
  | drop
  | keep
  /-- `"$_id.name"` -/
  | ofId (name : String)
  deriving DecidableEq, Repr

inductive Stage where
  | matching (filter : List (String × Value))
  | group (id : GroupId) (fields : List (String × Accumulator))
  | project (fields : List (String × Projection))
  /-- `$sort` or `$limit` -/
  | page
  deriving DecidableEq, Repr

def isOperator (name : String) : Bool := name.toList.head? = some '$'

def readOperand : Value → Option Operand
  | .str text => if isOperator text then some (.path (String.ofList text.toList.tail)) else none
  | .int n => some (.number (Rat.ofInt n))
  | _ => none

def readOperator (name : String) : Option Operator :=
  if name = "$sum" then some .sum
  else if name = "$avg" then some .avg
  else if name = "$min" then some .min
  else if name = "$max" then some .max
  else none

def readAccumulator : Value → Option Accumulator
  | .dict [(name, operand)] =>
    (readOperator name).bind fun operator => (readOperand operand).map fun operand => ⟨operator, operand⟩
  | _ => none

/-- Each value is read, and keeps its name. -/
def readFields {α : Type} (read : Value → Option α) (fields : List (String × Value)) :
    Option (List (String × α)) :=
  fields.mapM fun field => (read field.2).map fun a => (field.1, a)

def readId : Value → Option GroupId
  | .null => some .null
  | .dict fields =>
    if fields.any fun field => isOperator field.1 then (readAccumulator (.dict fields)).map .computed
    else (readFields readOperand fields).map .fields
  | _ => none

def readProjection : Value → Option Projection
  | .int n => some (if n = 0 then .drop else .keep)
  | .str text =>
    if "$_id.".toList <+: text.toList then some (.ofId (String.ofList (text.toList.drop 5))) else none
  | _ => none

def readStage : Value → Option Stage
  | .dict [(name, .dict fields)] =>
    if name = "$match" then some (.matching fields)
    else if name = "$group" then
      ((fields.lookup "_id").bind readId).bind fun id =>
        (readFields readAccumulator (fields.filter fun field => field.1 ≠ "_id")).map (.group id)
    else if name = "$project" then (readFields readProjection fields).map .project
    else if name = "$sort" then some .page
    else none
  | .dict [(name, _)] => if name = "$limit" then some .page else none
  | _ => none

/-! ### Running it -/

def Operand.value (record : Record) : Operand → Option Datum
  | .path p => record p
  | .number q => some (.number q)

def Operator.of (values : List (Option Datum)) : Operator → Option Datum
  | .sum => some (.number (sumOf (numbers values)))
  | .avg => (averageOf (numbers values)).map .number
  | .min => (extremeOf .lt (numbers values)).map .number
  | .max => (extremeOf .gt (numbers values)).map .number

/-- Over the documents of a group. -/
def Accumulator.over (accumulator : Accumulator) (group : List Record) : Option Datum :=
  accumulator.operator.of (group.map fun record => accumulator.operand.value record)

/-- The identity of a group. A missing field is left out of a document. -/
inductive Identity where
  | null
  | document (fields : List (String × Option Datum))
  | scalar (v : Option Datum)
  deriving DecidableEq

def GroupId.of (record : Record) : GroupId → Identity
  | .null => .null
  | .fields items => .document (items.map fun item => (item.1, item.2.value record))
  | .computed accumulator => .scalar (accumulator.over [record])

/-- A document that `$group` leaves. -/
structure Grouped where
  id : Option Identity
  field : Record

def groupStage (id : GroupId) (fields : List (String × Accumulator)) (records : List Record) :
    List Grouped :=
  (Infra.groupsBy (fun record => id.of record) records).map fun group =>
    { id := group.head?.map fun record => id.of record
      field := fun name => (fields.lookup name).bind fun accumulator => accumulator.over group }

def Grouped.read (doc : Grouped) (name : String) : Option Datum :=
  if name = "_id" then
    match doc.id with
    | some (.scalar v) => v
    | _ => none
  else doc.field name

def Grouped.ofId (doc : Grouped) (name : String) : Option Datum :=
  match doc.id with
  | some (.document fields) => (fields.lookup name).join
  | _ => none

def projectStage (fields : List (String × Projection)) (doc : Grouped) : Record := fun name =>
  match fields.lookup name with
  | some .keep => doc.read name
  | some (.ofId part) => doc.ofId part
  | some .drop | none => none

/-- What a pipeline of this shape returns. -/
def pipelineRows (records : List Record) : List Stage → Option (List Record)
  | .matching filter :: stages =>
    pipelineRows (records.filter fun record => filterHolds record filter = some true) stages
  | .group id fields :: .project projected :: stages =>
    if stages.all (· = .page) then some ((groupStage id fields records).map (projectStage projected))
    else none
  | _ => none

end Mongo

/-- The rows that MongoDB returns for an aggregation. -/
def mongoRows (records : List Record) (q : NativeQuery) : Option (List Record) :=
  match q.command with
  | .document fields => do
    let pipeline ← (fields.lookup "pipeline").bind Value.items?
    let stages ← pipeline.mapM Mongo.readStage
    Mongo.pipelineRows records stages
  | .text _ => none

end Querying
