import Qaneris.Infra.Unicode
import Qaneris.Querying.Sql

/-!
# What a command says

A `SELECT` statement of the shape that the compiler writes, and how a command and its parameters are
read back as one: the command is split by the quoting rule of its driver, the placeholders take the
parameters in their order, and the rest is parsed against the template. `meaning` is the statement that
a plan stands for.
-/

namespace Querying

open Contracts
open Infra (Token)

/-! ## Statements -/

structure TableName where
  space : Option String
  name : String
  deriving DecidableEq, Repr

inductive Comparison where
  | eq
  | ne
  | gt
  | ge
  | lt
  | le
  deriving DecidableEq, Repr

def TableName.names (table : TableName) : List String := table.space.toList ++ [table.name]

/-- `ν` are the values. -/
inductive Test (ν : Type) where
  | isNull
  | isNotNull
  | compare (op : Comparison) (value : ν)
  | between (low high : ν)
  | isIn (values : List ν)
  | like (pattern : ν)
  deriving DecidableEq, Repr

/-- `κ` are the columns. -/
structure Predicate (κ ν : Type) where
  column : κ
  test : Test ν
  deriving DecidableEq, Repr

inductive Item (κ : Type) where
  | column (c : κ)
  | aggregate (function : AggregateFunction) (argument : Option κ) (alias_ : String)
  deriving DecidableEq, Repr

inductive Target (κ : Type) where
  | column (c : κ)
  | alias_ (name : String)
  deriving DecidableEq, Repr

structure Ordering (κ : Type) where
  target : Target κ
  descending : Bool
  deriving DecidableEq, Repr

structure Join (κ : Type) where
  table : TableName
  left : κ
  right : κ
  deriving DecidableEq, Repr

structure Statement (κ ν : Type) where
  items : List (Item κ)
  table : TableName
  join : Option (Join κ)
  predicates : List (Predicate κ ν)
  groupBy : List κ
  orderBy : List (Ordering κ)
  limit : ν
  deriving DecidableEq, Repr

def Item.columns {κ : Type} : Item κ → List κ
  | .column c => [c]
  | .aggregate _ argument _ => argument.toList

def Target.columns {κ : Type} : Target κ → List κ
  | .column c => [c]
  | .alias_ _ => []

def Join.columns {κ : Type} (join : Join κ) : List κ := [join.left, join.right]

/-- Every column that a statement names. -/
def Statement.columns {κ ν : Type} (s : Statement κ ν) : List κ :=
  s.items.flatMap Item.columns ++ (s.join.toList.flatMap Join.columns ++
    (s.predicates.map Predicate.column ++ (s.groupBy ++
      s.orderBy.flatMap fun o => o.target.columns)))

/-! ## Columns -/

/-- The two tables of a statement. -/
inductive Side where
  | base
  | joined
  deriving DecidableEq, Repr

/-- A column as it is meant. -/
structure Column where
  side : Side
  path : String
  deriving DecidableEq, Repr

/-- A column as it is written, with the alias of its table. -/
structure ColumnName where
  alias_ : List Char
  path : String
  deriving DecidableEq, Repr

/-- A statement as it is written, with the aliases that it gives to its tables. -/
structure Written (ν : Type) where
  baseAlias : List Char
  joinAlias : Option (List Char)
  statement : Statement ColumnName ν
  deriving DecidableEq, Repr

section Traverse

variable {κ κ' ν ν' : Type} (f : κ → Option κ')

def Item.resolve : Item κ → Option (Item κ')
  | .column c => (f c).map .column
  | .aggregate function none alias_ => some (.aggregate function none alias_)
  | .aggregate function (some c) alias_ =>
    (f c).map fun c => .aggregate function (some c) alias_

def Predicate.resolve (p : Predicate κ ν) : Option (Predicate κ' ν) :=
  (f p.column).map fun column => { column, test := p.test }

def Target.resolve : Target κ → Option (Target κ')
  | .column c => (f c).map .column
  | .alias_ name => some (.alias_ name)

def Ordering.resolve (o : Ordering κ) : Option (Ordering κ') :=
  o.target.resolve f |>.map fun target => { target, descending := o.descending }

def Join.resolve (j : Join κ) : Option (Join κ') := do
  let left ← f j.left
  let right ← f j.right
  return { table := j.table, left, right }

def resolveJoin : Option (Join κ) → Option (Option (Join κ'))
  | none => some none
  | some join => (join.resolve f).map some

def Statement.resolve (s : Statement κ ν) : Option (Statement κ' ν) := do
  let items ← s.items.mapM (Item.resolve f)
  let join ← resolveJoin f s.join
  let predicates ← s.predicates.mapM (Predicate.resolve f)
  let groupBy ← s.groupBy.mapM f
  let orderBy ← s.orderBy.mapM (Ordering.resolve f)
  return { items, table := s.table, join, predicates, groupBy, orderBy, limit := s.limit }

end Traverse

/-- The table that an alias stands for. -/
def Written.column {ν : Type} (w : Written ν) (c : ColumnName) : Option Column :=
  if c.alias_ = w.baseAlias then some ⟨.base, c.path⟩
  else if w.joinAlias = some c.alias_ then some ⟨.joined, c.path⟩
  else none

/-- Two tables of one alias cannot be told apart. -/
def Written.resolve {ν : Type} (w : Written ν) : Option (Statement Column ν) :=
  if w.joinAlias = some w.baseAlias then none else w.statement.resolve w.column

/-! ## Values -/

section Values

variable {κ ν ν' : Type} (f : ν → ν')

def Test.map : Test ν → Test ν'
  | .isNull => .isNull
  | .isNotNull => .isNotNull
  | .compare op value => .compare op (f value)
  | .between low high => .between (f low) (f high)
  | .isIn values => .isIn (values.map f)
  | .like pattern => .like (f pattern)

def Predicate.map (p : Predicate κ ν) : Predicate κ ν' :=
  { column := p.column, test := p.test.map f }

def Statement.map (s : Statement κ ν) : Statement κ ν' :=
  { items := s.items, table := s.table, join := s.join
    predicates := s.predicates.map (Predicate.map f), groupBy := s.groupBy, orderBy := s.orderBy
    limit := f s.limit }

end Values

/-! ## Placeholders -/

/-- A token of a command, or a value that stands for a placeholder. -/
inductive Cell (ν : Type) where
  | token (t : Token)
  | value (v : ν)
  deriving DecidableEq, Repr

def Driver.placeholderTokens : Driver → List Token
  | .sqlite => [.mark '?']
  | .postgresql | .mysql => [.mark '%', .word ['s']]

/-- The placeholders of a command as holes. -/
def holes : Driver → List Token → List (Cell Unit)
  | .sqlite, ts => ts.map fun t => if t = .mark '?' then .value () else .token t
  | d, .mark '%' :: .word ['s'] :: ts => .value () :: holes d ts
  | d, t :: ts => .token t :: holes d ts
  | _, [] => []

/-- The holes take the values in their order; `none` unless there are as many of the one as of the
other. -/
def fill {ν : Type} : List (Cell Unit) → List ν → Option (List (Cell ν))
  | [], [] => some []
  | [], _ :: _ => none
  | .token t :: cells, values => (fill cells values).map fun cells => .token t :: cells
  | .value _ :: _, [] => none
  | .value _ :: cells, v :: values => (fill cells values).map fun cells => .value v :: cells

/-! ## The template -/

abbrev Parser (ν α : Type) := List (Cell ν) → Option (α × List (Cell ν))

/-- A text of the template: its words and marks. -/
def expect {ν : Type} : List Token → List (Cell ν) → Option (List (Cell ν))
  | [], cells => some cells
  | t :: ts, .token t' :: cells => if t = t' then expect ts cells else none
  | _ :: _, _ => none

/-- A word between blanks. -/
def spaced (word : String) : List Token := [.mark ' ', .word word.toList, .mark ' ']

/-- Two words between blanks. -/
def spacedBy (word : String) : List Token :=
  [.mark ' ', .word word.toList, .mark ' ', .word ['B', 'Y'], .mark ' ']

def comma : List Token := [.mark ',', .mark ' ']

section Parse

variable {ν α : Type}

/-- One item or more, with `separator` between them; `fuel` bounds their number. -/
def parseMany (p : Parser ν α) (separator : List Token) : (fuel : Nat) → Parser ν (List α)
  | 0, _ => none
  | fuel + 1, cells => do
    let (item, cells) ← p cells
    match expect separator cells with
    | none => return ([item], cells)
    | some cells =>
      let (items, cells) ← parseMany p separator fuel cells
      return (item :: items, cells)

/-- A clause that may be missing. -/
def parseClause (keyword : List Token) (p : Parser ν α) (separator : List Token) :
    Parser ν (List α) := fun cells =>
  match expect keyword cells with
  | none => some ([], cells)
  | some cells => parseMany p separator cells.length cells

def parseColumn : Parser ν ColumnName
  | .token (.word alias_) :: .token (.mark '.') :: .token (.quoted path) :: cells =>
    some (⟨alias_, String.ofList path⟩, cells)
  | _ => none

def parseTable : Parser ν TableName
  | .token (.quoted space) :: .token (.mark '.') :: .token (.quoted name) :: cells =>
    some (⟨some (String.ofList space), String.ofList name⟩, cells)
  | .token (.quoted name) :: cells => some (⟨none, String.ofList name⟩, cells)
  | _ => none

def parseAlias : Parser ν (List Char)
  | .token (.word alias_) :: cells => some (alias_, cells)
  | _ => none

def parseName : Parser ν String
  | .token (.quoted name) :: cells => some (String.ofList name, cells)
  | _ => none

def parseValue : Parser ν ν
  | .value v :: cells => some (v, cells)
  | _ => none

def aggregateFunctions : List AggregateFunction := [.count, .sum, .average, .minimum, .maximum]

def parseArgument : Parser ν (Option ColumnName)
  | .token (.mark '*') :: cells => some (none, cells)
  | cells => (parseColumn cells).map fun (c, cells) => (some c, cells)

def parseItem : Parser ν (Item ColumnName)
  | .token (.word name) :: .token (.mark '(') :: cells => do
    let function ← aggregateFunctions.find? fun f => (aggregateName f).toList = name
    let (argument, cells) ← parseArgument cells
    let cells ← expect (.mark ')' :: spaced "AS") cells
    let (alias_, cells) ← parseName cells
    return (.aggregate function argument alias_, cells)
  | cells => (parseColumn cells).map fun (c, cells) => (.column c, cells)

def comparisons : List (List Token × Comparison) :=
  [([.mark ' ', .mark '=', .mark ' '], .eq), ([.mark ' ', .mark '!', .mark '=', .mark ' '], .ne),
   ([.mark ' ', .mark '>', .mark ' '], .gt), ([.mark ' ', .mark '>', .mark '=', .mark ' '], .ge),
   ([.mark ' ', .mark '<', .mark ' '], .lt), ([.mark ' ', .mark '<', .mark '=', .mark ' '], .le)]

/-- A comparison with one value. -/
def parseComparison (cells : List (Cell ν)) :
    List (List Token × Comparison) → Option (Test ν × List (Cell ν))
  | [] => none
  | (symbol, op) :: rest =>
    match expect symbol cells with
    | none => parseComparison cells rest
    | some cells => (parseValue cells).map fun (v, cells) => (.compare op v, cells)

def parseBetween : Parser ν (Test ν) := fun cells => do
  let (low, cells) ← parseValue cells
  let cells ← expect (spaced "AND") cells
  let (high, cells) ← parseValue cells
  return (.between low high, cells)

def parseIn : Parser ν (Test ν) := fun cells => do
  let (values, cells) ← parseMany parseValue comma cells.length cells
  let cells ← expect [.mark ')'] cells
  return (.isIn values, cells)

def parseTest : Parser ν (Test ν) := fun cells =>
  match expect (spaced "IS" ++ [.word "NULL".toList]) cells with
  | some cells => some (.isNull, cells)
  | none =>
    match expect (spaced "IS" ++ (.word "NOT".toList :: .mark ' ' :: [.word "NULL".toList])) cells with
    | some cells => some (.isNotNull, cells)
    | none =>
      match expect (spaced "BETWEEN") cells with
      | some cells => parseBetween cells
      | none =>
        match expect (spaced "IN" ++ [.mark '(']) cells with
        | some cells => parseIn cells
        | none =>
          match expect (spaced "LIKE") cells with
          | some cells => (parseValue cells).map fun (v, cells) => (.like v, cells)
          | none => parseComparison cells comparisons

def parsePredicate : Parser ν (Predicate ColumnName ν) := fun cells => do
  let (column, cells) ← parseColumn cells
  let (test, cells) ← parseTest cells
  return ({ column, test }, cells)

def parseTarget : Parser ν (Target ColumnName)
  | .token (.quoted name) :: cells => some (.alias_ (String.ofList name), cells)
  | cells => (parseColumn cells).map fun (c, cells) => (.column c, cells)

def parseOrdering : Parser ν (Ordering ColumnName) := fun cells => do
  let (target, cells) ← parseTarget cells
  match expect [.mark ' ', .word "DESC".toList] cells with
  | some cells => return ({ target, descending := true }, cells)
  | none =>
    let cells ← expect [.mark ' ', .word "ASC".toList] cells
    return ({ target, descending := false }, cells)

/-- The join of a statement with the alias of its table. -/
def parseJoin : Parser ν (Option (List Char × Join ColumnName)) := fun cells =>
  match expect (spaced "JOIN") cells with
  | none => some (none, cells)
  | some cells => do
    let (table, cells) ← parseTable cells
    let cells ← expect (spaced "AS") cells
    let (alias_, cells) ← parseAlias cells
    let cells ← expect (spaced "ON") cells
    let (left, cells) ← parseColumn cells
    let cells ← expect [.mark ' ', .mark '=', .mark ' '] cells
    let (right, cells) ← parseColumn cells
    return (some (alias_, { table, left, right }), cells)

/-- `SELECT … FROM … AS … [JOIN …] [WHERE …] [GROUP BY …] [ORDER BY …] LIMIT …` -/
def parse (cells : List (Cell ν)) : Option (Written ν) := do
  let cells ← expect [.word "SELECT".toList, .mark ' '] cells
  let (items, cells) ← parseMany parseItem comma cells.length cells
  let cells ← expect (spaced "FROM") cells
  let (table, cells) ← parseTable cells
  let cells ← expect (spaced "AS") cells
  let (baseAlias, cells) ← parseAlias cells
  let (join, cells) ← parseJoin cells
  let (predicates, cells) ← parseClause (spaced "WHERE") parsePredicate (spaced "AND") cells
  let (groupBy, cells) ← parseClause (spacedBy "GROUP") parseColumn comma cells
  let (orderBy, cells) ← parseClause (spacedBy "ORDER") parseOrdering comma cells
  let cells ← expect (spaced "LIMIT") cells
  match cells with
  | [.value limit] => return {
      baseAlias, joinAlias := join.map Prod.fst
      statement := {
        items, table, join := join.map Prod.snd, predicates, groupBy, orderBy, limit } }
  | _ => none

end Parse

/-- The statement of a command with its parameters. -/
def decode {ν : Type} (d : Driver) (command : String) (parameters : List ν) :
    Option (Statement Column ν) := do
  let tokens ← Infra.lex Infra.isWord d.quote command.toList
  let cells ← fill (holes d tokens) parameters
  let written ← parse cells
  written.resolve

/-! ## What a plan stands for -/

section Plan

variable (t : Texts) (plan : GroundedQueryPlan)

def baseOf : String := plan.dataObjectIds.headD ""

/-- The native name of a data object. -/
def tableOf (objectId : String) : TableName :=
  match plan.locator objectId with
  | some locator => ⟨given locator.namespace_, locator.name.getD ""⟩
  | none => ⟨none, ""⟩

/-- What a predicate of the plan asks of its field. -/
def testOf (operator : FilterOperator) (v : Value) : Test Value :=
  let value := SQLCompiler.value t
  match operator with
  | .equals => if v = .null then .isNull else .compare .eq (value v)
  | .notEquals => if v = .null then .isNotNull else .compare .ne (value v)
  | .greaterThan => .compare .gt (value v)
  | .greaterOrEqual => .compare .ge (value v)
  | .lessThan => .compare .lt (value v)
  | .lessOrEqual => .compare .le (value v)
  | .in_ => .isIn ((v.items?.getD []).map value)
  | .between =>
    match v.items? with
    | some [low, high] => .between (value low) (value high)
    | _ => .isNull
  | .contains => .like (.str ("%" ++ t.str v ++ "%"))

/-- The object that is joined to the base, with the field on the side of the base and its own. -/
def joinedBy (join : PlanJoin) : String × String × String :=
  if join.fromDataObjectId = baseOf plan then
    (join.toDataObjectId, join.fromFieldPath, join.toFieldPath)
  else (join.fromDataObjectId, join.toFieldPath, join.fromFieldPath)

section Columns

-- `column objectId path` is the column of a field
variable {κ : Type} (column : String → String → κ)

def refOf (ref : GroundedFieldRef) : κ := column ref.dataObjectId ref.fieldPath

def itemOf (item : PlanAggregate) : Item κ :=
  .aggregate item.function (item.field.map (refOf column)) item.alias_

def joinOf (join : PlanJoin) : Join κ :=
  let (joined, leftField, rightField) := joinedBy plan join
  { table := tableOf plan joined, left := column (baseOf plan) leftField
    right := column joined rightField }

def predicateOf (item : PlanFilter) : Predicate κ Value :=
  ⟨refOf column item.field, testOf t item.operator item.value⟩

/-- The boundaries of the time range. -/
def timePredicates : List (Predicate κ Value) :=
  match plan.timeField, plan.timeRange with
  | some ref, some range =>
    (range.start.map fun m => ⟨refOf column ref, .compare .ge (.str (t.isoformat m))⟩).toList ++
      (range.stop.map fun m => ⟨refOf column ref, .compare .le (.str (t.isoformat m))⟩).toList
  | _, _ => []

def orderingOf (item : PlanSort) : Ordering κ :=
  { target := match item.target with
      | .field ref => .column (refOf column ref)
      | .aggregate alias_ _ => .alias_ alias_
    descending := item.direction = .descending }

def statementOf : Statement κ Value where
  items := plan.selectedFields.map (fun ref => .column (refOf column ref)) ++
    plan.aggregates.map (itemOf column)
  table := tableOf plan (baseOf plan)
  join := plan.joins.head?.map (joinOf plan column)
  predicates := plan.filters.map (predicateOf t column) ++ timePredicates t plan column
  groupBy := plan.groupBy.map (refOf column)
  orderBy := plan.sorts.map (orderingOf column)
  limit := .int plan.limit

end Columns

/-- The column of a field: it is one of the base object, or of the other one. -/
def columnOf (objectId path : String) : Column :=
  ⟨if objectId = baseOf plan then .base else .joined, path⟩

/-- The statement that a plan stands for. -/
def meaning : Statement Column Value := statementOf t plan (columnOf plan)

/-- Every field that a command of the plan names. -/
def fieldRefs : List GroundedFieldRef :=
  plan.selectedFields ++ plan.aggregates.filterMap PlanAggregate.field ++
    plan.filters.map PlanFilter.field ++
    (if plan.timeRange.any fun range => range.start.isSome ∨ range.stop.isSome then
      plan.timeField.toList else []) ++
    plan.groupBy ++ plan.sorts.filterMap PlanSort.field

/-- The joined object is not the base object, and every field of the plan is one of the two. -/
def Connected : Prop :=
  (∀ join ∈ plan.joins, (joinedBy plan join).1 ≠ baseOf plan) ∧
    ∀ ref ∈ fieldRefs plan, ref.dataObjectId = baseOf plan ∨
      ∃ join ∈ plan.joins, ref.dataObjectId = (joinedBy plan join).1

instance : Decidable (Connected plan) := inferInstanceAs (Decidable (_ ∧ _))

end Plan

end Querying
