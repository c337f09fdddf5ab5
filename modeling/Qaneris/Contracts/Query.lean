import Qaneris.Contracts.Semantic

/-!
# Query contracts

The plan of a query as the planner leaves it, with graph identities only, and the native query that a
compiler makes of it. A constraint of a model is a field here, so a plan that breaks one cannot be
built.
-/

namespace Contracts

inductive FilterOperator where
  | equals
  | notEquals
  | greaterThan
  | greaterOrEqual
  | lessThan
  | lessOrEqual
  | in_
  | between
  | contains
  deriving DecidableEq, Repr

inductive SortDirection where
  | ascending
  | descending
  deriving DecidableEq, Repr

inductive QueryLanguage where
  | sql
  | cql
  | cypher
  | flux
  | redisJson
  | mongodbJson
  | couchdbMango
  | hbaseJson
  | searchJson
  | vectorFilterJson
  | graphql
  deriving DecidableEq, Repr

inductive QueryResultType where
  | scalar
  | tabular
  | document
  | keyValue
  | wideColumn
  | graph
  | timeSeries
  | search
  | vector
  deriving DecidableEq, Repr

/-! ## Values -/

/-- A `date`, or a `datetime` with the microseconds of its day. -/
structure Moment where
  day : Int
  time : Option Int := none
  deriving DecidableEq, Repr

/-- A value of a filter, a parameter of a command, or a command that is a document. -/
inductive Value where
  | null
  | bool (b : Bool)
  | int (n : Int)
  | real (q : Rat)
  | str (s : String)
  | moment (m : Moment)
  | list (items : List Value)
  | tuple (items : List Value)
  | dict (fields : List (String × Value))
  deriving Repr, Inhabited

namespace Value

mutual

def beq : (a b : Value) → Bool
  | .null, .null => true
  | .bool a, .bool b => a = b
  | .int a, .int b => a = b
  | .real a, .real b => a = b
  | .str a, .str b => a = b
  | .moment a, .moment b => a = b
  | .list a, .list b => beqItems a b
  | .tuple a, .tuple b => beqItems a b
  | .dict a, .dict b => beqFields a b
  | _, _ => false

def beqItems : (a b : List Value) → Bool
  | [], [] => true
  | x :: xs, y :: ys => beq x y && beqItems xs ys
  | _, _ => false

def beqFields : (a b : List (String × Value)) → Bool
  | [], [] => true
  | (k, x) :: xs, (l, y) :: ys => k = l && beq x y && beqFields xs ys
  | _, _ => false

end

mutual

theorem beq_iff : (a b : Value) → (beq a b ↔ a = b)
  | .list a, b => by cases b <;> simp [beq, beqItems_iff a]
  | .tuple a, b => by cases b <;> simp [beq, beqItems_iff a]
  | .dict a, b => by cases b <;> simp [beq, beqFields_iff a]
  | .null, b | .bool _, b | .int _, b | .real _, b | .str _, b | .moment _, b => by
    cases b <;> simp [beq]

theorem beqItems_iff : (a b : List Value) → (beqItems a b ↔ a = b)
  | [], b => by cases b <;> simp [beqItems]
  | x :: xs, b => by cases b <;> simp [beqItems, beq_iff x, beqItems_iff xs]

theorem beqFields_iff : (a b : List (String × Value)) → (beqFields a b ↔ a = b)
  | [], b => by cases b <;> simp [beqFields]
  | (k, x) :: xs, b => by
    cases b with
    | nil => simp [beqFields]
    | cons y ys => simp [beqFields, beq_iff x, beqFields_iff xs, Prod.ext_iff]

end

instance : DecidableEq Value := fun a b => decidable_of_iff (beq a b) (beq_iff a b)

/-- `isinstance(value, (list, tuple))`: its items. -/
def items? : Value → Option (List Value)
  | .list items | .tuple items => some items
  | _ => none

end Value

/-! ## References -/

@[ext] structure GroundedFieldRef where
  datasourceId : String
  dataObjectId : String
  fieldPath : String
  fieldId : Option String := none
  businessTerm : Option String := none
  dataType : Option String := none
  nativeType : Option String := none
  datasourceId_length : 1 ≤ datasourceId.length
  dataObjectId_length : 1 ≤ dataObjectId.length
  fieldPath_length : 1 ≤ fieldPath.length
  deriving Repr

instance : DecidableEq GroundedFieldRef := fun _ _ => decidable_of_iff' _ GroundedFieldRef.ext_iff

def GroundedFieldRef.identity (ref : GroundedFieldRef) : String × String × String :=
  (ref.datasourceId, ref.dataObjectId, ref.fieldPath)

@[ext] structure GroundedDataObjectRef where
  datasourceId : String
  dataObjectId : String
  name : Option String := none
  namespace_ : Option String := none
  qualifiedName : Option String := none
  objectKind : Option String := none
  datasourceId_length : 1 ≤ datasourceId.length
  dataObjectId_length : 1 ≤ dataObjectId.length
  name_length : ∀ n ∈ name, 1 ≤ n.length
  deriving Repr

instance : DecidableEq GroundedDataObjectRef := fun _ _ => decidable_of_iff' _ GroundedDataObjectRef.ext_iff

/-! ## Plans -/

/-- The order of the boundaries is that of their days. -/
structure TimeRange where
  start : Option Moment := none
  stop : Option Moment := none
  ordered : ∀ s ∈ start, ∀ e ∈ stop, s.day ≤ e.day
  deriving DecidableEq, Repr

/-- No time range and no time field stand together. -/
theorem TimeRange.none_together : (none : Option TimeRange).isNone = (none : Option GroundedFieldRef).isNone := rfl

@[ext] structure PlanAggregate where
  function : AggregateFunction
  field : Option GroundedFieldRef := none
  alias_ : String
  alias_length : 1 ≤ alias_.length
  field_required : function ≠ .count → field.isSome
  deriving Repr

instance : DecidableEq PlanAggregate := fun _ _ => decidable_of_iff' _ PlanAggregate.ext_iff

structure PlanFilter where
  field : GroundedFieldRef
  operator : FilterOperator
  value : Value
  deriving DecidableEq, Repr

/-- What a plan is sorted by: a field, or one of its aggregates by its alias. -/
inductive PlanSortTarget where
  | field (ref : GroundedFieldRef)
  | aggregate (alias_ : String) (h : alias_ ≠ "")
  deriving Repr

instance : DecidableEq PlanSortTarget
  | .field ref, .field ref' => decidable_of_iff (ref = ref') (by simp)
  | .aggregate alias_ _, .aggregate alias' _ => decidable_of_iff (alias_ = alias') (by simp)
  | .field _, .aggregate _ _ => isFalse (by simp)
  | .aggregate _ _, .field _ => isFalse (by simp)

structure PlanSort where
  target : PlanSortTarget
  direction : SortDirection := .ascending
  deriving DecidableEq, Repr

def PlanSort.field (item : PlanSort) : Option GroundedFieldRef :=
  match item.target with
  | .field ref => some ref
  | .aggregate _ _ => none

def PlanSort.alias? (item : PlanSort) : Option String :=
  match item.target with
  | .field _ => none
  | .aggregate alias_ _ => some alias_

@[ext] structure PlanJoin where
  datasourceId : String
  relationshipId : String
  relationshipType : Option String := none
  fromDataObjectId : String
  fromFieldPath : String
  toDataObjectId : String
  toFieldPath : String
  fromFieldPath_length : 1 ≤ fromFieldPath.length
  toFieldPath_length : 1 ≤ toFieldPath.length
  deriving Repr

instance : DecidableEq PlanJoin := fun _ _ => decidable_of_iff' _ PlanJoin.ext_iff

theorem joinless_one (id : String) : 1 < [id].length → ([] : List PlanJoin) ≠ [] :=
  fun h => absurd h (Nat.lt_irrefl 1)

@[ext] structure GroundedQueryPlan where
  planId : String
  workspaceId : String
  datasourceId : String
  dataObjectIds : List String
  dataObjects : List (String × GroundedDataObjectRef) := []
  scanVersion : Option Int := none
  aggregates : List PlanAggregate := []
  selectedFields : List GroundedFieldRef := []
  filters : List PlanFilter := []
  groupBy : List GroundedFieldRef := []
  sorts : List PlanSort := []
  limit : Int := 200
  joins : List PlanJoin := []
  timeRange : Option TimeRange := none
  timeField : Option GroundedFieldRef := none
  expectedResultType : QueryResultType
  rationale : List String := []
  planId_length : 1 ≤ planId.length
  dataObjectIds_length : 1 ≤ dataObjectIds.length
  limit_range : 1 ≤ limit ∧ limit ≤ 1000
  time_together : timeRange.isNone = timeField.isNone
  output : aggregates ≠ [] ∨ selectedFields ≠ []
  dataObjectIds_unique : dataObjectIds.Nodup
  join_required : 1 < dataObjectIds.length → joins ≠ []
  groupBy_selected : ∀ ref ∈ groupBy, ref.identity ∈ selectedFields.map GroundedFieldRef.identity
  dataObjects_keys : ∀ entry ∈ dataObjects,
    entry.2.dataObjectId = entry.1 ∧ entry.2.datasourceId = datasourceId
  deriving Repr

instance : DecidableEq GroundedQueryPlan := fun _ _ => decidable_of_iff' _ GroundedQueryPlan.ext_iff

/-- `plan.data_objects.get(object_id)` -/
def GroundedQueryPlan.locator (plan : GroundedQueryPlan) (objectId : String) :
    Option GroundedDataObjectRef :=
  plan.dataObjects.lookup objectId

/-! ## Native queries -/

/-- `str | dict[str, Any]` -/
inductive Command where
  | text (command : String)
  | document (fields : List (String × Value))
  deriving DecidableEq, Repr

structure NativeQuery where
  datasourceId : String
  planId : String
  scanVersion : Option Int := none
  queryLanguage : QueryLanguage
  command : Command
  parameters : List Value := []
  displayCommand : String
  deriving DecidableEq, Repr

end Contracts
