import Mathlib.Algebra.Ring.Nat
import Qaneris.Contracts.Query
import Qaneris.Scan.Contracts

/-!
# Contracts of prepared queries

The context, the intent and the plan of the pipeline that works on profiles: objects and fields are
named by texts, `object::path` for a field of an object.
-/

namespace Contracts

open Scan (DatasourceKind)

/-! ## Profiles -/

structure FieldProfile where
  name : String
  path : String
  dataType : String
  deriving DecidableEq, Repr

structure DataObjectProfile where
  id : String
  namespace_ : Option String := none
  name : String
  fields : List FieldProfile := []
  deriving DecidableEq, Repr

structure RelationshipProfile where
  id : String
  fromDatasourceId : String
  fromObjectId : String
  fromFieldPath : Option String := none
  toDatasourceId : String
  toObjectId : String
  toFieldPath : Option String := none
  deriving DecidableEq, Repr

/-! ## Intents -/

structure FilterSpec where
  field : String
  operator : FilterOperator
  value : Value
  deriving DecidableEq, Repr

structure AggregateSpec where
  function : AggregateFunction
  field : Option String := none
  alias_ : Option String := none
  deriving DecidableEq, Repr

structure SortSpec where
  field : String
  direction : SortDirection := .ascending
  deriving DecidableEq, Repr

structure QueryIntent where
  question : String
  timeRange : Option TimeRange := none
  filters : List FilterSpec := []
  aggregates : List AggregateSpec := []
  sorts : List SortSpec := []
  limit : Option Nat := none
  ambiguities : List String := []
  limit_range : ∀ n ∈ limit, 1 ≤ n ∧ n ≤ 1000
  deriving DecidableEq, Repr

/-! ## Contexts -/

structure RetrievedDataObject where
  profile : DataObjectProfile
  reasons : List String := []
  deriving DecidableEq, Repr

structure RetrievedDataSource where
  datasourceId : String
  kind : DatasourceKind
  driver : String
  dataObjects : List RetrievedDataObject := []
  dataObjects_length : dataObjects.length ≤ 5
  deriving DecidableEq, Repr

def fieldCount (sources : List RetrievedDataSource) : Nat :=
  (sources.map fun source => (source.dataObjects.map fun item => item.profile.fields.length).sum).sum

structure QueryContext where
  workspaceId : String
  intent : QueryIntent
  dataSources : List RetrievedDataSource := []
  relationships : List RelationshipProfile := []
  dataSources_length : dataSources.length ≤ 3
  fieldBudget : fieldCount dataSources ≤ 30
  deriving DecidableEq, Repr

/-! ## Plans -/

@[ext] structure QueryPlan where
  id : String
  datasourceId : String
  queryLanguage : QueryLanguage
  dataObjectIds : List String
  outputFields : List String := []
  metrics : List String := []
  dimensions : List String := []
  relationshipIds : List String := []
  filters : List FilterSpec := []
  timeRange : Option TimeRange := none
  timeField : Option String := none
  aggregates : List AggregateSpec := []
  groupBy : List String := []
  sorts : List SortSpec := []
  limit : Nat := 200
  expectedResultType : QueryResultType
  rationale : List String := []
  unresolvedAmbiguities : List String := []
  dataObjectIds_length : 1 ≤ dataObjectIds.length
  limit_range : 1 ≤ limit ∧ limit ≤ 1000
  time_together : timeRange.isNone = timeField.isNone
  deriving Repr

instance : DecidableEq QueryPlan := fun _ _ => decidable_of_iff' _ QueryPlan.ext_iff

namespace QueryPlan

/-- The plan with one filter and no time range. -/
def only (plan : QueryPlan) (item : FilterSpec) : QueryPlan :=
  { plan with filters := [item], timeRange := none, timeField := none, time_together := TimeRange.none_together }

/-- The plan with its time range and no filter. -/
def onlyTime (plan : QueryPlan) : QueryPlan := { plan with filters := [] }

end QueryPlan

end Contracts
