import Qaneris.Contracts.Semantic

/-!
# Grounding contracts

The candidates that retrieval finds in the published graph, and the business query bound to them. Of a
candidate only what grounding and the query context read is modelled.
-/

namespace Contracts

/-- A value that is set and not empty. -/
def truthy (value : Option String) : Bool := value.any fun s => s ≠ ""

@[ext] structure SemanticCandidate where
  assetType : SemanticAssetType
  assetId : String
  name : String
  score : Rat
  datasourceId : Option String := none
  dataObjectId : Option String := none
  fieldId : Option String := none
  fieldPath : Option String := none
  relationshipId : Option String := none
  fromDataObjectId : Option String := none
  toDataObjectId : Option String := none
  fromFieldPath : Option String := none
  toFieldPath : Option String := none
  dataType : Option String := none
  nativeType : Option String := none
  namespace_ : Option String := none
  qualifiedName : Option String := none
  objectKind : Option String := none
  dataObjectName : Option String := none
  defaultAggregation : Option AggregateFunction := none
  timeAxis : Bool := false
  reasons : List String := []
  evidence : List String := []
  matchedPhrases : List String := []
  labels : List String := []
  trusted : Bool := true
  migrationLookup : Bool := false
  assetId_length : 1 ≤ assetId.length
  name_length : 1 ≤ name.length
  score_range : 0 ≤ score ∧ score ≤ 1
  deriving Repr

instance : DecidableEq SemanticCandidate := fun _ _ => decidable_of_iff' _ SemanticCandidate.ext_iff

@[ext] structure GroundingBinding where
  businessTerm : String
  assetType : SemanticAssetType
  assetId : String
  datasourceId : Option String := none
  dataObjectId : Option String := none
  fieldPath : Option String := none
  relationshipId : Option String := none
  score : Rat
  evidence : List String := []
  defaultAggregation : Option AggregateFunction := none
  timeAxis : Bool := false
  dataType : Option String := none
  nativeType : Option String := none
  namespace_ : Option String := none
  qualifiedName : Option String := none
  objectKind : Option String := none
  dataObjectName : Option String := none
  businessTerm_length : 1 ≤ businessTerm.length
  assetId_length : 1 ≤ assetId.length
  score_range : 0 ≤ score ∧ score ≤ 1
  deriving Repr

instance : DecidableEq GroundingBinding := fun _ _ => decidable_of_iff' _ GroundingBinding.ext_iff

structure GroundedQuery where
  businessQuery : BusinessQuery
  candidates : List SemanticCandidate := []
  bindings : List GroundingBinding := []
  workspaceId : String := "default"
  requestedDatasourceId : Option String := none
  scanVersion : Option Int := none
  allowedDatasourceIds : List String := []
  allowedDataObjectIds : List String := []
  allowedFieldPaths : List String := []
  allowedRelationshipIds : List String := []
  unresolvedAmbiguities : List String := []
  confidence : Rat := 1
  deriving DecidableEq, Repr

namespace GroundedQuery

variable (g : GroundedQuery)

/-- The asset of the binding is missing from the allowlist. -/
def outside (asset : Option String) (allowed : List String) : Bool :=
  truthy asset && asset.all (· ∉ allowed)

/-- What `validate_binding_allowlist` raises about a binding. -/
def bindingError (binding : GroundingBinding) : Option String :=
  if outside binding.datasourceId g.allowedDatasourceIds then
    some "grounding binding datasource is not in the allowlist"
  else if outside binding.dataObjectId g.allowedDataObjectIds then
    some "grounding binding data object is not in the allowlist"
  else if outside binding.fieldPath g.allowedFieldPaths then
    some "grounding binding field is not in the allowlist"
  else if outside binding.relationshipId g.allowedRelationshipIds then
    some "grounding binding relationship is not in the allowlist"
  else if truthy g.requestedDatasourceId ∧ binding.datasourceId ≠ g.requestedDatasourceId then
    some "a datasource-scoped grounding may only bind that datasource"
  else none

/-- `GroundedQuery(…)`: the fields are checked, then the bindings. -/
def validate : Except String GroundedQuery :=
  if g.workspaceId.length < 1 then .error "workspace_id: String should have at least 1 character"
  else if ¬(0 ≤ g.confidence ∧ g.confidence ≤ 1) then
    .error "confidence: Input should be greater than or equal to 0 and less than or equal to 1"
  else
    match g.bindings.findSome? g.bindingError with
    | some message => .error message
    | none => .ok g

end GroundedQuery

end Contracts
