import Mathlib.Data.String.Basic
import Qaneris.Infra.Unions

/-!
# The read model of the published graph

A bounded view of what is published: data sources, data objects, fields and relationships. Two views of
one graph are merged by physical identity and sorted.
-/

namespace Graph

open Infra

structure GraphDatasource where
  nodeId : String
  datasourceId : String
  workspaceId : String
  name : String
  kind : Option String := none
  driver : Option String := none
  databaseName : Option String := none
  scanVersion : Option Int := none
  deriving DecidableEq, Repr

structure GraphDataObject where
  nodeId : String
  datasourceId : String
  namespace_ : Option String := none
  name : String
  qualifiedName : Option String := none
  objectKind : Option String := none
  comment : Option String := none
  description : Option String := none
  estimatedRecordCount : Option Int := none
  deriving DecidableEq, Repr

structure GraphField where
  nodeId : String
  objectId : String
  datasourceId : String
  objectName : String
  name : String
  path : String
  dataType : Option String := none
  nativeType : Option String := none
  nullable : Option Bool := none
  primaryKey : Bool := false
  unique : Bool := false
  indexed : Bool := false
  comment : Option String := none
  description : Option String := none
  deriving DecidableEq, Repr

structure GraphRelationship where
  relationshipId : String
  relationshipType : String
  fromObjectId : String
  fromDatasourceId : String
  fromObjectName : String
  fromFieldPath : Option String := none
  toObjectId : String
  toDatasourceId : String
  toObjectName : String
  toFieldPath : Option String := none
  source : Option String := none
  directed : Bool := true
  confirmed : Bool := true
  deriving DecidableEq, Repr

structure GraphStructure where
  datasources : List GraphDatasource := []
  dataObjects : List GraphDataObject := []
  fields : List GraphField := []
  relationships : List GraphRelationship := []
  truncated : Bool := false
  deriving DecidableEq, Repr

def GraphDatasource.key (item : GraphDatasource) : List String := [item.datasourceId, item.nodeId]

/-- `item.qualified_name or item.name` -/
def GraphDataObject.readableName (item : GraphDataObject) : String :=
  match item.qualifiedName with
  | some name => if name = "" then item.name else name
  | none => item.name

def GraphDataObject.key (item : GraphDataObject) : List String :=
  [item.datasourceId, item.readableName, item.name, item.nodeId]

def GraphField.key (item : GraphField) : List String :=
  [item.datasourceId, item.objectId, item.path, item.nodeId]

def GraphRelationship.key (item : GraphRelationship) : List String :=
  [item.fromObjectId, item.relationshipId]

/-- `_unique` -/
def unique {α : Type} (first second : List α) (key : α → String) : List α :=
  firstOfEach key (first ++ second)

namespace GraphStructure

def sorted (g : GraphStructure) : GraphStructure where
  datasources := sortedBy GraphDatasource.key g.datasources
  dataObjects := sortedBy GraphDataObject.key g.dataObjects
  fields := sortedBy GraphField.key g.fields
  relationships := sortedBy GraphRelationship.key g.relationships
  truncated := g.truncated

def merged (g other : GraphStructure) : GraphStructure :=
  sorted
    { datasources := unique g.datasources other.datasources (·.nodeId)
      dataObjects := unique g.dataObjects other.dataObjects (·.nodeId)
      fields := unique g.fields other.fields (·.nodeId)
      relationships := unique g.relationships other.relationships (·.relationshipId)
      truncated := g.truncated || other.truncated }

end GraphStructure

end Graph
