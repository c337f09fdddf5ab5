import Qaneris.Contracts.Ask

/-!
# Federation contracts

The records of a question answered from several sources: the draft a model writes, the plan made
from it, its source tasks, and the governed mapping between two sources.

A field constraint of the source is a field here, so a draft that breaks one cannot be built.
Times are counted in microseconds.
-/

namespace Federation

open Infra (Json)
open Contracts (AskResponse BusinessQuery Row)

abbrev Instant := Contracts.Instant

inductive ExpectedShape where
  | scalar
  | rows
  | timeSeries
  deriving DecidableEq, Repr

inductive MergeOperation where
  | compareScalars
  | combineScalars
  | unionRows
  | alignTimeSeries
  | keyedJoin
  deriving DecidableEq, Repr

inductive JoinMode where
  | inner
  | left
  | anti
  deriving DecidableEq, Repr

inductive ScalarOperation where
  | sum
  | difference
  | ratio
  | percentageChange
  | percentageDifference
  deriving DecidableEq, Repr

structure ExecutionScope where
  workspaceId : String
  allowedDatasourceIds : List String
  maxSources : Int
  maxRowsPerSource : Int
  maxTotalRows : Int
  maxIntermediateBytes : Int
  deadline : Instant
  allowCrossSourceJoin : Bool := true
  deriving DecidableEq, Repr

@[ext] structure SourceTaskDraft where
  datasourceId : String
  question : String
  purpose : String
  expectedShape : ExpectedShape
  datasourceId_length : 1 ≤ datasourceId.length
  question_length : 1 ≤ question.length ∧ question.length ≤ 1000
  purpose_length : 1 ≤ purpose.length ∧ purpose.length ≤ 200
  deriving Repr

instance : DecidableEq SourceTaskDraft := fun _ _ => decidable_of_iff' _ SourceTaskDraft.ext_iff

structure MergePlan where
  operation : MergeOperation
  inputTaskIds : List String := []
  mappingId : Option String := none
  joinMode : Option JoinMode := none
  scalarOperation : Option ScalarOperation := none
  options : List (String × Json) := []
  deriving DecidableEq, Repr

structure FederatedPlanDraft where
  sourceTasks : List SourceTaskDraft
  merge : MergePlan
  deriving DecidableEq, Repr

inductive SourceTaskStatus where
  | planned
  | running
  | completed
  | failed
  | waitingUser
  | skipped
  deriving DecidableEq, Repr

/-- One question to one source, with the state of its execution. -/
structure SourceTask extends SourceTaskDraft where
  taskId : String
  runId : String
  planId : String
  ordinal : Nat
  status : SourceTaskStatus := .planned
  attempt : Nat := 0
  responseJson : Option AskResponse := none
  startedAt : Option Instant := none
  completedAt : Option Instant := none
  failureCode : Option String := none
  failureMessage : Option String := none
  retryable : Bool := false
  revision : Nat := 0
  deriving DecidableEq, Repr

structure FederatedPlan where
  planId : String
  runId : String
  workspaceId : String
  question : String
  sourceTasks : List SourceTask
  mergePlan : MergePlan
  executionScope : ExecutionScope
  businessQuery : Option BusinessQuery
  createdAt : Instant
  deriving DecidableEq, Repr

@[ext] structure FederationBudget where
  maxSources : Int := 5
  maxRowsPerSource : Int := 200
  maxTotalRows : Int := 1000
  maxIntermediateBytes : Int := 1000000
  deadlineSeconds : Int := 120
  maxSources_range : 2 ≤ maxSources ∧ maxSources ≤ 5 := by decide
  maxRowsPerSource_range : 1 ≤ maxRowsPerSource ∧ maxRowsPerSource ≤ 1000 := by decide
  maxTotalRows_range : 1 ≤ maxTotalRows ∧ maxTotalRows ≤ 5000 := by decide
  maxIntermediateBytes_range :
    1 ≤ maxIntermediateBytes ∧ maxIntermediateBytes ≤ 10000000 := by decide
  deadlineSeconds_range : 1 ≤ deadlineSeconds ∧ deadlineSeconds ≤ 600 := by decide
  deriving Repr

instance : DecidableEq FederationBudget := fun _ _ => decidable_of_iff' _ FederationBudget.ext_iff

inductive JoinMappingStatus where
  | candidate
  | confirmed
  | stale
  | rejected
  deriving DecidableEq, Repr

inductive Cardinality where
  | oneToOne
  | manyToOne
  | oneToMany
  deriving DecidableEq, Repr

inductive NullPolicy where
  | reject
  | drop
  deriving DecidableEq, Repr

/-- One end of a join mapping: the field it names and the scan that confirmed it. -/
structure MappingSide where
  datasourceId : String
  dataObjectId : String
  fieldPath : String
  scanVersion : Option Int := none
  grain : String
  deriving DecidableEq, Repr

structure JoinMapping where
  mappingId : String
  workspaceId : String
  businessKey : String
  left : MappingSide
  right : MappingSide
  cardinality : Cardinality
  nullPolicy : NullPolicy
  status : JoinMappingStatus := .candidate
  source : String := "manual"
  confirmedBy : Option String := none
  confirmedAt : Option Instant := none
  createdAt : Instant
  updatedAt : Instant
  deriving DecidableEq, Repr

structure MergedResult where
  columns : List String
  rows : List Row
  rowCount : Nat
  truncated : Bool
  operation : MergeOperation
  warnings : List String := []
  deriving DecidableEq, Repr

structure SourceEvidence where
  taskId : String
  datasourceId : String
  scanVersion : Option Int
  sourceStartedAt : Instant
  sourceCompletedAt : Instant
  rowCount : Nat
  truncated : Bool
  deriving DecidableEq, Repr

structure FederatedEvidence where
  sourceEvidence : List SourceEvidence
  mergeOperation : MergeOperation
  mergeMappingId : Option String := none
  inputRowCounts : List (String × Nat)
  outputRowCount : Nat
  truncated : Bool
  warnings : List String := []
  deriving DecidableEq, Repr

/-- What the federation code raises. -/
inductive Failure where
  | federation (code : String) (blocked : Bool) (retryable : Bool)
  | valueError (message : String)
  | keyError (key : String)
  | integrityError
  deriving DecidableEq, Repr

/-- `FederationFailure(code, blocked=True)` -/
def Failure.blocked (code : String) : Failure := .federation code true false

end Federation
