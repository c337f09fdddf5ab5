import Qaneris.Federation.Governance
import Qaneris.Graph.Reading
import Qaneris.Infra.Chronicle
import Qaneris.Infra.Program
import Qaneris.Infra.Unicode

/-!
# The life of a join mapping

`JoinMappingGovernance` as programs: each call to the repository, the catalog or the graph is one
indivisible step, and between two of them other calls act and datasources are scanned again.
-/

namespace Federation

open Infra (Chronicle Program Transaction)

/-! ## The repository, one transaction at a time -/

namespace Store

/-- `add_mapping` -/
def addMapping (s : Store) (m : JoinMapping) : Except Failure (Store × JoinMapping) :=
  if m.status ≠ .candidate then .error (.valueError "new join mapping must be a candidate")
  else if s.mappings.any fun row => row.mappingId = m.mappingId then .error .integrityError
  else .ok ({ s with mappings := s.mappings ++ [{
    mappingId := m.mappingId, workspaceId := m.workspaceId, state := m }] }, m)

/-- The row as `save_mapping` writes it. -/
def rewriteRow (now : Instant) (m : JoinMapping) (row : MappingRow) : MappingRow :=
  if row.mappingId = m.mappingId then
    { row with state := { m with updatedAt := now }, revision := row.revision + 1 }
  else row

/-- The transaction of `save_mapping`, before the row is read once more. -/
def putMapping (s : Store) (now : Instant) (m : JoinMapping) (expectedStatus : JoinMappingStatus) :
    Except Failure (Store × Unit) :=
  match s.mapping m.mappingId with
  | .error e => .error e
  | .ok current =>
    if current.status ≠ expectedStatus then .error (.valueError "join mapping state conflict")
    else .ok ({ s with mappings := s.mappings.map (rewriteRow now m) }, ())

/-- Nothing in between: the two transactions are the call. -/
theorem saveMapping_eq (s : Store) (now : Instant) (m : JoinMapping) (expected : JoinMappingStatus) :
    s.saveMapping now m expected =
      (s.putMapping now m expected).bind fun x => (x.1.mapping m.mappingId).map fun m' => (x.1, m') := by
  unfold saveMapping putMapping
  cases hm : s.mapping m.mappingId with
  | error e => rfl
  | ok current =>
    by_cases hc : current.status = expected
    · simp only [hc, bind, Except.bind, ne_eq, not_true_eq_false, ↓reduceIte]
      rfl
    · simp [hc, bind, Except.bind, throw, throwThe, MonadExceptOf.throw]

end Store

namespace JoinMappingGovernance

/-! ## What the calls share -/

/-- What the governance reads of a row of `list_datasources`. -/
structure Source where
  id : String
  workspaceId : String
  ready : Bool
  deriving DecidableEq, Repr

/-- What the catalog and the graph hold. -/
structure Published where
  sources : List Source
  /-- The version of the active snapshot. -/
  active : ActiveVersions
  /-- `read_structure` of a workspace and a datasource. -/
  structureOf : String → String → Graph.GraphStructure

/-- Everything that is stored. -/
structure Moment where
  store : Store
  published : Published

abbrev World := Chronicle Moment

/-- What a call raises. -/
inductive Raised where
  | failure (e : Failure)
  /-- A `JoinMapping` that breaks a constraint of its fields. -/
  | validation
  /-- The access to a store fails. -/
  | access (message : String)
  deriving DecidableEq, Repr

/-- What a call asks: whether the access to a store fails, the clock, a fresh identifier. -/
inductive Question where
  | fault
  | clock
  | uuid
  deriving DecidableEq, Repr

abbrev Answer : Question → Type
  | .fault => Option String
  | .clock => Instant
  | .uuid => String

abbrev Prog := Program World Answer Raised

def ask (q : Question) : Prog (Answer q) := Program.ask q

/-- A transaction on the mappings, as a step of the world. -/
def transact {α : Type} (tx : Transaction Store Failure α) : Transaction World Raised α := fun w =>
  match tx w.now.store with
  | .error e => .error (.failure e)
  | .ok (s, a) => .ok (w.goOn { w.now with store := s }, a)

def storeCall {α : Type} (tx : Transaction Store Failure α) : Prog α := do
  match ← ask .fault with
  | some message => .throw (.access message)
  | none => Program.atomic (transact tx)

/-- An access that only reads. -/
def readCall {α : Type} (read : Moment → Except Failure α) : Prog α := do
  match ← ask .fault with
  | some message => .throw (.access message)
  | none => Program.atomic fun w =>
    match read w.now with
    | .error e => .error (.failure e)
    | .ok a => .ok (w, a)

/-- `raise ValueError(message)` -/
def invalid {α : Type} (message : String) : Prog α := .throw (.failure (.valueError message))

/-- `raise FederationFailure(code, blocked=True)` -/
def refuse {α : Type} (code : String) : Prog α := .throw (.failure (.blocked code))

/-! ## The calls -/

/-- The fields that `create` is called with, those that it drops apart. -/
structure MappingFields where
  workspaceId : String
  businessKey : String
  left : MappingSide
  right : MappingSide
  cardinality : String
  nullPolicy : String
  source : String := "manual"
  deriving DecidableEq, Repr

def cardinalityOf : String → Option Cardinality
  | "ONE_TO_ONE" => some .oneToOne
  | "MANY_TO_ONE" => some .manyToOne
  | "ONE_TO_MANY" => some .oneToMany
  | _ => none

def nullPolicyOf : String → Option NullPolicy
  | "REJECT" => some .reject
  | "DROP" => some .drop
  | _ => none

/-- The texts of a mapping that must not be empty. -/
def MappingFields.texts (fields : MappingFields) : List String :=
  [fields.workspaceId, fields.businessKey,
    fields.left.datasourceId, fields.left.dataObjectId, fields.left.fieldPath, fields.left.grain,
    fields.right.datasourceId, fields.right.dataObjectId, fields.right.fieldPath, fields.right.grain]

/-- A side as `create` keeps it: the version of a scan is dropped. -/
def unscanned (side : MappingSide) : MappingSide := { side with scanVersion := none }

/-- `JoinMapping(mapping_id=…, status=CANDIDATE, **fields)` -/
def candidate (fields : MappingFields) (mappingId : String) (createdAt updatedAt : Instant) :
    Option JoinMapping :=
  if fields.texts.any fun text => text = "" then none
  else
    match cardinalityOf fields.cardinality, nullPolicyOf fields.nullPolicy with
    | some cardinality, some nullPolicy => some {
        mappingId, workspaceId := fields.workspaceId, businessKey := fields.businessKey
        left := unscanned fields.left, right := unscanned fields.right
        cardinality, nullPolicy, source := fields.source, createdAt, updatedAt }
    | _, _ => none

def create (fields : MappingFields) : Prog JoinMapping := do
  let mappingId ← ask .uuid
  let createdAt ← ask .clock
  let updatedAt ← ask .clock
  match candidate fields mappingId createdAt updatedAt with
  | none => .throw .validation
  | some m =>
    if m.left.datasourceId = m.right.datasourceId then
      invalid "join mapping requires distinct datasources"
    else storeCall fun s => s.addMapping m

/-- `repository.save_mapping(…)`: the row is written, and read again in a transaction of its own. -/
def saveMapping (m : JoinMapping) (expected : JoinMappingStatus) : Prog JoinMapping := do
  let now ← ask .clock
  storeCall fun s => s.putMapping now m expected
  readCall fun moment => moment.store.mapping m.mappingId

/-- The datasource is in the workspace and ready. -/
def isReady (published : Published) (workspaceId : String) (side : MappingSide) : Bool :=
  published.sources.any fun item =>
    item.workspaceId = workspaceId ∧ item.id = side.datasourceId ∧ item.ready

/-- The checks of `_version_and_field` on the structure. -/
def checkStructure (structure_ : Graph.GraphStructure) (side : MappingSide) (version : Int) :
    Except Failure Unit :=
  if ¬ structure_.datasources.any fun item =>
      item.datasourceId = side.datasourceId ∧ item.scanVersion = some version then
    .error (.valueError "join mapping scan is not published")
  else if ¬ structure_.dataObjects.any fun item =>
      item.nodeId = side.dataObjectId ∧ item.datasourceId = side.datasourceId then
    .error (.valueError "join mapping data object does not exist")
  else if ¬ structure_.fields.any fun item =>
      item.objectId = side.dataObjectId ∧ item.datasourceId = side.datasourceId ∧
        item.path = side.fieldPath then
    .error (.valueError "join mapping field does not exist")
  else .ok ()

/-- `_version_and_field` -/
def versionAndField (workspaceId : String) (side : MappingSide) : Prog Int := do
  let ready ← readCall fun moment => .ok (isReady moment.published workspaceId side)
  if ¬ ready then invalid "join mapping datasource is not ready in workspace"
  else
    match ← readCall fun moment => .ok (moment.published.active side.datasourceId) with
    | none => invalid "join mapping datasource has no active scan"
    | some version => do
      readCall fun moment =>
        checkStructure (moment.published.structureOf workspaceId side.datasourceId) side version
      return version

/-- The update that `confirm` makes. -/
def confirmed (m : JoinMapping) (left right : Int) (confirmedBy : String) (confirmedAt : Instant) :
    JoinMapping :=
  { m with
    left := { m.left with scanVersion := some left }
    right := { m.right with scanVersion := some right }
    status := .confirmed
    confirmedBy := some (String.ofList (Infra.strip confirmedBy.toList))
    confirmedAt := some confirmedAt }

def confirm (mappingId confirmedBy : String) : Prog JoinMapping := do
  let m ← readCall fun moment => moment.store.mapping mappingId
  if m.status ∉ [.candidate, .stale] then invalid "join mapping is not confirmable"
  else if Infra.isBlank confirmedBy then invalid "confirmed_by audit label is required"
  else do
    let left ← versionAndField m.workspaceId m.left
    let right ← versionAndField m.workspaceId m.right
    let confirmedAt ← ask .clock
    saveMapping (confirmed m left right confirmedBy confirmedAt) m.status

def reject (mappingId : String) : Prog JoinMapping := do
  let m ← readCall fun moment => moment.store.mapping mappingId
  saveMapping { m with status := .rejected } m.status

/-- The loop of `executable` over the sides. -/
def checkActive (m : JoinMapping) : List MappingSide → Prog JoinMapping
  | [] => pure m
  | side :: sides => do
    let version ← readCall fun moment => .ok (moment.published.active side.datasourceId)
    if version = none ∨ version ≠ side.scanVersion then do
      let _ ← saveMapping { m with status := .stale } .confirmed
      refuse "stale_join_mapping"
    else checkActive m sides

def executable (mappingId workspaceId : String) (sources : List String) : Prog JoinMapping := do
  match ← Program.attempt (readCall fun moment => moment.store.mapping mappingId) with
  | .error e =>
    if e = .failure (.keyError mappingId) then refuse "unconfirmed_mapping" else .throw e
  | .ok m =>
    if m.workspaceId ≠ workspaceId ∨ m.status ≠ .confirmed then refuse "unconfirmed_mapping"
    else if ¬ sameSet [m.left.datasourceId, m.right.datasourceId] sources then
      refuse "join_mapping_source_mismatch"
    else checkActive m m.sides

/-! ## Runs -/

/-- A call to the governance. -/
inductive Call where
  | create (fields : MappingFields)
  | confirm (mappingId confirmedBy : String)
  | reject (mappingId : String)
  | executable (mappingId workspaceId : String) (sources : List String)
  deriving DecidableEq, Repr

def Call.program : Call → Prog JoinMapping
  | .create fields => JoinMappingGovernance.create fields
  | .confirm mappingId confirmedBy => JoinMappingGovernance.confirm mappingId confirmedBy
  | .reject mappingId => JoinMappingGovernance.reject mappingId
  | .executable mappingId workspaceId sources =>
    JoinMappingGovernance.executable mappingId workspaceId sources

/-- The programs that run on the mappings. -/
def IsCall (p : Prog JoinMapping) : Prop := ∃ call : Call, p = call.program

/-- Datasources are changed, scanned and published, and other tables are written. -/
def Elsewhere (w w' : World) : Prop :=
  ∃ moment : Moment, moment.store.mappings = w.now.store.mappings ∧ w' = w.goOn moment

end JoinMappingGovernance

end Federation
