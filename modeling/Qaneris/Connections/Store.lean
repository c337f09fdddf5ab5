import Mathlib.Algebra.Ring.Nat
import Mathlib.Data.List.Sort
import Qaneris.Connections.Profile

/-!
# The managed credential store and the catalog

Two stores without a common transaction. Each operation here is one transaction of one of them.
-/

namespace Connections

/-- What is raised. `product` is any other error of the product, `other` any other exception. -/
inductive Failure where
  | secretNotFound (message : String)
  | secretInUse (message : String)
  | secretIntegrity (message : String)
  | datasourceNotFound (message : String)
  | secureProfileRequired (message : String)
  | connectionTest (message : String)
  | update (message : String)
  | delete (message : String)
  | keyError (message : String)
  | product (message : String)
  | other (message : String)
  deriving DecidableEq, Repr

/-- The error is a `QanerisError`. -/
def Failure.isQaneris : Failure → Bool
  | .keyError _ | .other _ => false
  | _ => true

/-- The identifiers of the stored secrets, and the datasources of the catalog. -/
structure World where
  secrets : List String
  rows : List Row
  deriving DecidableEq, Repr

/-- `_SECRET_ID_PATTERN`, which lets one line feed follow. -/
def isSecretId (text : String) : Bool :=
  match text.toList with
  | 's' :: 'e' :: 'c' :: '_' :: rest =>
    let digits := rest.takeWhile fun c => ('0' ≤ c ∧ c ≤ '9') ∨ ('a' ≤ c ∧ c ≤ 'f')
    digits.length = 32 ∧ (rest.drop 32 = [] ∨ rest.drop 32 = ['\n'])
  | _ => false

namespace World

variable (w : World)

/-! ## `ManagedCredentialStore` -/

/-- `exists` -/
def secretExists (secret : String) : Bool := isSecretId secret && secret ∈ w.secrets

/-- What `_path` and a missing file raise. -/
def secretMissing (secret : String) : Failure :=
  if isSecretId secret then .secretNotFound s!"managed secret {secret} does not exist"
  else .secretNotFound "managed secret does not exist"

/-- `resolve`, of which only the outcome is kept. -/
def resolve (secret : String) : Except Failure Unit :=
  if w.secretExists secret then .ok () else .error (secretMissing secret)

/-- `delete` -/
def deleteSecret (secret : String) : Except Failure World :=
  if w.secretExists secret then .ok { w with secrets := w.secrets.filter (· ≠ secret) }
  else .error (secretMissing secret)

/-! ## `SQLiteCatalog` -/

def row? (datasourceId : String) : Option Row := w.rows.find? fun row => row.id = datasourceId

def missing (datasourceId : String) : Failure := .keyError s!"Datasource not found: {datasourceId}"

/-- `get_connection_profile` -/
def getConnectionProfile (datasourceId : String) : Except Failure (Option ConnectionProfile) :=
  match w.row? datasourceId with
  | none => .error (missing datasourceId)
  | some row =>
    match row.connection with
    | .legacy => .ok none
    | .secure profile => .ok (some profile)
    | .unreadable => .error (.other "validation error for ConnectionProfile")

/-- `create_secure_datasource`, with the identifier that it draws. -/
def createSecureDatasource (datasourceId : String) (data : SecureDatasourceCreate) :
    Except Failure World :=
  if (w.row? datasourceId).isSome then .error (.other "UNIQUE constraint failed: datasource.id")
  else .ok { w with rows := w.rows ++
    [{ id := datasourceId, name := data.name, kind := data.kind, workspaceId := data.workspaceId,
       connection := .secure data.connectionProfile }] }

/-- The row of the datasource is changed. -/
def change (datasourceId : String) (f : Row → Row) : World :=
  { w with rows := w.rows.map fun row => if row.id = datasourceId then f row else row }

/-- `update_secure_datasource` -/
def updateSecureDatasource (datasourceId : String) (profile : ConnectionProfile) :
    Except Failure World :=
  match w.row? datasourceId with
  | none => .error (missing datasourceId)
  | some row =>
    if row.connection = .legacy then
      .error (.secureProfileRequired s!"datasource {datasourceId} has no secure connection profile")
    else .ok (w.change datasourceId fun row =>
      { row with connection := .secure profile, status := "created" })

/-- `invalidate_datasource_scan`, of which the tables of the scan are left out. -/
def invalidateDatasourceScan (datasourceId : String) : Except Failure World :=
  if (w.row? datasourceId).isSome then
    .ok (w.change datasourceId fun row => { row with status := "created" })
  else .error (missing datasourceId)

/-- `delete_datasource` -/
def deleteDatasource (datasourceId : String) : Except Failure World :=
  if (w.row? datasourceId).isSome then
    .ok { w with rows := w.rows.filter fun row => row.id ≠ datasourceId }
  else .error (missing datasourceId)

/-- The profiles that the catalog stores. -/
def profiles : List ConnectionProfile := w.rows.filterMap fun row => row.connection.profile

/-- The datasources whose profile does not parse, by identifier. -/
def unreadable : List String :=
  ((w.rows.filter fun row => row.connection = .unreadable).map Row.id).insertionSort (· ≤ ·)

/-- `count_managed_secret_references` -/
def countManagedSecretReferences (secret : String) : Except Failure Nat :=
  match w.unreadable with
  | datasourceId :: _ =>
    .error (.secretIntegrity s!"datasource {datasourceId} has an unreadable connection profile")
  | [] =>
    .ok (w.profiles.map fun profile =>
      (profile.managedSecretReferences.filter fun reference => reference.identifier = secret).length).sum

end World

end Connections
