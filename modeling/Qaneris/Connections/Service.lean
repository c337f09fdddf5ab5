import Mathlib.Logic.Relation
import Qaneris.Connections.Store

/-!
# Operations on datasources and secrets

`create_secure_datasource`, `update_secure_datasource`, `delete_datasource` and `delete_secret`, each cut
where it leaves one of the two stores or the adapter. Between two of its steps the others go on.
`safe_error` is a parameter.
-/

namespace Connections

/-! ## Where an operation is -/

/-- What a tested profile is for. -/
inductive Aim where
  | create (request : SecureDatasourceCreate)
  | update (datasourceId : String) (previous candidate : ConnectionProfile)
  deriving DecidableEq, Repr

def Aim.candidate : Aim → ConnectionProfile
  | .create request => request.connectionProfile
  | .update _ _ candidate => candidate

/-- Where `delete_secret` is. -/
inductive Deletion where
  | exists_
  | count
  | delete
  deriving DecidableEq, Repr

/-- An operation, by the call that it makes next. -/
inductive Task where
  /-- `_resolve_datasource` of an update -/
  | resolveUpdated (datasourceId : String) (candidate : ConnectionProfile)
  /-- `get_connection_profile` of an update -/
  | readPrevious (datasourceId : String) (candidate : ConnectionProfile)
  /-- `SecretResolver.materialize`, with the references that it has resolved -/
  | materialize (aim : Aim) (resolved pending : List SecretReference)
  /-- The rest of `_test_secure_connection` -/
  | testConnection (aim : Aim)
  /-- `catalog.create_secure_datasource` -/
  | insertDatasource (request : SecureDatasourceCreate)
  /-- `delete_datasource_graph` of an update -/
  | dropOldGraph (datasourceId : String) (previous candidate : ConnectionProfile)
  /-- `catalog.update_secure_datasource` -/
  | saveProfile (datasourceId : String) (previous candidate : ConnectionProfile)
  /-- `invalidate_datasource_scan` -/
  | invalidateScan (datasourceId : String) (previous candidate : ConnectionProfile)
  /-- `_resolve_datasource` of a deletion -/
  | resolveDeleted (datasourceId : String)
  /-- `get_connection_profile` of a deletion -/
  | readDeleted (datasourceId : String)
  /-- `delete_datasource_graph` of a deletion -/
  | dropGraph (datasourceId : String) (profile : Option ConnectionProfile)
  /-- `catalog.delete_datasource` -/
  | deleteRow (datasourceId : String) (profile : Option ConnectionProfile)
  /-- `_cleanup_unreferenced_secrets`, at its own count of the first secret -/
  | cleanup (pending : List String)
  /-- `delete_secret`, on its own or from the loop with the secrets that are left -/
  | deleteSecret (stage : Deletion) (secret : String) (loop : Option (List String))
  | done
  | failed (e : Failure)
  deriving DecidableEq, Repr

/-- How the call ends outside of the two stores: it returns, with the text of a uuid where one is drawn,
or something in it fails. -/
inductive Reply where
  | returns (uuid : String)
  | raises (e : Failure)
  deriving DecidableEq, Repr

/-- `sorted(secret_ids)` -/
def sorted (secrets : List String) : List String := secrets.insertionSort (· ≤ ·)

/-! ## Steps -/

section Steps

variable (safeError : Failure → String)

/-- How `_test_secure_connection` reports an error. -/
def testFailure (e : Failure) : Failure := if e.isQaneris then e else .connectionTest (safeError e)

/-- How `update_secure_datasource` reports an error of the catalog. -/
def updateFailure (e : Failure) : Failure := if e.isQaneris then e else .update (safeError e)

/-- How `delete_datasource` reports an error of the catalog. -/
def deleteFailure (e : Failure) : Failure := if e.isQaneris then e else .delete (safeError e)

/-- `delete_secret` has ended. An error is a warning in the loop. -/
def afterDeletion (loop : Option (List String)) (outcome : Option Failure) : Task :=
  match loop, outcome with
  | some pending, _ => .cleanup pending
  | none, some e => .failed e
  | none, none => .done

/-- One call of `delete_secret`. -/
def deletionStep (w : World) (secret : String) (loop : Option (List String)) :
    Deletion → World × Task
  | .exists_ =>
    if w.secretExists secret then (w, .deleteSecret .count secret loop)
    else (w, afterDeletion loop (some (.secretNotFound "managed secret does not exist")))
  | .count =>
    match w.countManagedSecretReferences secret with
    | .error e => (w, afterDeletion loop (some e))
    | .ok 0 => (w, .deleteSecret .delete secret loop)
    | .ok n =>
      let plural := if n > 1 then "s" else ""
      (w, afterDeletion loop (some (.secretInUse
        s!"managed secret {secret} is still referenced by {n} connection profile{plural}")))
  | .delete =>
    match w.deleteSecret secret with
    | .error e => (w, afterDeletion loop (some e))
    | .ok w' => (w', afterDeletion loop none)

/-- The next call returns. -/
def Task.returned (uuid : String) (w : World) : Task → Option (World × Task)
  | .resolveUpdated datasourceId candidate =>
    match w.row? datasourceId with
    | none => some (w, .failed (.datasourceNotFound s!"数据源不存在：{datasourceId}"))
    | some _ => some (w, .readPrevious datasourceId candidate)
  | .readPrevious datasourceId candidate =>
    match w.getConnectionProfile datasourceId with
    | .error e => some (w, .failed e)
    | .ok none => some (w, .failed (.secureProfileRequired
        s!"数据源 {datasourceId} 不是受管安全数据源，无法更新连接配置"))
    | .ok (some previous) =>
      some (w, .materialize (.update datasourceId previous candidate) [] candidate.references)
  | .materialize aim _ [] => some (w, .testConnection aim)
  | .materialize aim resolved (reference :: pending) =>
    if reference.provider = .managed then
      match w.resolve reference.identifier with
      | .error e => some (w, .failed (testFailure safeError e))
      | .ok () => some (w, .materialize aim (resolved ++ [reference]) pending)
    else some (w, .materialize aim (resolved ++ [reference]) pending)
  | .testConnection (.create request) => some (w, .insertDatasource request)
  | .testConnection (.update datasourceId previous candidate) =>
    some (w, .dropOldGraph datasourceId previous candidate)
  | .insertDatasource request =>
    match w.createSecureDatasource ("ds_" ++ (uuid.take 12).toString) request with
    | .error e => some (w, .failed e)
    | .ok w' => some (w', .done)
  | .dropOldGraph datasourceId previous candidate =>
    some (w, .saveProfile datasourceId previous candidate)
  | .saveProfile datasourceId previous candidate =>
    match w.updateSecureDatasource datasourceId candidate with
    | .error e => some (w, .failed (updateFailure safeError e))
    | .ok w' => some (w', .invalidateScan datasourceId previous candidate)
  | .invalidateScan datasourceId previous candidate =>
    match w.invalidateDatasourceScan datasourceId with
    | .error e => some (w, .failed (updateFailure safeError e))
    | .ok w' => some (w', .cleanup (sorted (previous.managedSecretIds.filter fun secret =>
        secret ∉ candidate.managedSecretIds)))
  | .resolveDeleted datasourceId =>
    match w.row? datasourceId with
    | none => some (w, .failed (.datasourceNotFound s!"数据源不存在：{datasourceId}"))
    | some _ => some (w, .readDeleted datasourceId)
  | .readDeleted datasourceId =>
    match w.getConnectionProfile datasourceId with
    | .error e => some (w, .failed e)
    | .ok profile => some (w, .dropGraph datasourceId profile)
  | .dropGraph datasourceId profile => some (w, .deleteRow datasourceId profile)
  | .deleteRow datasourceId profile =>
    match w.deleteDatasource datasourceId with
    | .error e => some (w, .failed (deleteFailure safeError e))
    | .ok w' =>
      match profile with
      | none => some (w', .done)
      | some profile => some (w', .cleanup (sorted profile.managedSecretIds))
  | .cleanup [] => some (w, .done)
  | .cleanup (secret :: pending) =>
    match w.countManagedSecretReferences secret with
    | .ok 0 => some (w, .deleteSecret .exists_ secret (some pending))
    | _ => some (w, .cleanup pending)
  | .deleteSecret stage secret loop => some (deletionStep w secret loop stage)
  | .done | .failed _ => none

/-- The next call fails before it changes anything. -/
def Task.raised (e : Failure) : Task → Option Task
  | .resolveUpdated _ _ | .readPrevious _ _ | .insertDatasource _ | .resolveDeleted _
  | .readDeleted _ => some (.failed e)
  | .materialize _ _ _ | .testConnection _ => some (.failed (testFailure safeError e))
  | .dropOldGraph datasourceId _ _ =>
    some (.failed (.update s!"数据源 {datasourceId} 的旧图删除失败，更新已中止：{safeError e}"))
  | .saveProfile _ _ _ | .invalidateScan _ _ _ => some (.failed (updateFailure safeError e))
  | .dropGraph datasourceId _ =>
    some (.failed (.delete s!"数据源 {datasourceId} 的图删除失败，删除已中止：{safeError e}"))
  | .deleteRow _ _ => some (.failed (deleteFailure safeError e))
  | .cleanup [] => none
  | .cleanup (_ :: pending) => some (.cleanup pending)
  | .deleteSecret _ _ loop => some (afterDeletion loop (some e))
  | .done | .failed _ => none

def Task.step (w : World) (t : Task) : Reply → Option (World × Task)
  | .returns uuid => t.returned safeError uuid w
  | .raises e => (t.raised safeError e).map fun t' => (w, t')

end Steps

/-! ## Runs -/

structure System where
  world : World
  tasks : List Task
  deriving DecidableEq, Repr

/-- The operations as they begin. -/
inductive Task.Begins : Task → Prop where
  | create (request : SecureDatasourceCreate) :
      Begins (.materialize (.create request) [] request.connectionProfile.references)
  | update (datasourceId : String) (candidate : ConnectionProfile) :
      Begins (.resolveUpdated datasourceId candidate)
  | delete (datasourceId : String) : Begins (.resolveDeleted datasourceId)
  | deleteSecret (secret : String) : Begins (.deleteSecret .exists_ secret none)

/-- An operation begins or makes its next call, or a secret is created. The call is one that is allowed
among the operations of the moment. -/
inductive System.Step (safeError : Failure → String) (allowed : List Task → Task → Prop) :
    System → System → Prop where
  | begin {w : World} {ts : List Task} {t : Task} (h : t.Begins) :
      Step safeError allowed ⟨w, ts⟩ ⟨w, ts ++ [t]⟩
  | call {w w' : World} {ts : List Task} {t t' : Task} (i : Nat) (reply : Reply)
      (hi : ts[i]? = some t) (hallowed : allowed ts t)
      (h : t.step safeError w reply = some (w', t')) :
      Step safeError allowed ⟨w, ts⟩ ⟨w', ts.set i t'⟩
  | createSecret {w : World} {ts : List Task} (secret : String) (h : isSecretId secret) :
      Step safeError allowed ⟨w, ts⟩ ⟨{ w with secrets := w.secrets ++ [secret] }, ts⟩

abbrev System.Reaches (safeError : Failure → String) (allowed : List Task → Task → Prop) :
    System → System → Prop :=
  Relation.ReflTransGen (Step safeError allowed)

/-! ## Playing a schedule -/

inductive Move where
  | create (request : SecureDatasourceCreate)
  | update (datasourceId : String) (candidate : ConnectionProfile)
  | delete (datasourceId : String)
  | deleteSecret (secret : String)
  | call (i : Nat) (reply : Reply)
  | createSecret (secret : String)
  deriving DecidableEq, Repr

def System.play (safeError : Failure → String) (allowed : List Task → Task → Prop)
    [∀ ts t, Decidable (allowed ts t)] (sys : System) : Move → Option System
  | .create request => some { sys with tasks := sys.tasks ++
      [.materialize (.create request) [] request.connectionProfile.references] }
  | .update datasourceId candidate =>
    some { sys with tasks := sys.tasks ++ [.resolveUpdated datasourceId candidate] }
  | .delete datasourceId => some { sys with tasks := sys.tasks ++ [.resolveDeleted datasourceId] }
  | .deleteSecret secret =>
    some { sys with tasks := sys.tasks ++ [.deleteSecret .exists_ secret none] }
  | .call i reply =>
    match sys.tasks[i]? with
    | none => none
    | some t =>
      if allowed sys.tasks t then
        (t.step safeError sys.world reply).map fun next => ⟨next.1, sys.tasks.set i next.2⟩
      else none
  | .createSecret secret =>
    if isSecretId secret then
      some { sys with world := { sys.world with secrets := sys.world.secrets ++ [secret] } }
    else none

/-- **No stored profile names a secret that is not stored.** -/
def World.Linked (w : World) : Prop :=
  ∀ profile ∈ w.profiles, ∀ secret ∈ profile.managedSecretIds, secret ∈ w.secrets

instance (w : World) : Decidable w.Linked :=
  inferInstanceAs (Decidable (∀ profile ∈ w.profiles, ∀ secret ∈ profile.managedSecretIds, _))

end Connections
