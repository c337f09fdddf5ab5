import Qaneris.Connections.Store
import Qaneris.Contracts.AskEvents
import Qaneris.Infra.Aead
import Qaneris.Infra.Base64
import Qaneris.Infra.Utf8

/-!
# The managed credential store

`ManagedCredentialStore`: one encrypted document for each secret. The files of the store are what anybody may
have made of them; encryption is ideal. What an identifier, a nonce and a time are drawn from is left open.
-/

namespace Connections

open Infra

inductive ManagedSecretKind where
  | password
  | token
  | apiKey
  | caCertificate
  | clientCertificate
  | clientPrivateKey
  | clientPrivateKeyPassword
  deriving DecidableEq, Repr

namespace ManagedSecretKind

def value : ManagedSecretKind → String
  | password => "password"
  | token => "token"
  | apiKey => "api_key"
  | caCertificate => "ca_certificate"
  | clientCertificate => "client_certificate"
  | clientPrivateKey => "client_private_key"
  | clientPrivateKeyPassword => "client_private_key_password"

/-- `ManagedSecretKind(value)`; none where it raises a `ValueError`. -/
def ofValue? (value : Option Json) : Option ManagedSecretKind :=
  match value with
  | some (.str text) =>
    [password, token, apiKey, caCertificate, clientCertificate, clientPrivateKey,
      clientPrivateKeyPassword].find? fun kind => kind.value = text
  | _ => none

end ManagedSecretKind

/-! ## What a document may hold -/

/-- `_FORBIDDEN_METADATA_KEYS` -/
def forbiddenMetadataKeys : List String :=
  ["api_key", "certificate", "ciphertext", "client_certificate", "client_private_key", "credential", "master_key",
    "nonce", "passphrase", "passwd", "password", "plaintext", "private_key", "secret", "token", "value"]

mutual

/-- What `ManagedSecretInfo.reject_secret_material` finds. -/
def hasSecretMaterial : Json → Bool
  | .obj fields => fieldsHaveSecretMaterial fields
  | .arr items => itemsHaveSecretMaterial items
  | .str text => ["-----BEGIN", "PRIVATE KEY"].any fun marker => marker.toList <:+: text.toList
  | _ => false

def itemsHaveSecretMaterial : List Json → Bool
  | [] => false
  | item :: items => hasSecretMaterial item || itemsHaveSecretMaterial items

def fieldsHaveSecretMaterial : List (String × Json) → Bool
  | [] => false
  | (key, child) :: fields =>
    decide (Contracts.normalizedKey key ∈ forbiddenMetadataKeys) || hasSecretMaterial child ||
      fieldsHaveSecretMaterial fields

end

mutual

/-- The text of the value can be read and written: no integer has more than 4300 digits, and the nesting is not
deeper than the interpreter allows. -/
def fits (depth : Nat) : Json → Bool
  | .int n => n.natAbs.repr.length ≤ 4300
  | .arr items => 0 < depth && itemsFit (depth - 1) items
  | .obj fields => 0 < depth && fieldsFit (depth - 1) fields
  | _ => true

def itemsFit (depth : Nat) : List Json → Bool
  | [] => true
  | item :: items => fits depth item && itemsFit depth items

def fieldsFit (depth : Nat) : List (String × Json) → Bool
  | [] => true
  | (_, child) :: fields => fits depth child && fieldsFit depth fields

end

/-! ## The store -/

/-- A file of the store. -/
inductive StoredFile where
  /-- Reading it raises an `OSError`. -/
  | denied
  /-- Its bytes are no UTF-8, or its text is no JSON. -/
  | unreadable
  | json (value : Json)
  deriving DecidableEq, Repr

inductive SecretError where
  /-- `ManagedSecretNotFoundError` -/
  | notFound
  /-- `ManagedSecretIntegrityError` -/
  | integrity
  /-- Any other exception. -/
  | other
  deriving DecidableEq, Repr

/-- What `create` draws: `uuid4`, `urandom` and the time. -/
structure Draw where
  id : String
  id_form : isSecretId id = true
  nonce : List UInt8
  nonce_length : nonce.length = 12
  createdAt : String
  deriving DecidableEq, Repr

/-- The files of the store, with what was encrypted, and the texts that were created under their identifiers. -/
structure SecretWorld where
  files : String → Option StoredFile := fun _ => none
  log : List (Sealed String) := []
  created : List (String × String) := []

structure ManagedCredentialStore where
  aead : Aead String
  /-- How deep `json` reads and writes. -/
  maxDepth : Nat

namespace ManagedCredentialStore

variable (store : ManagedCredentialStore) (w : SecretWorld)

/-- `_aad` -/
def aad (secretId : String) (kind : ManagedSecretKind) : String :=
  "qaneris-managed-secret-v1|" ++ secretId ++ "|" ++ kind.value

/-- The document that is written for a secret. -/
def document (kind : ManagedSecretKind) (metadata : List (String × Json)) (draw : Draw) (ciphertext : List UInt8) :
    List (String × Json) :=
  [("algorithm", .str "AES-256-GCM"), ("ciphertext", .str (String.ofList (Base64.encode ciphertext))),
    ("created_at", .str draw.createdAt), ("id", .str draw.id), ("kind", .str kind.value),
    ("metadata", .obj metadata), ("nonce", .str (String.ofList (Base64.encode draw.nonce))), ("version", .int 1)]

/-- `create` -/
def create (kind : ManagedSecretKind) (plaintext : String) (metadata : List (String × Json)) (draw : Draw) :
    Except SecretError SecretWorld :=
  if hasSecretMaterial (.obj metadata) then .error .other
  else
    let bytes := utf8Encode plaintext.toList
    let ciphertext := store.aead.encrypt draw.nonce bytes (aad draw.id kind)
    let written := Json.obj (document kind metadata draw ciphertext)
    if fits store.maxDepth written then
      .ok { files := fun id => if id = draw.id then some (.json written) else w.files id
            log := w.log ++ [⟨draw.nonce, aad draw.id kind, bytes, ciphertext⟩]
            created := w.created ++ [(draw.id, plaintext)] }
    else .error .other

/-- `delete` -/
def delete (secretId : String) : Except SecretError SecretWorld :=
  if isSecretId secretId ∧ (w.files secretId).isSome then
    .ok { w with files := fun id => if id = secretId then none else w.files id }
  else .error .notFound

/-- `document.get(name)`; the last member of a name counts. -/
def member (fields : List (String × Json)) (name : String) : Option Json := fields.reverse.lookup name

/-- `json.loads` -/
def loads (value : Json) : Except SecretError Json := if fits store.maxDepth value then .ok value else .error .other

/-- A number or a truth value that equals the version of the format. -/
def isVersion : Option Json → Bool
  | some (.int n) => n = 1
  | some (.real q) => q = 1
  | some (.bool b) => b
  | _ => false

/-- `_read_document` -/
def readDocument (secretId : String) : Except SecretError (List (String × Json)) :=
  if isSecretId secretId then
    match w.files secretId with
    | none => .error .notFound
    | some .denied => .error .integrity
    | some .unreadable => .error .integrity
    | some (.json value) => do
      match ← store.loads value with
      | .obj fields =>
        if !isVersion (member fields "version") then .error .integrity
        else if member fields "algorithm" ≠ some (.str "AES-256-GCM") then .error .integrity
        else if member fields "id" ≠ some (.str secretId) then .error .integrity
        else .ok fields
      | _ => .error .integrity
  else .error .notFound

/-- `_document_kind` -/
def documentKind (fields : List (String × Json)) : Except SecretError ManagedSecretKind :=
  match ManagedSecretKind.ofValue? (member fields "kind") with
  | some kind => .ok kind
  | none => .error .integrity

/-- `_decode` -/
def decodeField (value : Option Json) (expectedLength : Option Nat) : Except SecretError (List UInt8) :=
  match value with
  | some (.str text) =>
    match Base64.decode text.toList with
    | none => .error .integrity
    | some decoded =>
      if expectedLength.any (· ≠ decoded.length) then .error .integrity
      else if decoded = [] then .error .integrity
      else .ok decoded
  | _ => .error .integrity

/-- `plaintext.decode("utf-8")` -/
def decodeText (bytes : List UInt8) : Except SecretError String :=
  match decodeBytes [] bytes with
  | (text, []) => .ok (String.ofList text)
  | _ => .error .other

/-- `resolve` -/
def resolve (secretId : String) : Except SecretError String := do
  let fields ← store.readDocument w secretId
  let kind ← documentKind fields
  let ciphertext ← decodeField (member fields "ciphertext") none
  let nonce ← decodeField (member fields "nonce") (some 12)
  match Aead.decrypt w.log nonce ciphertext (aad secretId kind) with
  | none => .error .integrity
  | some plaintext => decodeText plaintext

/-! ## Runs -/

/-- A call of the store, or somebody who puts other files in its directory. -/
inductive Action where
  | create (kind : ManagedSecretKind) (plaintext : String) (metadata : List (String × Json)) (draw : Draw)
  | delete (secretId : String)
  | tamper (files : String → Option StoredFile)

def Action.drawn : Action → Option String
  | create _ _ _ draw => some draw.id
  | _ => none

/-- A call that raises leaves the store as it is. -/
def next : Action → SecretWorld
  | .create kind plaintext metadata draw => (store.create w kind plaintext metadata draw).toOption.getD w
  | .delete secretId => (delete w secretId).toOption.getD w
  | .tamper files => { w with files }

def after (actions : List Action) : SecretWorld := actions.foldl store.next {}

/-- The identifiers that were drawn are distinct. -/
def Fresh (actions : List Action) : Prop := (actions.filterMap Action.drawn).Nodup

instance (actions : List Action) : Decidable (Fresh actions) := inferInstanceAs (Decidable (List.Nodup _))

end ManagedCredentialStore

end Connections
