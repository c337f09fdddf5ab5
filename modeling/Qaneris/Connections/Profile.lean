import Qaneris.Infra.Dict
import Qaneris.Infra.Json
import Qaneris.Infra.Url

/-!
# Connection profiles and the secrets they name

A profile says where a server is, how to authenticate and what its transport has to be. It names its
secrets by references, and its options are any JSON object without the name of a secret in it.
-/

namespace Connections

open Infra

inductive SecretProviderKind where
  | environment
  | file
  /-- A secret of the managed credential store. -/
  | managed
  deriving DecidableEq, Repr

structure SecretReference where
  provider : SecretProviderKind
  identifier : String
  deriving DecidableEq, Repr

/-! ## The endpoint -/

structure HostPort where
  host : String
  port : Option Nat := none
  deriving DecidableEq, Repr

structure ConnectionEndpoint where
  hosts : List HostPort := []
  path : Option String := none
  url : Option String := none
  database : Option String := none
  /-- `namespace` -/
  space : Option String := none
  project : Option String := none
  account : Option String := none
  deriving DecidableEq, Repr

/-- A text that is set and not empty. -/
def given (text : Option String) : Bool := text.any (· ≠ "")

def HostPort.validate (item : HostPort) : Except String Unit :=
  if item.host = "" then .error "String should have at least 1 character"
  else if item.port.any fun port => port < 1 ∨ 65535 < port then .error "Input should be a port"
  else .ok ()

def ConnectionEndpoint.validateLocator (rules : Url.Rules) (endpoint : ConnectionEndpoint) :
    Except String Unit :=
  if endpoint.hosts = [] ∧ !given endpoint.path ∧ !given endpoint.url then
    .error "connection endpoint requires hosts, path, or url"
  else
    match endpoint.url with
    | some url =>
      if url = "" then .ok ()
      else
        match Url.urlsplit rules url.toList with
        | none => .error "Invalid URL"
        | some parsed =>
          if parsed.userinfo.isSome then .error "connection url cannot contain credentials" else .ok ()
    | none => .ok ()

/-! ## Authentication and transport -/

inductive AuthenticationMethod where
  | none
  | password
  | token
  | apiKey
  | clientCertificate
  | serviceAccount
  | privateKey
  | cloudIdentity
  deriving DecidableEq, Repr

def AuthenticationMethod.value : AuthenticationMethod → String
  | .none => "none"
  | .password => "password"
  | .token => "token"
  | .apiKey => "api_key"
  | .clientCertificate => "client_certificate"
  | .serviceAccount => "service_account"
  | .privateKey => "private_key"
  | .cloudIdentity => "cloud_identity"

structure AuthenticationConfig where
  password : Option SecretReference := none
  token : Option SecretReference := none
  apiKey : Option SecretReference := none
  privateKey : Option SecretReference := none
  serviceAccount : Option SecretReference := none
  method : AuthenticationMethod := .none
  username : Option String := none
  deriving DecidableEq, Repr

def AuthenticationConfig.validateRequiredSecret (config : AuthenticationConfig) : Except String Unit :=
  let missing :=
    match config.method with
    | .password => config.password.isNone
    | .token => config.token.isNone
    | .apiKey => config.apiKey.isNone
    | .privateKey => config.privateKey.isNone
    | .serviceAccount => config.serviceAccount.isNone
    | .none | .clientCertificate | .cloudIdentity => false
  if missing then
    .error s!"authentication method {config.method.value} requires its secret reference"
  else .ok ()

inductive TLSVersion where
  | v12
  | v13
  deriving DecidableEq, Repr

def TLSVersion.text : TLSVersion → String
  | .v12 => "1.2"
  | .v13 => "1.3"

structure TLSConfig where
  caCertificate : Option SecretReference := none
  clientCertificate : Option SecretReference := none
  clientPrivateKey : Option SecretReference := none
  clientPrivateKeyPassword : Option SecretReference := none
  enabled : Bool := false
  verifyServer : Bool := true
  serverName : Option String := none
  minimumVersion : TLSVersion := .v12
  deriving DecidableEq, Repr

/-- The three validators: a client pair comes together, material only with TLS, and a password only with
the pair it unlocks. -/
def TLSConfig.validate (tls : TLSConfig) : Except String Unit :=
  let material := [("ca_certificate", tls.caCertificate), ("client_certificate", tls.clientCertificate),
    ("client_private_key", tls.clientPrivateKey),
    ("client_private_key_password", tls.clientPrivateKeyPassword)]
  let configured := (material.filter fun item => item.2.isSome).map Prod.fst
  if tls.clientCertificate.isNone ≠ tls.clientPrivateKey.isNone then
    .error "client certificate and private key must be configured together"
  else if !tls.enabled ∧ configured ≠ [] then
    .error ("tls material requires tls enabled: " ++ ", ".intercalate configured)
  else if tls.clientPrivateKeyPassword.isSome ∧ tls.clientCertificate.isNone then
    .error "client private key password requires a client certificate and private key"
  else .ok ()

/-! ## The profile -/

structure ConnectionProfile where
  driver : String
  endpoint : ConnectionEndpoint
  authentication : AuthenticationConfig := {}
  tls : TLSConfig := {}
  options : Dict Json := []
  deriving DecidableEq, Repr

/-- The names that no key of the options may have, in any case. -/
def sensitiveNames : List String :=
  ["password", "passwd", "token", "api_key", "apikey", "secret", "private_key", "service_account"]

def isSensitive (rules : Url.Rules) (name : String) : Bool :=
  String.ofList (rules.lower name.toList) ∈ sensitiveNames

mutual

/-- `contains_sensitive_key` -/
def containsSensitiveKey (rules : Url.Rules) : Json → Bool
  | .obj fields => anySensitiveField rules fields
  | .arr items => anySensitiveItem rules items
  | .null | .bool _ | .int _ | .real _ | .str _ => false

def anySensitiveField (rules : Url.Rules) : List (String × Json) → Bool
  | [] => false
  | (name, child) :: fields =>
    (isSensitive rules name || containsSensitiveKey rules child) || anySensitiveField rules fields

def anySensitiveItem (rules : Url.Rules) : List Json → Bool
  | [] => false
  | item :: items => containsSensitiveKey rules item || anySensitiveItem rules items

end

/-- `reject_secrets_in_options` -/
def ConnectionProfile.rejectSecretsInOptions (rules : Url.Rules) (profile : ConnectionProfile) :
    Except String Unit :=
  if anySensitiveField rules profile.options then
    .error "connection options cannot contain inline secrets"
  else .ok ()

def validateDriver (driver : String) : Except String Unit :=
  if driver = "" then .error "String should have at least 1 character" else .ok ()

/-- What constructing a profile checks. -/
def ConnectionProfile.validate (rules : Url.Rules) (profile : ConnectionProfile) : Except String Unit := do
  validateDriver profile.driver
  profile.endpoint.hosts.forM HostPort.validate
  profile.endpoint.validateLocator rules
  profile.authentication.validateRequiredSecret
  profile.tls.validate
  profile.rejectSecretsInOptions rules

namespace ConnectionProfile

variable (profile : ConnectionProfile)

/-- `_reference_fields`, and the order in which `SecretResolver.materialize` resolves them. -/
def referenceFields : List (Option SecretReference) :=
  [profile.authentication.password, profile.authentication.token, profile.authentication.apiKey,
    profile.authentication.privateKey, profile.authentication.serviceAccount,
    profile.tls.caCertificate, profile.tls.clientCertificate, profile.tls.clientPrivateKey,
    profile.tls.clientPrivateKeyPassword]

/-- The references that are set. -/
def references : List SecretReference := profile.referenceFields.filterMap id

/-- `managed_secret_references` -/
def managedSecretReferences : List SecretReference :=
  profile.references.filter fun reference => reference.provider = .managed

/-- `managed_secret_ids` -/
def managedSecretIds : List String :=
  (profile.managedSecretReferences.map SecretReference.identifier).eraseDups

end ConnectionProfile

/-- The managed secrets among the references. -/
def managedIds (references : List SecretReference) : List String :=
  (references.filter fun reference => reference.provider = .managed).map SecretReference.identifier

theorem mem_managedSecretIds {profile : ConnectionProfile} {secret : String} :
    secret ∈ profile.managedSecretIds ↔ secret ∈ managedIds profile.references :=
  List.mem_eraseDups

/-! ## Requests -/

structure SecureDatasourceCreate where
  name : String
  kind : String
  connectionProfile : ConnectionProfile
  workspaceId : String := "default"
  deriving DecidableEq, Repr

/-- `connection_json`. A document may claim to be a profile and not parse as one. -/
inductive StoredConnection where
  | legacy
  | secure (profile : ConnectionProfile)
  | unreadable
  deriving DecidableEq, Repr

def StoredConnection.profile : StoredConnection → Option ConnectionProfile
  | .secure profile => some profile
  | .legacy | .unreadable => none

structure Row where
  id : String
  name : String
  kind : String
  workspaceId : String
  connection : StoredConnection
  status : String := "created"
  deriving DecidableEq, Repr

end Connections
