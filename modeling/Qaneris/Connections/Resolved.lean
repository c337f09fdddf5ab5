import Qaneris.Connections.Profile

/-!
# Resolved connections

`SecretResolver.materialize`: the references of a profile are resolved in their order, and the rest of it
is carried over.
-/

namespace Connections

open Infra

/-- What keeps a connection from being opened. -/
inductive ConnectionError where
  | featureUnsupported (message : String)
  | materialization (message : String)
  /-- `ValueError`, of a locator or a secret. -/
  | value (message : String)
  /-- Any other exception of a provider or the file system. -/
  | other (message : String)
  deriving DecidableEq, Repr

structure ResolvedConnection where
  driver : String
  endpoint : ConnectionEndpoint
  username : Option String
  secrets : Dict String
  tlsEnabled : Bool
  verifyServer : Bool
  serverName : Option String
  minimumTlsVersion : TLSVersion
  tlsMaterial : Dict String
  options : Dict Json
  deriving DecidableEq, Repr

/-- The texts of the references that are set, each under its name. -/
def resolveAll (resolve : SecretReference → Except ConnectionError String) :
    List (String × Option SecretReference) → Except ConnectionError (Dict String)
  | [] => .ok []
  | (_, none) :: references => resolveAll resolve references
  | (name, some reference) :: references => do
    let text ← resolve reference
    let rest ← resolveAll resolve references
    .ok ((name, text) :: rest)

def AuthenticationConfig.references (config : AuthenticationConfig) :
    List (String × Option SecretReference) :=
  [("password", config.password), ("token", config.token), ("api_key", config.apiKey),
    ("private_key", config.privateKey), ("service_account", config.serviceAccount)]

def TLSConfig.references (tls : TLSConfig) : List (String × Option SecretReference) :=
  [("ca_certificate", tls.caCertificate), ("client_certificate", tls.clientCertificate),
    ("client_private_key", tls.clientPrivateKey),
    ("client_private_key_password", tls.clientPrivateKeyPassword)]

/-- `SecretResolver.materialize` -/
def materialize (resolve : SecretReference → Except ConnectionError String)
    (profile : ConnectionProfile) : Except ConnectionError ResolvedConnection := do
  let secrets ← resolveAll resolve profile.authentication.references
  let tlsMaterial ← resolveAll resolve profile.tls.references
  .ok {
    driver := profile.driver
    endpoint := profile.endpoint
    username := profile.authentication.username
    secrets
    tlsEnabled := profile.tls.enabled
    verifyServer := profile.tls.verifyServer
    serverName := profile.tls.serverName
    minimumTlsVersion := profile.tls.minimumVersion
    tlsMaterial
    options := profile.options }

/-! ## What an adapter is given -/

/-- `ssl.SSLContext` as the materializer sets it up. -/
structure SslContext where
  minimumVersion : TLSVersion
  /-- `CERT_REQUIRED` with `check_hostname`, or neither. -/
  verify : Bool
  cadata : Option String
  /-- The paths of the client certificate and its key. -/
  chain : Option (String × String)
  deriving DecidableEq, Repr

inductive Arg where
  | json (v : Json)
  | context (c : SslContext)
  /-- `ssl.CERT_REQUIRED` or `ssl.CERT_NONE` -/
  | certificates (required : Bool)
  /-- `ssl.TLSVersion` -/
  | version (v : TLSVersion)
  deriving DecidableEq

/-- A value of the adapter dictionary; `connect_args` and `ssl_options` are dictionaries themselves. -/
inductive Value where
  | arg (a : Arg)
  | args (items : Dict Arg)
  deriving DecidableEq

def Arg.text (s : String) : Arg := .json (.str s)
def Arg.flag (b : Bool) : Arg := .json (.bool b)
def Arg.textOrNone (s : Option String) : Arg := .json (s.elim .null .str)

def Value.text (s : String) : Value := .arg (.text s)
def Value.flag (b : Bool) : Value := .arg (.flag b)
def Value.json (v : Json) : Value := .arg (.json v)

end Connections
