import Mathlib.Data.List.Infix
import Qaneris.Infra.Dict
import Qaneris.Connections.Profile

/-!
# The connection documents of the catalog

The catalog stores one JSON document for a datasource: the raw document of a request, or a profile
under a format of its own. Raw documents are searched for secrets when they are written; of a profile
that is left to its own checks.
-/

namespace Connections

open Infra

/-! ## The search for secrets -/

/-- `_SENSITIVE_KEYS` -/
def sensitiveKeys : List String :=
  ["password", "passwd", "token", "api_key", "apikey", "secret", "private_key", "service_account",
    "client_private_key", "client_certificate", "ca_certificate"]

/-- `key.lower() in names` -/
def lowerIn (rules : Url.Rules) (key : String) (names : List String) : Bool :=
  String.ofList (rules.lower key.toList) ∈ names

def locatorKeys : List String := ["url", "uri", "connection_string"]

/-- What a text tells as a URL: a password in front of the host, or, where it cannot be split, the key
under which it stands. -/
def urlSecret (rules : Url.Rules) (key text : String) : Bool :=
  if "://".toList <:+: text.toList then
    match Url.urlsplit rules text.toList with
    | some parts => parts.password.isSome
    | none => lowerIn rules key locatorKeys
  else false

mutual

/-- `contains_inline_secret` -/
def containsInlineSecret (rules : Url.Rules) (key : String) : Json → Bool
  | .null => false
  | .str text => (lowerIn rules key sensitiveKeys && text ≠ "") || urlSecret rules key text
  | .bool _ | .int _ | .real _ => lowerIn rules key sensitiveKeys
  | .obj fields => lowerIn rules key sensitiveKeys || anyFieldSecret rules fields
  | .arr items => lowerIn rules key sensitiveKeys || anyItemSecret rules key items

def anyFieldSecret (rules : Url.Rules) : List (String × Json) → Bool
  | [] => false
  | (name, child) :: fields => containsInlineSecret rules name child || anyFieldSecret rules fields

def anyItemSecret (rules : Url.Rules) (key : String) : List Json → Bool
  | [] => false
  | item :: items => containsInlineSecret rules key item || anyItemSecret rules key items

end

/-! ## `model_dump(mode="json")` -/

inductive DeploymentMode where
  | local
  | cloud
  | managed
  deriving DecidableEq, Repr

def DeploymentMode.value : DeploymentMode → String
  | .local => "local"
  | .cloud => "cloud"
  | .managed => "managed"

def SecretProviderKind.value : SecretProviderKind → String
  | .environment => "environment"
  | .file => "file"
  | .managed => "managed"

def SecretReference.fields (reference : SecretReference) : List (String × Json) :=
  [("provider", .str reference.provider.value), ("identifier", .str reference.identifier)]

def dumpText : Option String → Json
  | some text => .str text
  | none => .null

def dumpReference : Option SecretReference → Json
  | some reference => .obj reference.fields
  | none => .null

def HostPort.dump (item : HostPort) : Json :=
  .obj [("host", .str item.host),
    ("port", match item.port with | some port => .int port | none => .null)]

def ConnectionEndpoint.dump (endpoint : ConnectionEndpoint) : Json :=
  .obj [("hosts", .arr (endpoint.hosts.map HostPort.dump)), ("path", dumpText endpoint.path),
    ("url", dumpText endpoint.url), ("database", dumpText endpoint.database),
    ("namespace", dumpText endpoint.space), ("project", dumpText endpoint.project),
    ("account", dumpText endpoint.account)]

def AuthenticationConfig.dump (config : AuthenticationConfig) : Json :=
  .obj [("method", .str config.method.value), ("username", dumpText config.username),
    ("password", dumpReference config.password), ("token", dumpReference config.token),
    ("api_key", dumpReference config.apiKey), ("private_key", dumpReference config.privateKey),
    ("service_account", dumpReference config.serviceAccount)]

def TLSConfig.dump (tls : TLSConfig) : Json :=
  .obj [("enabled", .bool tls.enabled), ("verify_server", .bool tls.verifyServer),
    ("server_name", dumpText tls.serverName), ("minimum_version", .str tls.minimumVersion.text),
    ("ca_certificate", dumpReference tls.caCertificate),
    ("client_certificate", dumpReference tls.clientCertificate),
    ("client_private_key", dumpReference tls.clientPrivateKey),
    ("client_private_key_password", dumpReference tls.clientPrivateKeyPassword)]

/-- The deployment mode is a field of the profile that nothing else reads. -/
def ConnectionProfile.dump (mode : DeploymentMode) (profile : ConnectionProfile) : Json :=
  .obj [("driver", .str profile.driver), ("deployment_mode", .str mode.value),
    ("endpoint", profile.endpoint.dump), ("authentication", profile.authentication.dump),
    ("tls", profile.tls.dump), ("options", .obj profile.options)]

/-! ## The rows -/

def profileFormat : String := "connection_profile_v1"

/-- `stored` of a profile -/
def storedProfile (mode : DeploymentMode) (profile : ConnectionProfile) : Dict Json :=
  [("format", .str profileFormat), ("profile", profile.dump mode)]

structure DatasourceCreate where
  name : String
  kind : String
  connection : Dict Json
  workspaceId : String := "default"
  deriving DecidableEq, Repr

structure DatasourceRow where
  id : String
  workspaceId : String
  name : String
  kind : String
  connectionJson : Dict Json
  status : String := "created"
  deriving DecidableEq, Repr

/-- What the catalog raises on these paths. -/
inductive CatalogError where
  | value (message : String)
  | key (message : String)
  | integrity (message : String)
  | secureProfileRequired (message : String)
  deriving DecidableEq, Repr

/-- `_insert_datasource`, with the identifier that it draws. -/
def insertDatasource (datasourceId name kind workspaceId : String) (connection : Dict Json)
    (rows : List DatasourceRow) : Except CatalogError (List DatasourceRow) :=
  if rows.any fun row => row.id = datasourceId then
    .error (.integrity "UNIQUE constraint failed: datasource.id")
  else if rows.any fun row => row.workspaceId = workspaceId ∧ row.name = name then
    .error (.integrity "UNIQUE constraint failed: datasource.workspace_id, datasource.name")
  else .ok (rows ++ [{ id := datasourceId, workspaceId, name, kind, connectionJson := connection }])

/-- `create_datasource` -/
def createDatasource (rules : Url.Rules) (datasourceId : String) (data : DatasourceCreate)
    (rows : List DatasourceRow) : Except CatalogError (List DatasourceRow) :=
  if containsInlineSecret rules "" (.obj data.connection) then
    .error (.value "Catalog cannot persist inline connection secrets")
  else insertDatasource datasourceId data.name data.kind data.workspaceId data.connection rows

/-- `create_secure_datasource` -/
def createSecureDatasource (datasourceId : String) (mode : DeploymentMode)
    (data : SecureDatasourceCreate) (rows : List DatasourceRow) :
    Except CatalogError (List DatasourceRow) :=
  insertDatasource datasourceId data.name data.kind data.workspaceId
    (storedProfile mode data.connectionProfile) rows

/-- `update_secure_datasource` -/
def updateSecureDatasource (datasourceId : String) (mode : DeploymentMode)
    (profile : ConnectionProfile) (rows : List DatasourceRow) :
    Except CatalogError (List DatasourceRow) :=
  match rows.find? fun row => row.id = datasourceId with
  | none => .error (.key s!"Datasource not found: {datasourceId}")
  | some row =>
    if row.connectionJson.get? "format" = some (.str profileFormat) then
      .ok (rows.map fun row =>
        if row.id = datasourceId then
          { row with connectionJson := storedProfile mode profile, status := "created" }
        else row)
    else
      .error (.secureProfileRequired s!"datasource {datasourceId} has no secure connection profile")

/-! ## Runs -/

/-- A call that writes a connection document. -/
inductive DocumentWrite where
  | create (datasourceId : String) (data : DatasourceCreate)
  | createSecure (datasourceId : String) (mode : DeploymentMode) (data : SecureDatasourceCreate)
  | updateSecure (datasourceId : String) (mode : DeploymentMode) (profile : ConnectionProfile)

def validName (name : String) : Bool := 1 ≤ name.length ∧ name.length ≤ 100

/-- The request is what its contract accepts. -/
def DocumentWrite.Accepted (rules : Url.Rules) : DocumentWrite → Prop
  | .create _ data => validName data.name
  | .createSecure _ _ data => validName data.name ∧ data.connectionProfile.validate rules = .ok ()
  | .updateSecure _ _ profile => profile.validate rules = .ok ()

def DocumentWrite.apply (rules : Url.Rules) : DocumentWrite → List DatasourceRow →
    Except CatalogError (List DatasourceRow)
  | .create datasourceId data => createDatasource rules datasourceId data
  | .createSecure datasourceId mode data => createSecureDatasource datasourceId mode data
  | .updateSecure datasourceId mode profile => updateSecureDatasource datasourceId mode profile

/-- A call that fails leaves the rows as they are. -/
def DocumentWrite.next (rules : Url.Rules) (rows : List DatasourceRow) (write : DocumentWrite) :
    List DatasourceRow :=
  match write.apply rules rows with
  | .ok rows => rows
  | .error _ => rows

/-- The catalog after the calls, from an empty one. -/
def documentsAfter (rules : Url.Rules) (writes : List DocumentWrite) : List DatasourceRow :=
  writes.foldl (DocumentWrite.next rules) []

end Connections
