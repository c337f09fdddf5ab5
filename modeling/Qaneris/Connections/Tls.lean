import Qaneris.Connections.Materializer

/-!
# TLS parameters

`TLS_DRIVER_MATRIX` says what each driver can be asked to do over TLS, and `TLSMaterializer` turns the
resolved material into the parameters of a driver: an `SSLContext`, or paths into a private directory.
The checks on certificates and what the `ssl` module accepts are parameters.
-/

namespace Connections

open Infra

/-! ## The matrix -/

inductive TLSStrategy where
  | sslContext
  | postgresFiles
  | sqlserverOdbc
  | mongodbFiles
  | redisFiles
  | clickhouseFiles
  | influxdbFiles
  | milvusFiles
  | systemTrustOnly
  deriving DecidableEq, Repr

structure TLSDriverSpec where
  driver : String
  strategy : TLSStrategy
  customCa : Bool
  mtls : Bool
  serverNameOverride : Bool
  tls13Control : Bool
  deriving DecidableEq, Repr

def tlsDriverMatrix : List TLSDriverSpec :=
  [⟨"postgresql", .postgresFiles, true, true, false, true⟩,
    ⟨"timescaledb", .postgresFiles, true, true, false, true⟩,
    ⟨"mysql", .sslContext, true, true, false, true⟩,
    ⟨"sqlserver", .sqlserverOdbc, false, false, true, false⟩,
    ⟨"mongodb", .mongodbFiles, true, true, false, false⟩,
    ⟨"redis", .redisFiles, true, true, false, true⟩,
    ⟨"couchdb", .sslContext, true, true, false, true⟩,
    ⟨"cassandra", .sslContext, true, true, true, true⟩,
    ⟨"clickhouse", .clickhouseFiles, true, true, true, false⟩,
    ⟨"elasticsearch", .sslContext, true, true, false, true⟩,
    ⟨"opensearch", .sslContext, true, true, true, true⟩,
    ⟨"influxdb", .influxdbFiles, true, true, false, false⟩,
    ⟨"neo4j", .sslContext, true, true, false, true⟩,
    ⟨"milvus", .milvusFiles, true, true, true, false⟩,
    ⟨"qdrant", .systemTrustOnly, false, false, false, false⟩,
    ⟨"weaviate", .sslContext, true, true, false, true⟩]

def tlsSpec (driver : String) : Option TLSDriverSpec :=
  tlsDriverMatrix.find? fun spec => spec.driver = driver

/-! ## Material -/

/-- The certificate validator, the `ssl` module and the file system. -/
structure TlsWorld where
  normalizeCa : String → Except ConnectionError String
  normalizeClientCertificate : String → Except ConnectionError String
  normalizePrivateKey : String → Option String → Except ConnectionError String
  validateClientPair : String → String → Except ConnectionError Unit
  /-- `load_verify_locations` and `load_cert_chain`. -/
  loadCa : String → Except ConnectionError Unit
  loadChain : String → String → Except ConnectionError Unit
  /-- A new private directory with the material in it. -/
  createDirectory : Except ConnectionError String

structure Material where
  caCertificate : Option String := none
  clientCertificate : Option String := none
  clientPrivateKey : Option String := none
  deriving DecidableEq, Repr

/-- What is not there is not normalized. -/
def normalizeGiven (text : Option String) (normalize : String → Except ConnectionError String) :
    Except ConnectionError (Option String) :=
  match text with
  | none => .ok none
  | some text => (normalize text).map some

variable (w : TlsWorld) (rules : Url.Rules)

/-- The pair is checked where both parts are there. -/
def validatePair : (certificate key : Option String) → Except ConnectionError Unit
  | some certificate, some key => w.validateClientPair certificate key
  | _, _ => .ok ()

/-- `_normalize_material` -/
def normalizeMaterial (c : ResolvedConnection) : Except ConnectionError Material := do
  let caCertificate ← normalizeGiven (c.tlsMaterial.get? "ca_certificate") w.normalizeCa
  let clientCertificate ←
    normalizeGiven (c.tlsMaterial.get? "client_certificate") w.normalizeClientCertificate
  let clientPrivateKey ← normalizeGiven (c.tlsMaterial.get? "client_private_key") fun key =>
    w.normalizePrivateKey key (c.tlsMaterial.get? "client_private_key_password")
  validatePair w clientCertificate clientPrivateKey
  .ok { caCertificate, clientCertificate, clientPrivateKey }

/-- `_endpoint_host` -/
def endpointHost (c : ResolvedConnection) : Except ConnectionError (Option String) :=
  match c.endpoint.hosts with
  | first :: _ => .ok (some first.host)
  | [] =>
    if given c.endpoint.url then
      match Url.urlsplit rules (c.endpoint.url.getD "").toList with
      | none => .error (.value "Invalid URL")
      | some parsed => .ok ((parsed.hostname rules).map String.ofList)
    else .ok none

/-- A driver that cannot check another name accepts the name of the endpoint only. -/
def validateServerName (spec : TLSDriverSpec) (c : ResolvedConnection) :
    Except ConnectionError Unit :=
  if c.serverName.isSome ∧ !spec.serverNameOverride then
    (endpointHost rules c).bind fun host =>
      if c.serverName ≠ host then
        .error (.featureUnsupported s!"driver {spec.driver} cannot override the TLS server name")
      else .ok ()
  else .ok ()

/-- `_validate_capabilities` -/
def validateCapabilities (spec : TLSDriverSpec) (c : ResolvedConnection) :
    Except ConnectionError Unit := do
  if (c.tlsMaterial.get? "ca_certificate").isSome ∧ !spec.customCa then
    throw (.featureUnsupported s!"driver {spec.driver} does not support a custom CA certificate")
  if ((c.tlsMaterial.get? "client_certificate").isSome ∨
      (c.tlsMaterial.get? "client_private_key").isSome) ∧ !spec.mtls then
    throw (.featureUnsupported
      s!"driver {spec.driver} does not support client certificate authentication")
  if c.minimumTlsVersion = .v13 ∧ !spec.tls13Control then
    throw (.featureUnsupported s!"driver {spec.driver} cannot enforce a TLS 1.3 minimum version")
  validateServerName rules spec c

def needsFiles (spec : TLSDriverSpec) (material : Material) : Bool :=
  if spec.strategy = .sslContext then material.clientCertificate.isSome
  else material.caCertificate.isSome ∨ material.clientCertificate.isSome ∨
    material.clientPrivateKey.isSome

/-- `_create_temp_directory`, where a driver needs a path. -/
def materialDirectory (spec : TLSDriverSpec) (material : Material) : Except ConnectionError String :=
  if needsFiles spec material then w.createDirectory else .ok ""

/-! ## Files and contexts -/

def caFile : String := "ca.pem"
def clientCertFile : String := "client-cert.pem"
def clientKeyFile : String := "client-key.pem"
def clientCombinedFile : String := "client-combined.pem"

/-- `str(Path(directory) / name)` -/
def inDirectory (directory name : String) : String := directory ++ "/" ++ name

/-- `load_verify_locations`, where there is a CA. -/
def loadGivenCa (ca : Option String) : Except ConnectionError Unit := ca.elim (.ok ()) w.loadCa

/-- `load_cert_chain`, where there is a client certificate. -/
def loadGivenChain (chain : Option (String × String)) : Except ConnectionError Unit :=
  chain.elim (.ok ()) fun paths => w.loadChain paths.1 paths.2

/-- `_build_ssl_context` -/
def buildSslContext (c : ResolvedConnection) (material : Material) (directory : String) :
    Except ConnectionError SslContext := do
  loadGivenCa w material.caCertificate
  let chain := material.clientCertificate.map fun _ =>
    (inDirectory directory clientCertFile, inDirectory directory clientKeyFile)
  loadGivenChain w chain
  .ok {
    minimumVersion := c.minimumTlsVersion
    verify := c.verifyServer
    cadata := material.caCertificate
    chain }

/-- The assignments for a CA certificate and for a client pair, where there is one. -/
def materialItems {α : Type} (material : Material) (ca pair : List α) : List α :=
  (if material.caCertificate.isSome then ca else [])
    ++ (if material.clientCertificate.isSome then pair else [])

/-! ## Schemes -/

/-- `_upgrade_scheme` -/
def upgradeScheme (url plain secure : String) : Except ConnectionError String :=
  match Url.urlsplit rules url.toList with
  | none => .error (.value "Invalid URL")
  | some parts =>
    if parts.scheme ≠ plain.toList then .ok url
    else .ok (String.ofList (Url.urlunsplit { parts with scheme := secure.toList }))

/-- `_downgrade_neo4j_scheme` -/
def downgradeNeo4jScheme (url : String) : Except ConnectionError String :=
  match Url.urlsplit rules url.toList with
  | none => .error (.value "Invalid URL")
  | some parts =>
    let base := parts.scheme.takeWhile (· ≠ '+')
    if base ≠ "bolt".toList ∧ base ≠ "neo4j".toList then .ok url
    else .ok (String.ofList (Url.urlunsplit { parts with scheme := base }))

/-- `_with_query` -/
def withQuery (url : String) (query : List (String × String)) : Except ConnectionError String :=
  match Url.urlsplit rules url.toList with
  | none => .error (.value "Invalid URL")
  | some parts =>
    let old : List (String × String) :=
      (Url.parseQsl rules parts.query).map fun p => (String.ofList p.1, String.ofList p.2)
    let merged := (Dict.update [] old).update query
    let query := Url.urlencode (merged.map fun p => (p.1.toList, p.2.toList))
    .ok (String.ofList (Url.urlunsplit { parts with query }))

/-- The URL of the endpoint under `f`, where it has one. -/
def rewrittenUrl (c : ResolvedConnection) (f : String → Except ConnectionError String) :
    Except ConnectionError (List (String × Value)) :=
  if given c.endpoint.url then (f (c.endpoint.url.getD "")).map fun url => [("url", .text url)]
  else .ok []

/-! ## The parameters of each strategy -/

/-- `_ssl_context_parameters` -/
def sslContextParameters (c : ResolvedConnection) (material : Material) (directory : String) :
    Except ConnectionError (List (String × Value)) := do
  let context ← buildSslContext w c material directory
  if c.driver = "mysql" then
    .ok [("ssl", .flag true), ("connect_args", .args [("ssl", .context context)])]
  else if c.driver = "neo4j" then
    let url ← rewrittenUrl c (downgradeNeo4jScheme rules)
    .ok ([("ssl", .flag true), ("ssl_context", .arg (.context context))] ++ url)
  else if c.driver = "elasticsearch" then
    .ok [("ssl", .flag true), ("ssl_context", .arg (.context context))]
  else if c.driver = "opensearch" then
    .ok [("ssl", .flag true), ("ssl_context", .arg (.context context)), ("use_ssl", .flag true),
      ("verify_certs", .flag c.verifyServer)]
  else if c.driver = "cassandra" then
    .ok ([("ssl", .flag true), ("ssl_context", .arg (.context context))] ++
      match c.serverName with
      | some name => [("ssl_options", .args [("server_hostname", .text name)])]
      | none => [])
  else
    let url ← rewrittenUrl c fun url => upgradeScheme rules url "http" "https"
    .ok ([("ssl", .flag true), ("ssl_context", .arg (.context context))] ++ url)

/-- `_postgres_parameters` -/
def postgresParameters (c : ResolvedConnection) (material : Material) (directory : String) :
    List (String × Value) :=
  [("connect_args", .args
    ([("sslmode", .text (if c.verifyServer then "verify-full" else "require")),
      ("ssl_min_protocol_version", .text ("TLSv" ++ c.minimumTlsVersion.text))] ++
      materialItems material [("sslrootcert", .text (inDirectory directory caFile))]
        [("sslcert", .text (inDirectory directory clientCertFile)),
          ("sslkey", .text (inDirectory directory clientKeyFile))]))]

/-- `_sqlserver_parameters` -/
def sqlserverParameters (c : ResolvedConnection) : Except ConnectionError (List (String × Value)) := do
  let url ← sqlalchemyUrl rules c
  let query := [("Encrypt", "yes"), ("TrustServerCertificate", if c.verifyServer then "no" else "yes")]
    ++ (match c.serverName with
      | some name => [("HostNameInCertificate", name)]
      | none => [])
  let url ← withQuery rules url query
  .ok [("url", .text url)]

/-- `_mongodb_parameters` -/
def mongodbParameters (c : ResolvedConnection) (material : Material) (directory : String) :
    List (String × Value) :=
  [("tls", .flag true), ("tlsAllowInvalidCertificates", .flag !c.verifyServer),
    ("tlsAllowInvalidHostnames", .flag !c.verifyServer)] ++
    materialItems material [("tlsCAFile", .text (inDirectory directory caFile))]
      [("tlsCertificateKeyFile", .text (inDirectory directory clientCombinedFile))]

/-- `_redis_parameters` -/
def redisParameters (c : ResolvedConnection) (material : Material) (directory : String) :
    Except ConnectionError (List (String × Value)) := do
  let url ← rewrittenUrl c fun url => upgradeScheme rules url "redis" "rediss"
  .ok ([("ssl", .flag true), ("ssl_cert_reqs", .arg (.certificates c.verifyServer)),
      ("ssl_check_hostname", .flag c.verifyServer),
      ("ssl_min_version", .arg (.version c.minimumTlsVersion))] ++
    materialItems material [("ssl_ca_certs", .text (inDirectory directory caFile))]
      [("ssl_certfile", .text (inDirectory directory clientCertFile)),
        ("ssl_keyfile", .text (inDirectory directory clientKeyFile))] ++ url)

/-- `_clickhouse_parameters` -/
def clickhouseParameters (c : ResolvedConnection) (material : Material) (directory : String) :
    List (String × Value) :=
  [("connect_args", .args
    ([("secure", .flag true), ("verify", .flag c.verifyServer)] ++
      materialItems material [("ca_cert", .text (inDirectory directory caFile))]
        [("client_cert", .text (inDirectory directory clientCertFile)),
          ("client_cert_key", .text (inDirectory directory clientKeyFile)),
          ("tls_mode", .text "mutual")] ++
      match c.serverName with
      | some name => [("server_host_name", .text name)]
      | none => []))]

/-- `_influxdb_parameters` -/
def influxdbParameters (c : ResolvedConnection) (material : Material) (directory : String) :
    Except ConnectionError (List (String × Value)) := do
  let url ← rewrittenUrl c fun url => upgradeScheme rules url "http" "https"
  .ok ([("verify_ssl", .flag c.verifyServer), ("cert_key_password", .json .null)] ++
    materialItems material [("ssl_ca_cert", .text (inDirectory directory caFile))]
      [("cert_file", .text (inDirectory directory clientCertFile)),
        ("cert_key_file", .text (inDirectory directory clientKeyFile))] ++ url)

/-- `_milvus_parameters` -/
def milvusParameters (c : ResolvedConnection) (material : Material) (directory : String) :
    Except ConnectionError (List (String × Value)) := do
  let url ← rewrittenUrl c fun url => upgradeScheme rules url "http" "https"
  .ok ([("secure", .flag true)] ++ url ++
    materialItems material [("ca_pem_path", .text (inDirectory directory caFile))]
      [("client_pem_path", .text (inDirectory directory clientCertFile)),
        ("client_key_path", .text (inDirectory directory clientKeyFile))] ++
    assignGiven "server_name" c.serverName)

/-- `_system_trust_parameters` -/
def systemTrustParameters (c : ResolvedConnection) : Except ConnectionError (List (String × Value)) := do
  let url ← rewrittenUrl c fun url => upgradeScheme rules url "http" "https"
  .ok ([("https", .flag true), ("verify", .flag c.verifyServer)] ++ url)

/-- `_adapter_parameters` -/
def adapterParameters (spec : TLSDriverSpec) (c : ResolvedConnection) (material : Material)
    (directory : String) : Except ConnectionError (List (String × Value)) :=
  match spec.strategy with
  | .sslContext => sslContextParameters w rules c material directory
  | .postgresFiles => .ok (postgresParameters c material directory)
  | .sqlserverOdbc => sqlserverParameters rules c
  | .mongodbFiles => .ok (mongodbParameters c material directory)
  | .redisFiles => redisParameters rules c material directory
  | .clickhouseFiles => .ok (clickhouseParameters c material directory)
  | .influxdbFiles => influxdbParameters rules c material directory
  | .milvusFiles => milvusParameters rules c material directory
  | .systemTrustOnly => systemTrustParameters rules c

/-- `TLSMaterializer.materialize`; the directory is empty where no file is needed. -/
def materializeTls (c : ResolvedConnection) : Except ConnectionError (List (String × Value)) :=
  if !c.tlsEnabled then .ok []
  else
    match tlsSpec c.driver with
    | none => .error (.featureUnsupported s!"driver {c.driver} is not in the TLS driver matrix")
    | some spec => do
      validateCapabilities rules spec c
      let material ← normalizeMaterial w c
      let directory ← materialDirectory w spec material
      adapterParameters w rules spec c material directory

/-! ## The provider -/

/-- `DatasourceConnectionProvider.open_profile`: the dictionary inside the block. -/
def openProfile (resolve : SecretReference → Except ConnectionError String)
    (profile : ConnectionProfile) : Except ConnectionError (Dict Value) := do
  let resolved ← materialize resolve profile
  let tlsParameters ← materializeTls w rules resolved
  let connection ← toAdapterConnection rules resolved
  .ok (connection.update tlsParameters)

end Connections
