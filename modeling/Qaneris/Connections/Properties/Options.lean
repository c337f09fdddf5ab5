import Qaneris.Connections.Adapters
import Qaneris.Infra.Except

/-!
# What the options of a profile reach

The dictionary of an open connection is the options with assignments over them, and the assignments do
not depend on the options. So the options reach a key if and only if the profile assigns nothing to it.

* `openProfile_eq` — the options with the assignments of the profile over them
* `mem_ownKeys` — which keys a profile assigns
* `agree_iff` — when two profiles that differ in their options agree on the address, the identity and
  the transport
-/

namespace Connections

open Infra

/-! ## The keys -/

def addressKeys : List String := ["url", "uri", "hosts", "host", "port", "contact_points", "path"]

def identityKeys : List String :=
  ["username", "password", "token", "api_key", "private_key", "service_account"]

/-- The TLS keys that the materializer writes or an adapter reads. -/
def transportKeys : List String :=
  ["tls", "ssl", "use_ssl", "https", "secure", "ssl_context", "ssl_options", "connect_args",
    "tlsAllowInvalidCertificates", "tlsAllowInvalidHostnames", "tlsCAFile", "tlsCertificateKeyFile",
    "ssl_ca_certs", "ssl_certfile", "ssl_keyfile", "ssl_cert_reqs", "ssl_check_hostname",
    "ssl_min_version", "verify_ssl", "ssl_ca_cert", "cert_file", "cert_key_file", "cert_key_password",
    "ca_pem_path", "client_pem_path", "client_key_path", "server_name", "verify", "verify_certs",
    "verify_server", "minimum_tls_version"]

def securityKeys : List String := addressKeys ++ identityKeys ++ transportKeys

/-- The two dictionaries hold the same under these keys. -/
def Agree {β : Type} (keys : List String) (d d' : Dict β) : Prop :=
  ∀ key ∈ keys, d.get? key = d'.get? key

/-! ## What a profile assigns -/

def keyIf (b : Bool) (key : String) : List String := if b then [key] else []

/-- The keys of the endpoint and of what is derived from it. -/
def endpointKeys (driver : String) (endpoint : ConnectionEndpoint) : List String :=
  keyIf endpoint.path.isSome "path" ++ keyIf endpoint.url.isSome "url"
    ++ keyIf endpoint.database.isSome "database" ++ keyIf endpoint.space.isSome "namespace"
    ++ keyIf endpoint.project.isSome "project" ++ keyIf endpoint.account.isSome "account"
    ++ (match endpoint.hosts with
      | [] => []
      | first :: _ => ["hosts", "host"] ++ keyIf first.port.isSome "port"
        ++ keyIf (hostUrlDrivers.lookup driver).isSome "url")

def credentialKeys (authentication : AuthenticationConfig) : List String :=
  keyIf authentication.username.isSome "username"
    ++ (authentication.references.filter fun r => r.2.isSome).map Prod.fst

def cassandraKeys (driver : String) (endpoint : ConnectionEndpoint) : List String :=
  if driver = "cassandra" ∧ endpoint.hosts ≠ [] then
    "contact_points" :: keyIf (given endpoint.space) "keyspace"
  else []

/-- The keys of the TLS parameters: the strategy of the driver, the material that is configured, and a
URL that is rewritten. -/
def tlsKeys (driver : String) (endpoint : ConnectionEndpoint) (tls : TLSConfig) : List String :=
  let url := keyIf (given endpoint.url) "url"
  let pair (keys : List String) := if tls.clientCertificate.isSome then keys else []
  let ca (key : String) := keyIf tls.caCertificate.isSome key
  match (tlsSpec driver).map TLSDriverSpec.strategy with
  | some .sslContext =>
    if driver = "mysql" then ["ssl", "connect_args"]
    else if driver = "neo4j" then ["ssl", "ssl_context"] ++ url
    else if driver = "elasticsearch" then ["ssl", "ssl_context"]
    else if driver = "opensearch" then ["ssl", "ssl_context", "use_ssl", "verify_certs"]
    else if driver = "cassandra" then ["ssl", "ssl_context"] ++ keyIf tls.serverName.isSome "ssl_options"
    else ["ssl", "ssl_context"] ++ url
  | some .postgresFiles | some .clickhouseFiles => ["connect_args"]
  | some .sqlserverOdbc => ["url"]
  | some .mongodbFiles =>
    ["tls", "tlsAllowInvalidCertificates", "tlsAllowInvalidHostnames"] ++ ca "tlsCAFile"
      ++ pair ["tlsCertificateKeyFile"]
  | some .redisFiles =>
    ["ssl", "ssl_cert_reqs", "ssl_check_hostname", "ssl_min_version"] ++ ca "ssl_ca_certs"
      ++ pair ["ssl_certfile", "ssl_keyfile"] ++ url
  | some .influxdbFiles =>
    ["verify_ssl", "cert_key_password"] ++ ca "ssl_ca_cert" ++ pair ["cert_file", "cert_key_file"] ++ url
  | some .milvusFiles =>
    ["secure"] ++ url ++ ca "ca_pem_path" ++ pair ["client_pem_path", "client_key_path"]
      ++ keyIf tls.serverName.isSome "server_name"
  | some .systemTrustOnly => ["https", "verify"] ++ url
  | none => []

/-- Every key that the profile assigns over its options. -/
def ConnectionProfile.ownKeys (profile : ConnectionProfile) : List String :=
  "driver" :: (endpointKeys profile.driver profile.endpoint ++ credentialKeys profile.authentication
    ++ ["tls", "verify_server", "server_name", "minimum_tls_version", "ssl", "verify_certs"]
    ++ cassandraKeys profile.driver profile.endpoint
    ++ keyIf (profile.driver ∈ sqlalchemyDrivers) "url"
    ++ (if profile.tls.enabled then tlsKeys profile.driver profile.endpoint profile.tls else []))

/-! ## The keys of the assignments -/

open Dict (keys)

theorem keys_append {β : Type} (a b : List (String × β)) : keys (a ++ b) = keys a ++ keys b :=
  List.map_append

theorem keys_assignGiven (name : String) (text : Option String) :
    keys (assignGiven name text) = keyIf text.isSome name := by
  cases text <;> rfl

theorem keys_materialItems {m : Material} {ca : String} {path : Value} {pair : List (String × Value)} :
    keys (materialItems m [(ca, path)] pair)
      = keyIf m.caCertificate.isSome ca
        ++ (if m.clientCertificate.isSome then keys pair else []) := by
  rw [materialItems, keys_append, keyIf]
  by_cases hc : m.caCertificate.isSome
  · by_cases hp : m.clientCertificate.isSome <;> simp [hc, hp, keys]
  · by_cases hp : m.clientCertificate.isSome <;> simp [hc, hp, keys]

theorem keys_hostUrl (c : ResolvedConnection) (first : HostPort) :
    keys (hostUrl c first) = keyIf (hostUrlDrivers.lookup c.driver).isSome "url" := by
  unfold hostUrl
  cases hostUrlDrivers.lookup c.driver <;> rfl

theorem keys_hostItems (c : ResolvedConnection) : keys (endpointItems c.endpoint) ++ keys (hostItems c)
    = endpointKeys c.driver c.endpoint := by
  unfold endpointItems hostItems endpointKeys
  simp only [keys_append, keys_assignGiven]
  cases c.endpoint.hosts with
  | nil => rfl
  | cons first rest =>
    simp only [keys_append, keys_hostUrl]
    cases first.port <;> rfl

theorem keys_cassandraItems (c : ResolvedConnection) :
    keys (cassandraItems c) = cassandraKeys c.driver c.endpoint := by
  unfold cassandraItems cassandraKeys
  by_cases h : c.driver = "cassandra" ∧ c.endpoint.hosts ≠ []
  · rw [if_pos h, if_pos h]
    cases hs : c.endpoint.space with
    | none => rfl
    | some space =>
      by_cases hg : given (some space) = true
      · rw [if_pos hg, keyIf, if_pos hg]
        rfl
      · rw [if_neg hg, keyIf, if_neg hg]
        rfl
  · rw [if_neg h, if_neg h]
    rfl

theorem keys_resolveAll {resolve : SecretReference → Except ConnectionError String} :
    ∀ {references : List (String × Option SecretReference)} {secrets : Dict String},
    resolveAll resolve references = .ok secrets →
    keys secrets = (references.filter fun r => r.2.isSome).map Prod.fst
  | [], _, h => by
    cases h
    rfl
  | (name, none) :: references, _, h => by
    rw [resolveAll] at h
    rw [keys_resolveAll h]
    rfl
  | (name, some reference) :: references, secrets, h => by
    rw [resolveAll] at h
    obtain ⟨text, -, h⟩ := bind_ok h
    obtain ⟨rest, hrest, h⟩ := bind_ok h
    cases h
    show name :: keys rest = _
    rw [keys_resolveAll hrest]
    rfl

/-! ### TLS parameters -/

theorem keys_rewrittenUrl {c : ResolvedConnection} {f : String → Except ConnectionError String}
    {items : List (String × Value)} (h : rewrittenUrl c f = .ok items) :
    keys items = keyIf (given c.endpoint.url) "url" := by
  unfold rewrittenUrl at h
  by_cases hg : given c.endpoint.url = true
  · rw [if_pos hg] at h
    obtain ⟨url, -, rfl⟩ := map_ok h
    rw [keyIf, if_pos hg]
    rfl
  · rw [if_neg hg] at h
    cases h
    rw [keyIf, if_neg hg]
    rfl

theorem isSome_normalizeGiven {text out : Option String}
    {normalize : String → Except ConnectionError String}
    (h : normalizeGiven text normalize = .ok out) : out.isSome = text.isSome := by
  cases text with
  | none =>
    cases h
    rfl
  | some text =>
    obtain ⟨out', -, rfl⟩ := map_ok h
    rfl

variable {w : TlsWorld} {rules : Url.Rules}

/-- Normalizing keeps what there is. -/
theorem isSome_normalizeMaterial {c : ResolvedConnection} {m : Material}
    (h : normalizeMaterial w c = .ok m) :
    m.caCertificate.isSome = (c.tlsMaterial.get? "ca_certificate").isSome ∧
      m.clientCertificate.isSome = (c.tlsMaterial.get? "client_certificate").isSome := by
  unfold normalizeMaterial at h
  obtain ⟨ca, hca, h⟩ := bind_ok h
  obtain ⟨certificate, hcertificate, h⟩ := bind_ok h
  obtain ⟨key, -, h⟩ := bind_ok h
  obtain ⟨-, -, h⟩ := bind_ok h
  cases h
  exact ⟨isSome_normalizeGiven hca, isSome_normalizeGiven hcertificate⟩

theorem isSome_get?_resolveAll {resolve : SecretReference → Except ConnectionError String}
    {references : List (String × Option SecretReference)} {secrets : Dict String}
    (h : resolveAll resolve references = .ok secrets) (name : String) :
    (secrets.get? name).isSome = true ↔ name ∈ (references.filter fun r => r.2.isSome).map Prod.fst := by
  rw [← keys_resolveAll h, Option.isSome_iff_ne_none, ne_eq, Dict.get?_eq_none, not_not]

/-- The material of a connection is what the profile configures. -/
theorem isSome_material {resolve : SecretReference → Except ConnectionError String} {tls : TLSConfig}
    {material : Dict String} (h : resolveAll resolve tls.references = .ok material) :
    (material.get? "ca_certificate").isSome = tls.caCertificate.isSome ∧
      (material.get? "client_certificate").isSome = tls.clientCertificate.isSome := by
  have hmem (name : String) := isSome_get?_resolveAll h name
  constructor
  · rw [Bool.eq_iff_iff, hmem]
    cases hca : tls.caCertificate <;> cases tls.clientCertificate <;> cases tls.clientPrivateKey <;>
      cases tls.clientPrivateKeyPassword <;> simp [TLSConfig.references, *]
  · rw [Bool.eq_iff_iff, hmem]
    cases tls.caCertificate <;> cases hcc : tls.clientCertificate <;> cases tls.clientPrivateKey <;>
      cases tls.clientPrivateKeyPassword <;> simp [TLSConfig.references, *]

/-- What is resolved from a profile. -/
theorem materialize_ok {resolve : SecretReference → Except ConnectionError String}
    {profile : ConnectionProfile} {c : ResolvedConnection} (h : materialize resolve profile = .ok c) :
    ∃ secrets material, resolveAll resolve profile.authentication.references = .ok secrets ∧
      resolveAll resolve profile.tls.references = .ok material ∧
      c = {
        driver := profile.driver
        endpoint := profile.endpoint
        username := profile.authentication.username
        secrets
        tlsEnabled := profile.tls.enabled
        verifyServer := profile.tls.verifyServer
        serverName := profile.tls.serverName
        minimumTlsVersion := profile.tls.minimumVersion
        tlsMaterial := material
        options := profile.options } := by
  unfold materialize at h
  obtain ⟨secrets, hsecrets, h⟩ := bind_ok h
  obtain ⟨material, hmaterial, h⟩ := bind_ok h
  cases h
  exact ⟨secrets, material, hsecrets, hmaterial, rfl⟩

/-- The TLS settings of a connection. -/
structure Configured (c : ResolvedConnection) (m : Material) (tls : TLSConfig) : Prop where
  ca : m.caCertificate.isSome = tls.caCertificate.isSome
  pair : m.clientCertificate.isSome = tls.clientCertificate.isSome
  serverName : c.serverName = tls.serverName

section Strategies

variable {c : ResolvedConnection} {m : Material} {tls : TLSConfig} {directory : String}
  {items : List (String × Value)}

theorem keys_sslContextParameters (hc : c.serverName = tls.serverName)
    (hs : (tlsSpec c.driver).map TLSDriverSpec.strategy = some .sslContext)
    (h : sslContextParameters w rules c m directory = .ok items) :
    keys items = tlsKeys c.driver c.endpoint tls := by
  unfold sslContextParameters at h
  obtain ⟨context, -, h⟩ := bind_ok h
  simp only [tlsKeys, hs]
  by_cases h1 : c.driver = "mysql"
  · rw [if_pos h1] at h ⊢
    cases h
    rfl
  rw [if_neg h1] at h ⊢
  by_cases h2 : c.driver = "neo4j"
  · rw [if_pos h2] at h ⊢
    obtain ⟨url, hurl, h⟩ := bind_ok h
    cases h
    rw [keys_append, keys_rewrittenUrl hurl]
    rfl
  rw [if_neg h2] at h ⊢
  by_cases h3 : c.driver = "elasticsearch"
  · rw [if_pos h3] at h ⊢
    cases h
    rfl
  rw [if_neg h3] at h ⊢
  by_cases h4 : c.driver = "opensearch"
  · rw [if_pos h4] at h ⊢
    cases h
    rfl
  rw [if_neg h4] at h ⊢
  by_cases h5 : c.driver = "cassandra"
  · rw [if_pos h5] at h ⊢
    cases h
    rw [keys_append, ← hc]
    cases c.serverName <;> rfl
  · rw [if_neg h5] at h ⊢
    obtain ⟨url, hurl, h⟩ := bind_ok h
    cases h
    rw [keys_append, keys_rewrittenUrl hurl]
    rfl

/-- **The keys of the TLS parameters**, strategy by strategy. -/
theorem keys_adapterParameters (hc : Configured c m tls) {spec : TLSDriverSpec}
    (hspec : tlsSpec c.driver = some spec)
    (h : adapterParameters w rules spec c m directory = .ok items) :
    keys items = tlsKeys c.driver c.endpoint tls := by
  have hs : (tlsSpec c.driver).map TLSDriverSpec.strategy = some spec.strategy := by rw [hspec]; rfl
  unfold adapterParameters at h
  cases hstrategy : spec.strategy with
  | sslContext =>
    rw [hstrategy] at h hs
    exact keys_sslContextParameters hc.serverName hs h
  | postgresFiles =>
    rw [hstrategy] at h hs
    cases h
    simp only [tlsKeys, hs]
    rfl
  | clickhouseFiles =>
    rw [hstrategy] at h hs
    cases h
    simp only [tlsKeys, hs]
    rfl
  | sqlserverOdbc =>
    rw [hstrategy] at h hs
    obtain ⟨url, -, h⟩ := bind_ok h
    obtain ⟨url', -, h⟩ := bind_ok h
    cases h
    simp only [tlsKeys, hs]
    rfl
  | mongodbFiles =>
    rw [hstrategy] at h hs
    cases h
    simp only [tlsKeys, hs, mongodbParameters, keys_append, keys_materialItems, hc.ca, hc.pair]
    simp [keys]
  | redisFiles =>
    rw [hstrategy] at h hs
    obtain ⟨url, hurl, h⟩ := bind_ok h
    cases h
    simp only [tlsKeys, hs, keys_append, keys_materialItems, keys_rewrittenUrl hurl, hc.ca, hc.pair]
    simp [keys]
  | influxdbFiles =>
    rw [hstrategy] at h hs
    obtain ⟨url, hurl, h⟩ := bind_ok h
    cases h
    simp only [tlsKeys, hs, keys_append, keys_materialItems, keys_rewrittenUrl hurl, hc.ca, hc.pair]
    simp [keys]
  | milvusFiles =>
    rw [hstrategy] at h hs
    obtain ⟨url, hurl, h⟩ := bind_ok h
    cases h
    simp only [tlsKeys, hs, keys_append, keys_materialItems, keys_rewrittenUrl hurl, keys_assignGiven,
      hc.ca, hc.pair, hc.serverName]
    simp [keys]
  | systemTrustOnly =>
    rw [hstrategy] at h hs
    obtain ⟨url, hurl, h⟩ := bind_ok h
    cases h
    simp only [tlsKeys, hs, keys_append, keys_rewrittenUrl hurl]
    rfl

end Strategies

/-- The keys of the TLS parameters of a profile. -/
theorem keys_materializeTls {resolve : SecretReference → Except ConnectionError String}
    {profile : ConnectionProfile} {c : ResolvedConnection} {items : List (String × Value)}
    (hc : materialize resolve profile = .ok c) (h : materializeTls w rules c = .ok items) :
    keys items =
      if profile.tls.enabled then tlsKeys profile.driver profile.endpoint profile.tls else [] := by
  obtain ⟨secrets, material, -, hmaterial, rfl⟩ := materialize_ok hc
  unfold materializeTls at h
  by_cases he : profile.tls.enabled = true
  · rw [if_pos he]
    simp only [he, Bool.not_true] at h
    cases hspec : tlsSpec profile.driver with
    | none =>
      simp only [hspec] at h
      cases h
    | some spec =>
      simp only [hspec] at h
      obtain ⟨-, -, h⟩ := bind_ok h
      obtain ⟨m, hm, h⟩ := bind_ok h
      obtain ⟨directory, -, h⟩ := bind_ok h
      obtain ⟨hca, hpair⟩ := isSome_normalizeMaterial hm
      obtain ⟨hca', hpair'⟩ := isSome_material hmaterial
      exact keys_adapterParameters ⟨hca.trans hca', hpair.trans hpair', rfl⟩ hspec h
  · rw [if_neg he]
    simp only [he] at h
    cases h
    rfl

/-- The keys of the assignments of `to_adapter_connection`. -/
theorem keys_adapterItems {resolve : SecretReference → Except ConnectionError String}
    {profile : ConnectionProfile} {c : ResolvedConnection} {items : List (String × Value)}
    (hc : materialize resolve profile = .ok c) (h : adapterItems rules c = .ok items) :
    keys items = "driver" :: (endpointKeys profile.driver profile.endpoint
      ++ credentialKeys profile.authentication
      ++ ["tls", "verify_server", "server_name", "minimum_tls_version", "ssl", "verify_certs"]
      ++ cassandraKeys profile.driver profile.endpoint
      ++ keyIf (profile.driver ∈ sqlalchemyDrivers) "url") := by
  obtain ⟨secrets, material, hsecrets, -, hresolved⟩ := materialize_ok hc
  have hdriver : c.driver = profile.driver := by rw [hresolved]
  have hendpoint : c.endpoint = profile.endpoint := by rw [hresolved]
  have husername : c.username = profile.authentication.username := by rw [hresolved]
  have hsecretKeys : keys (secretItems c)
      = (profile.authentication.references.filter fun r => r.2.isSome).map Prod.fst := by
    rw [← keys_resolveAll hsecrets, hresolved]
    simp [secretItems, keys]
  obtain ⟨url, hurl, rfl⟩ := map_ok h
  have hurlKeys : keys url = keyIf (profile.driver ∈ sqlalchemyDrivers) "url" := by
    unfold urlItems at hurl
    rw [hdriver] at hurl
    by_cases hd : profile.driver ∈ sqlalchemyDrivers
    · rw [if_pos hd] at hurl
      obtain ⟨text, -, rfl⟩ := map_ok hurl
      simp [keyIf, hd, keys]
    · rw [if_neg hd] at hurl
      cases hurl
      simp [keyIf, hd, keys]
  have hhost := keys_hostItems c
  rw [hdriver, hendpoint] at hhost
  rw [keys, List.map_cons, ← keys]
  simp only [keys_append, keys_assignGiven, keys_cassandraItems, hsecretKeys, hurlKeys, hdriver,
    hendpoint, husername, credentialKeys, ← hhost]
  simp only [List.append_assoc]
  rfl

/-! ## Two profiles that differ in their options -/

/-- The options as values of the dictionary. -/
def optionValues (options : Dict Json) : Dict Value := options.map fun item => (item.1, .json item.2)

theorem get?_optionValues (options : Dict Json) (key : String) :
    (optionValues options).get? key = (options.get? key).map Value.json := by
  induction options with
  | nil => rfl
  | cons item options ih =>
    obtain ⟨k, v⟩ := item
    show Dict.get? ((k, Value.json v) :: optionValues options) key = _
    rw [Dict.get?_cons, Dict.get?_cons, ih]
    by_cases hk : key = k
    · simp [hk]
    · simp [hk]

theorem json_injective {a b : Json} (h : Value.json a = Value.json b) : a = b := by
  cases h
  rfl

/-- Everything that is assigned over the options of a profile. -/
def ownItems (w : TlsWorld) (rules : Url.Rules)
    (resolve : SecretReference → Except ConnectionError String) (profile : ConnectionProfile) :
    Except ConnectionError (List (String × Value)) := do
  let resolved ← materialize resolve profile
  let tlsParameters ← materializeTls w rules resolved
  let items ← adapterItems rules resolved
  .ok (items ++ tlsParameters)

variable {resolve : SecretReference → Except ConnectionError String} {profile : ConnectionProfile}

/-- **The dictionary is the options with the profile's own assignments over them.** -/
theorem openProfile_eq : openProfile w rules resolve profile
    = (ownItems w rules resolve profile).map (optionValues profile.options).update := by
  unfold openProfile ownItems
  cases hc : materialize resolve profile with
  | error e => rfl
  | ok c =>
    obtain ⟨secrets, material, -, -, hresolved⟩ := materialize_ok hc
    have hoptions : c.options = profile.options := by rw [hresolved]
    show (materializeTls w rules c >>= fun t => toAdapterConnection rules c >>= fun d => .ok (d.update t))
      = (materializeTls w rules c >>= fun t =>
          adapterItems rules c >>= fun items => .ok (items ++ t)).map _
    cases materializeTls w rules c with
    | error e => rfl
    | ok t =>
      show (toAdapterConnection rules c >>= fun d => .ok (d.update t))
        = (adapterItems rules c >>= fun items => .ok (items ++ t)).map _
      unfold toAdapterConnection
      cases adapterItems rules c with
      | error e => rfl
      | ok items =>
        rw [hoptions]
        exact congrArg Except.ok (Dict.update_append _ items t).symm

/-- Neither the assignments nor whether the connection opens depends on the options. -/
theorem ownItems_options (options : Dict Json) :
    ownItems w rules resolve { profile with options } = ownItems w rules resolve profile := by
  unfold ownItems materialize
  cases resolveAll resolve profile.authentication.references with
  | error e => rfl
  | ok secrets =>
    cases resolveAll resolve profile.tls.references with
    | error e => rfl
    | ok material => rfl

theorem keys_ownItems {own : List (String × Value)}
    (h : ownItems w rules resolve profile = .ok own) : keys own = profile.ownKeys := by
  unfold ownItems at h
  obtain ⟨c, hc, h⟩ := bind_ok h
  obtain ⟨t, ht, h⟩ := bind_ok h
  obtain ⟨items, hitems, h⟩ := bind_ok h
  cases h
  rw [keys_append, keys_adapterItems hc hitems, keys_materializeTls hc ht]
  rfl

/-! ### Agreement -/

/-- The names of secrets, in the spelling of the adapters. -/
def secretNames : List String := ["password", "token", "api_key", "private_key", "service_account"]

theorem isSensitive_of_mem (rules : Url.Rules) {name : String} (h : name ∈ secretNames) :
    isSensitive rules name = true := by
  have hall : ∀ name ∈ secretNames, (name.toList.all fun c => c.toNat < 0x80) ∧
      String.ofList (name.toList.map Char.toLower) ∈ sensitiveNames := by
    decide
  obtain ⟨hascii, hmem⟩ := hall name h
  rw [isSensitive, rules.lower_ascii _ fun c hc => by simpa using List.all_eq_true.mp hascii c hc]
  simpa using hmem

theorem isSensitive_of_get? {rules : Url.Rules} : ∀ {fields : List (String × Json)} {name : String},
    anySensitiveField rules fields = false → (Dict.get? fields name).isSome →
    isSensitive rules name = false
  | [], _, _, h => by cases h
  | (k, v) :: fields, name, hnone, h => by
    rw [anySensitiveField, Bool.or_eq_false_iff, Bool.or_eq_false_iff] at hnone
    rw [Dict.get?_cons] at h
    by_cases hk : name = k
    · rw [hk]
      exact hnone.1.1
    · rw [if_neg hk] at h
      exact isSensitive_of_get? hnone.2 h

/-- The options of an accepted profile have no key that names a secret. -/
theorem get?_options_secret (h : profile.validate rules = .ok ()) {name : String}
    (hname : name ∈ secretNames) : profile.options.get? name = none := by
  unfold ConnectionProfile.validate at h
  obtain ⟨-, -, h⟩ := bind_ok h
  obtain ⟨-, -, h⟩ := bind_ok h
  obtain ⟨-, -, h⟩ := bind_ok h
  obtain ⟨-, -, h⟩ := bind_ok h
  obtain ⟨-, -, h⟩ := bind_ok h
  rw [ConnectionProfile.rejectSecretsInOptions] at h
  cases hany : anySensitiveField rules profile.options with
  | true =>
    rw [hany] at h
    cases h
  | false =>
    cases hget : profile.options.get? name with
    | none => rfl
    | some v =>
      have hfalse := isSensitive_of_get? hany (by rw [hget]; rfl : (Dict.get? _ name).isSome)
      rw [isSensitive_of_mem rules hname] at hfalse
      cases hfalse

theorem mem_securityKeys {key : String} : key ∈ securityKeys ↔
    key ∈ addressKeys ++ "username" :: transportKeys ∨ key ∈ secretNames := by
  show key ∈ (addressKeys ++ "username" :: secretNames) ++ transportKeys ↔ _
  rw [List.mem_append, List.mem_append, List.mem_append, List.mem_cons, List.mem_cons]
  constructor
  · rintro ((h | h | h) | h)
    · exact Or.inl (Or.inl h)
    · exact Or.inl (Or.inr (Or.inl h))
    · exact Or.inr h
    · exact Or.inl (Or.inr (Or.inr h))
  · rintro ((h | h | h) | h)
    · exact Or.inl (Or.inl h)
    · exact Or.inl (Or.inr (Or.inl h))
    · exact Or.inr h
    · exact Or.inl (Or.inr (Or.inr h))

/-- The keys of the address and of the transport that the options of a profile reach: those it does not
assign itself. -/
def ConnectionProfile.openKeys (profile : ConnectionProfile) : List String :=
  (addressKeys ++ "username" :: transportKeys).filter fun key => key ∉ profile.ownKeys

/-- **When the options make no difference.** Two accepted profiles that differ in their options open or
fail alike, and their connections agree on the address, the identity and the transport if and only if
the options agree on the keys of these that the profile does not assign itself. -/
theorem agree_iff {options : Dict Json} (hprofile : profile.validate rules = .ok ())
    (hother : ConnectionProfile.validate rules { profile with options } = .ok ()) :
    (∀ e, openProfile w rules resolve profile = .error e ↔
      openProfile w rules resolve { profile with options } = .error e) ∧
    ∀ d d', openProfile w rules resolve profile = .ok d →
      openProfile w rules resolve { profile with options } = .ok d' →
      (Agree securityKeys d d' ↔ Agree profile.openKeys profile.options options) := by
  have hoptions := @ownItems_options w rules resolve profile options
  rw [openProfile_eq, openProfile_eq, hoptions]
  cases hown : ownItems w rules resolve profile with
  | error e =>
    refine ⟨fun e' => Iff.rfl, fun d d' hd => ?_⟩
    cases hd
  | ok own =>
    refine ⟨fun e => ⟨nofun, nofun⟩, ?_⟩
    intro d d' hd hd'
    cases hd
    cases hd'
    have hkeys := keys_ownItems hown
    -- a key of the profile's own is the same on both sides, any other is that of the options
    have hsame : ∀ key, ((optionValues profile.options).update own).get? key
        = ((optionValues options).update own).get? key ↔
        key ∈ profile.ownKeys ∨ profile.options.get? key = options.get? key := by
      intro key
      by_cases hk : key ∈ profile.ownKeys
      · simp [hk, Dict.get?_update_of_mem (hkeys ▸ hk) (optionValues profile.options)
          (optionValues options)]
      · have hn : key ∉ keys own := hkeys ▸ hk
        rw [Dict.get?_update_of_not_mem hn, Dict.get?_update_of_not_mem hn, get?_optionValues,
          get?_optionValues, (Option.map_injective fun a b => json_injective).eq_iff]
        simp [hk]
    constructor
    · intro h key hkey
      obtain ⟨hmem, hnot⟩ := List.mem_filter.mp hkey
      have hsec : key ∈ securityKeys := mem_securityKeys.mpr (Or.inl hmem)
      exact ((hsame key).mp (h key hsec)).resolve_left (by simpa using hnot)
    · intro h key hkey
      refine (hsame key).mpr ?_
      by_cases hk : key ∈ profile.ownKeys
      · exact Or.inl hk
      · refine Or.inr ?_
        rcases mem_securityKeys.mp hkey with hopen | hsecret
        · exact h key (List.mem_filter.mpr ⟨hopen, by simpa using hk⟩)
        · rw [get?_options_secret hprofile hsecret]
          exact (get?_options_secret hother hsecret).symm

/-! ## A client of the two connections -/

/-- Equal dictionaries under the keys make equal clients. -/
theorem MongoDBAdapter.client_congr {d d' : Dict Value} (h : Agree securityKeys d d') :
    MongoDBAdapter.client d = MongoDBAdapter.client d' := by
  have htrue (name : String) (hn : name ∈ securityKeys) : getTrue d name = getTrue d' name := by
    rw [getTrue, getTrue, h name hn]
  have hset (name : String) (hn : name ∈ securityKeys) : getSet d name = getSet d' name := by
    rw [getSet, getSet, h name hn]
  have haddress : address d = address d' := by
    rw [address, address, htrue "url" (by decide), htrue "hosts" (by decide), htrue "host" (by decide),
      hset "port" (by decide)]
  have hforwarded : (tlsNames.filterMap fun name => (getSet d name).map fun v => (name, v))
      = tlsNames.filterMap fun name => (getSet d' name).map fun v => (name, v) := by
    refine List.filterMap_congr fun name hname => ?_
    have hsub : ∀ name ∈ tlsNames, name ∈ securityKeys := by decide
    rw [hset name (hsub name hname)]
  have hoptions : tlsOptions d = tlsOptions d' := by
    rw [tlsOptions, tlsOptions, htrue "tls" (by decide), hforwarded, h "verify_server" (by decide)]
  rw [client, client, haddress, hoptions, hset "username" (by decide), hset "password" (by decide)]

/-! ### A profile whose options lead elsewhere -/

def sampleRules : Url.Rules where
  acceptsNetloc _ := true
  lower text := text.map Char.toLower
  decode bytes := bytes.map fun b => Char.ofNat b.toNat
  lower_ascii _ _ := rfl

/-- No certificate is configured in the samples, so none is checked. -/
def sampleTlsWorld : TlsWorld where
  normalizeCa text := .ok text
  normalizeClientCertificate text := .ok text
  normalizePrivateKey key _ := .ok key
  validateClientPair _ _ := .ok ()
  loadCa _ := .ok ()
  loadChain _ _ := .ok ()
  createDirectory := .ok "/tmp/qaneris-tls-0"

def sampleResolve (reference : SecretReference) : Except ConnectionError String :=
  .ok reference.identifier

def mongodbProfile : ConnectionProfile where
  driver := "mongodb"
  endpoint := { hosts := [{ host := "db.internal", port := some 27017 }] }
  authentication := { method := .password, username := some "readonly",
                      password := some ⟨.environment, "MONGODB_PASSWORD"⟩ }
  tls := { enabled := true }

def leadingElsewhere : Dict Json :=
  [("url", .str "mongodb://collector.example:27017"), ("tlsCAFile", .str "/tmp/collector.pem")]

/-- An option that names no key of the security configuration. -/
def withTimeout : Dict Json := [("timeout", .int 10)]

theorem mongodbProfile_agree : ∃ d d',
    openProfile sampleTlsWorld sampleRules sampleResolve mongodbProfile = .ok d ∧
      openProfile sampleTlsWorld sampleRules sampleResolve
        { mongodbProfile with options := withTimeout } = .ok d' ∧
      (Agree securityKeys d d' ↔
        Agree mongodbProfile.openKeys mongodbProfile.options withTimeout) := by
  have hopen : (openProfile sampleTlsWorld sampleRules sampleResolve mongodbProfile).toOption.any
      (fun _ => true) = true := by
    decide
  have hopen' : (openProfile sampleTlsWorld sampleRules sampleResolve
      { mongodbProfile with options := withTimeout }).toOption.any
      (fun _ => true) = true := by
    decide
  obtain ⟨d, hd, -⟩ := ok_of_any hopen
  obtain ⟨d', hd', -⟩ := ok_of_any hopen'
  exact ⟨d, d', hd, hd',
    (agree_iff (by decide) (by decide)).2 d d' hd hd'⟩

/-- **The options redirect the client and replace the authority it trusts**: the host of the profile is
not asked, and the password goes to the other server. -/
theorem mongodbProfile_redirected : ∃ d d',
    mongodbProfile.validate sampleRules = .ok () ∧
      ConnectionProfile.validate sampleRules { mongodbProfile with options := leadingElsewhere } = .ok () ∧
      openProfile sampleTlsWorld sampleRules sampleResolve mongodbProfile = .ok d ∧
      openProfile sampleTlsWorld sampleRules sampleResolve
        { mongodbProfile with options := leadingElsewhere } = .ok d' ∧
      ¬Agree securityKeys d d' ∧
      (MongoDBAdapter.client d').address = .url (.text "mongodb://collector.example:27017") ∧
      (MongoDBAdapter.client d').password = some (.text "MONGODB_PASSWORD") := by
  have hopen : (openProfile sampleTlsWorld sampleRules sampleResolve mongodbProfile).toOption.any
      (fun d => d.get? "url" = none) = true := by
    decide
  have hopen' : (openProfile sampleTlsWorld sampleRules sampleResolve
      { mongodbProfile with options := leadingElsewhere }).toOption.any
      (fun d => d.get? "url" = some (.text "mongodb://collector.example:27017") ∧
        (MongoDBAdapter.client d).address = .url (.text "mongodb://collector.example:27017") ∧
        (MongoDBAdapter.client d).password = some (.text "MONGODB_PASSWORD")) = true := by
    decide
  obtain ⟨d, hd, hurl⟩ := ok_of_any hopen
  obtain ⟨d', hd', hp⟩ := ok_of_any hopen'
  obtain ⟨hurl', haddress, hpassword⟩ := of_decide_eq_true hp
  refine ⟨d, d', by decide, by decide, hd, hd', ?_, haddress, hpassword⟩
  intro h
  have := h "url" (by decide)
  rw [of_decide_eq_true hurl, hurl'] at this
  cases this

end Connections
