import Qaneris.Connections.Resolved

/-!
# The adapter dictionary

`to_adapter_connection`: the options, and over them the address, the credentials and the transport
settings of the connection. What is written over the options is a list of assignments, in the order of
the source.
-/

namespace Connections

open Infra

def sqlserverOdbcDriver : String := "ODBC Driver 18 for SQL Server"

/-- `HOST_URL_DRIVERS`: the plain scheme, the secure one and the default port. -/
def hostUrlDrivers : List (String × String × String × Nat) :=
  [("couchdb", "http", "https", 5984), ("influxdb", "http", "https", 8086),
    ("milvus", "http", "https", 19530), ("neo4j", "bolt", "bolt", 7687),
    ("weaviate", "http", "https", 8080)]

/-- The drivers that are addressed by a SQLAlchemy URL. -/
def sqlalchemyDrivers : List String :=
  ["postgresql", "mysql", "oracle", "sqlserver", "timescaledb", "clickhouse", "snowflake", "bigquery"]

def sqlalchemySchemes : List (String × String) :=
  [("postgresql", "postgresql+psycopg"), ("timescaledb", "postgresql+psycopg"),
    ("mysql", "mysql+pymysql"), ("oracle", "oracle+oracledb"), ("sqlserver", "mssql+pyodbc"),
    ("clickhouse", "clickhousedb"), ("snowflake", "snowflake"), ("bigquery", "bigquery")]

variable (rules : Url.Rules)

/-- `_sqlserver_query` -/
def sqlserverQuery (query : List Char) : List Char :=
  let parameters := Url.parseQsl rules query
  let parameters :=
    if parameters.any fun p => p.1 = "driver".toList then parameters
    else parameters ++ [("driver".toList, sqlserverOdbcDriver.toList)]
  Url.urlencode parameters

/-- `_authenticated_netloc` -/
def authenticatedNetloc (c : ResolvedConnection) (host : List Char) (port : Option Nat) : List Char :=
  let authentication :=
    if given c.username then
      let password :=
        match c.secrets.get? "password" with
        | some password => ':' :: Url.quote password.toList
        | none => []
      Url.quote (c.username.getD "").toList ++ password ++ ['@']
    else []
  let port :=
    match port with
    | some port => ':' :: (toString port).toList
    | none => []
  authentication ++ host ++ port

/-- `"/".join(filter(None, parts))` -/
def joinGiven (parts : List (Option String)) : String :=
  "/".intercalate (parts.filterMap fun part => part.filter (· ≠ ""))

/-- `sqlalchemy_url` -/
def sqlalchemyUrl (c : ResolvedConnection) : Except ConnectionError String :=
  let endpoint := c.endpoint
  if given endpoint.url then
    match Url.urlsplit rules (endpoint.url.getD "").toList with
    | none => .error (.value "Invalid URL")
    | some parsed =>
      let scheme := ((sqlalchemySchemes.lookup c.driver).map String.toList).getD parsed.scheme
      match parsed.port with
      | .error () => .error (.value "Port could not be cast to integer value")
      | .ok port =>
        let netloc := authenticatedNetloc c ((parsed.hostname rules).getD []) port
        let query := if c.driver = "sqlserver" then sqlserverQuery rules parsed.query else parsed.query
        .ok (String.ofList (Url.urlunsplit { parsed with scheme, netloc, query }))
  else if c.driver = "bigquery" then
    .ok ("bigquery://" ++ joinGiven [endpoint.project, endpoint.space])
  else
    let host := endpoint.hosts.head?.getD { host := endpoint.account.getD "" }
    let netloc := authenticatedNetloc c host.host.toList host.port
    -- the driver is one of the table, whatever its endpoint
    let scheme := ((sqlalchemySchemes.lookup c.driver).map String.toList).getD []
    if c.driver = "oracle" then
      let query :=
        if given endpoint.database then
          Url.urlencode [("service_name".toList, (endpoint.database.getD "").toList)]
        else []
      .ok (String.ofList (Url.urlunsplit { scheme, netloc, path := [], query, fragment := [] }))
    else
      let path := '/' :: (joinGiven [endpoint.database, endpoint.space]).toList
      let query := if c.driver = "sqlserver" then sqlserverQuery rules [] else []
      .ok (String.ofList (Url.urlunsplit { scheme, netloc, path, query, fragment := [] }))

/-! ## The assignments -/

/-- `item.model_dump(exclude_none=True)` -/
def HostPort.modelDump (item : HostPort) : Json :=
  .obj (("host", .str item.host) ::
    match item.port with
    | some port => [("port", .int port)]
    | none => [])

def assignGiven (name : String) : Option String → List (String × Value)
  | some text => [(name, .text text)]
  | none => []

/-- The fields of the endpoint that are set. -/
def endpointItems (endpoint : ConnectionEndpoint) : List (String × Value) :=
  assignGiven "path" endpoint.path ++ assignGiven "url" endpoint.url
    ++ assignGiven "database" endpoint.database ++ assignGiven "namespace" endpoint.space
    ++ assignGiven "project" endpoint.project ++ assignGiven "account" endpoint.account

/-- The URL of a driver that is addressed by one, from the first host. -/
def hostUrl (c : ResolvedConnection) (first : HostPort) : List (String × Value) :=
  match hostUrlDrivers.lookup c.driver with
  | some (plain, secure, defaultPort) =>
    let host :=
      if first.host.toList.contains ':' ∧ first.host.toList.head? ≠ some '[' then
        "[" ++ first.host ++ "]"
      else first.host
    -- `or`: a port of zero counts as none
    let port := (first.port.filter (· ≠ 0)).getD defaultPort
    let scheme := if c.tlsEnabled then secure else plain
    [("url", .text (scheme ++ "://" ++ host ++ ":" ++ toString port))]
  | none => []

def hostItems (c : ResolvedConnection) : List (String × Value) :=
  match c.endpoint.hosts with
  | [] => []
  | first :: rest =>
    [("hosts", .json (.arr ((first :: rest).map HostPort.modelDump))), ("host", .text first.host)]
      ++ (match first.port with
        | some port => [("port", .json (.int port))]
        | none => [])
      ++ hostUrl c first

def secretItems (c : ResolvedConnection) : List (String × Value) :=
  c.secrets.map fun item => (item.1, .text item.2)

def transportItems (c : ResolvedConnection) : List (String × Value) :=
  [("tls", .flag c.tlsEnabled), ("verify_server", .flag c.verifyServer),
    ("server_name", .arg (.textOrNone c.serverName)),
    ("minimum_tls_version", .text c.minimumTlsVersion.text), ("ssl", .flag c.tlsEnabled),
    ("verify_certs", .flag c.verifyServer)]

def cassandraItems (c : ResolvedConnection) : List (String × Value) :=
  if c.driver = "cassandra" ∧ c.endpoint.hosts ≠ [] then
    ("contact_points", .json (.arr (c.endpoint.hosts.map fun item => .str item.host))) ::
      (if given c.endpoint.space then assignGiven "keyspace" c.endpoint.space else [])
  else []

def urlItems (c : ResolvedConnection) : Except ConnectionError (List (String × Value)) :=
  if c.driver ∈ sqlalchemyDrivers then
    (sqlalchemyUrl rules c).map fun url => [("url", .text url)]
  else .ok []

/-- Everything that is assigned over the options. -/
def adapterItems (c : ResolvedConnection) : Except ConnectionError (List (String × Value)) :=
  (urlItems rules c).map fun url =>
    ("driver", .text c.driver) :: (endpointItems c.endpoint ++ hostItems c
      ++ assignGiven "username" c.username ++ secretItems c ++ transportItems c ++ cassandraItems c
      ++ url)

/-- `to_adapter_connection` -/
def toAdapterConnection (c : ResolvedConnection) : Except ConnectionError (Dict Value) :=
  (adapterItems rules c).map fun items =>
    Dict.update (c.options.map fun item => (item.1, .json item.2)) items

end Connections
