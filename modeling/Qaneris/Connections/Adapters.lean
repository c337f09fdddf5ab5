import Qaneris.Connections.Tls

/-!
# What an adapter makes of its dictionary

`MongoDBAdapter`: where the client connects to, as whom, and with which TLS options. The values are kept
as they are in the dictionary; how an address is written for the driver is left out.
-/

namespace Connections

open Infra

/-- What counts as true in Python. -/
def truthyJson : Json → Bool
  | .null => false
  | .bool b => b
  | .int n => n ≠ 0
  | .real q => q ≠ 0
  | .str s => s ≠ ""
  | .arr items => !items.isEmpty
  | .obj fields => !fields.isEmpty

def truthy : Value → Bool
  | .arg (.json v) => truthyJson v
  | .arg (.context _) | .arg (.certificates true) | .arg (.version _) => true
  -- `CERT_NONE` is zero
  | .arg (.certificates false) => false
  | .args items => !items.isEmpty

/-- `connection.get(name)` where it is true. -/
def getTrue (connection : Dict Value) (name : String) : Option Value :=
  (connection.get? name).filter truthy

/-- `connection.get(name)` where it is not `None`. -/
def getSet (connection : Dict Value) (name : String) : Option Value :=
  (connection.get? name).filter (· ≠ .json .null)

namespace MongoDBAdapter

/-- What the address of the client is made from. -/
inductive Address where
  | url (v : Value)
  | hosts (v : Value)
  | host (host : Value) (port : Option Value)
  /-- `mongodb://localhost:27017` -/
  | default
  deriving DecidableEq

/-- `_address` -/
def address (connection : Dict Value) : Address :=
  match getTrue connection "url" with
  | some url => .url url
  | none =>
    match getTrue connection "hosts" with
    | some hosts => .hosts hosts
    | none =>
      match getTrue connection "host" with
      | some host => .host host (getSet connection "port")
      | none => .default

def tlsNames : List String :=
  ["tlsAllowInvalidCertificates", "tlsAllowInvalidHostnames", "tlsCAFile", "tlsCertificateKeyFile"]

/-- The options that `_client` passes on. -/
def tlsOptions (connection : Dict Value) : Dict Value :=
  if (getTrue connection "tls").isSome then
    let forwarded := tlsNames.filterMap fun name => (getSet connection name).map fun v => (name, v)
    let options := ("tls", .flag true) :: forwarded
    if (Dict.get? options "tlsAllowInvalidCertificates").isSome then options
    else
      let verify := (connection.get? "verify_server").elim true truthy
      options ++ [("tlsAllowInvalidCertificates", .flag !verify)]
  else []

/-- The arguments of `MongoClient`. -/
structure ClientArguments where
  address : Address
  username : Option Value
  password : Option Value
  options : Dict Value
  deriving DecidableEq

/-- `_client` -/
def client (connection : Dict Value) : ClientArguments where
  address := address connection
  username := getSet connection "username"
  password := getSet connection "password"
  options := tlsOptions connection

end MongoDBAdapter

end Connections
