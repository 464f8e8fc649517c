import Paygate.Federation.Address
import Paygate.Http.Network
import Paygate.Pipeline.Session
import Paygate.Toml.Reader

/-!
# Resolving addresses

A text without `*` is an account and resolves to itself. For a federation address the domain's
`stellar.toml` names the federation server, and that server is asked for the record of the address.
At most two requests are sent, the second only after a usable answer to the first.
-/

namespace Paygate.Federation

open Http (Network)

/-- The failure of a request; `wrap` says for what it was sent. -/
def Failure.ofHttp (wrap : String → Error) : Http.Error → Failure
  | .fault cause => .fault (.exchange cause)
  | .failed _ reason => .error (wrap reason)

/-- Where a domain says which federation server it has. -/
def tomlUrl (scheme : String) (domain : Str) : Str :=
  .whole (scheme ++ "://") ++ domain ++ .whole "/.well-known/stellar.toml"

/-- The federation server that a `stellar.toml` names. -/
def serverOf (url : Str) (response : Http.Response) : Except Failure Str :=
  if response.isSuccess then
    match response.text.map fun text => Toml.read text.points with
    | .error cause => .error (.fault (.exchange cause))
    | .ok (.error .tooDeep) => .error (.fault (.exchange .tooDeep))
    | .ok (.error .numeralTooLong) => .error (.fault .numeralTooLong)
    | .ok (.error .invalid) => .error (.error (.notToml url))
    | .ok (.ok entries) =>
      match entries.lookup (.whole "FEDERATION_SERVER") with
      | some (.text server) => if server.isEmpty then .error (.error (.noServer url)) else .ok server
      | _ => .error (.error (.noServer url))
  else .error (.error (.refused url response.status))

/-- The record in the answer of a federation server. -/
def recordOf (server : Str) (response : Http.Response) : Except Failure FederationRecord :=
  if response.isSuccess then
    match response.json? with
    | .error cause => .error (.fault (.exchange cause))
    | .ok none => .error (.error (.notJson server))
    | .ok (some body) => FederationRecord.ofJson body
  else .error (.error (.queryRefused server response.status))

/-- The parameters of a federation request. -/
def query (address : Str) : List (String × Str) := [("q", address), ("type", "name")]

/-- Ask a federation server for the record of an address. -/
def askServer (server address : Str) (network : Network) :
    Except Failure FederationRecord × Network :=
  match network.get server (query address) with
  | (.error e, network) => (.error (.ofHttp (.queryFailed server) e), network)
  | (.ok response, network) => (recordOf server response, network)

/-- The federation server of a domain. -/
def findServer (scheme : String) (domain : Str) (network : Network) :
    Except Failure Str × Network :=
  let url := tomlUrl scheme domain
  match network.get url [] with
  | (.error e, network) => (.error (.ofHttp (.unreachable url) e), network)
  | (.ok response, network) => (serverOf url response, network)

/-- The record of an address. -/
def resolve (scheme : String) (address : Str) (network : Network) :
    Except Failure FederationRecord × Network :=
  if address.isEmpty then (.error (.error .emptyAddress), network)
  else
    match Address.parse address with
    | .error e => (.error (.error e), network)
    | .ok none => (.ok { account := address }, network)
    | .ok (some parts) =>
      match findServer scheme parts.domain network with
      | (.error e, network) => (.error e, network)
      | (.ok server, network) => askServer server address network

/-- The resolver as the pipeline asks it. -/
def resolver (scheme : String) (address : Field) (network : Network) :
    Answer Network (Except ResolverFailure FederationRecord) :=
  match address with
  | .upload => { value := .error (.fault .notText), world := network }
  | .text address =>
    match resolve scheme address network with
    | (.ok record, network) => { value := .ok record, world := network }
    | (.error (.error e), network) => { value := .error (.unresolved e.message), world := network }
    | (.error (.fault f), network) => { value := .error (.fault f), world := network }

end Paygate.Federation
