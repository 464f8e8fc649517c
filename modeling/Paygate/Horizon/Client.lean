import Paygate.Http.Network
import Paygate.Pipeline.Session

/-!
# The ledger's web interface

A client of a Horizon server. Accounts are read from `/accounts/`, transactions are posted to
`/transactions`. Status 404 for an account confirms that it does not exist; anything else but a
success with a JSON object is a failure of the ledger. Every call sends at most one request.
-/

namespace Paygate.Horizon

open Http (Network)

structure Client where
  /-- The address of the server without slashes at its end. -/
  base : String
deriving DecidableEq, Repr

def logger : String := "gateway.infrastructure.horizon_client"

/-- How much of an error's text goes into the log, in characters. -/
def shownText : Nat := 500

namespace Client

def ofUrl (url : String) : Client := ⟨String.ofList (Text.trimEnd '/' url.toList)⟩

/-- The address of a path of the server. -/
def address (client : Client) (path : String) : String := client.base ++ path

/-- The failure of a request to an address. -/
def failure (url : String) : Http.Error → LedgerFailure
  | .fault cause => .fault (.exchange cause)
  | .failed true _ => .error (.failed ("Horizon request timed out: " ++ url) none)
  | .failed false reason =>
    .error (.failed ("Horizon request failed: " ++ url ++ ": " ++ reason) none)

/-- Send a request for a path of the server. -/
def request (client : Client) (method : Http.Method) (path : String)
    (form : List (String × String)) (network : Network) :
    Except LedgerFailure Http.Response × Network :=
  let url := client.address path
  match network.send method url [] form with
  | (.ok response, network) => (.ok response, network)
  | (.error e, network) => (.error (failure url e), network)

/-- The JSON object in a response, and the log record of a status that is no success. -/
def readObject (response : Http.Response) : Except LedgerFailure Json × List Log.Record :=
  if response.isSuccess then
    match response.json? with
    | .error cause => (.error (.fault (.exchange cause)), [])
    | .ok none => (.error (.error (.failed "Horizon returned non-JSON body" (some response.status))), [])
    | .ok (some (.obj members)) => (.ok (.obj members), [])
    | .ok (some _) =>
      (.error (.error (.failed "Horizon returned non-object JSON" (some response.status))), [])
  else
    match response.text with
    | .error cause => (.error (.fault (.exchange cause)), [])
    | .ok text =>
      let summary := "Horizon returned " ++ toString response.status
      (.error (.error (.failed summary (some response.status))),
        [{ level := .error, logger
           message := .whole (summary ++ ": ") ++ .ofPoints (text.points.take shownText) }])

/-- The account that an object describes. Without an id it is the account that was asked for. -/
def accountOf (id : String) (status : Nat) (body : Json) : Except LedgerError AccountRecord :=
  match (body.get? "sequence").bind Json.text? with
  | some sequence => .ok ⟨(body.get? "id").getD (.str id), sequence⟩
  | none => .error (.failed ("Account " ++ id ++ " response has no sequence") (some status))

def accountPath (id : String) : String := "/accounts/" ++ id

def load (client : Client) (id : String) (network : Network) :
    Answer Network (Except LedgerFailure AccountRecord) :=
  match client.request .get (accountPath id) [] network with
  | (.error e, network) => { value := .error e, world := network }
  | (.ok response, network) =>
    if response.status = 404 then
      { value := .error (.error (.accountNotFound id)), world := network }
    else
      let (body, logs) := readObject response
      let account := body.bind fun body => (accountOf id response.status body).mapError .error
      { value := account, world := network, logs }

def submit (client : Client) (envelope : String) (network : Network) :
    Answer Network (Except LedgerFailure Json) :=
  match client.request .post "/transactions" [("tx", envelope)] network with
  | (.error e, network) => { value := .error e, world := network }
  | (.ok response, network) =>
    let (body, logs) := readObject response
    { value := body, world := network, logs }

/-- Whether the server answers with success. -/
def isHealthy (client : Client) (network : Network) : Except Http.Fault Bool × Network :=
  match network.get (client.address "/") [] with
  | (.ok response, network) => (.ok response.isSuccess, network)
  | (.error (.failed ..), network) => (.ok false, network)
  | (.error (.fault cause), network) => (.error cause, network)

end Client

end Paygate.Horizon
