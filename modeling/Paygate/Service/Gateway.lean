import Paygate.Federation.Resolver
import Paygate.Horizon.Client
import Paygate.Pipeline.Execute
import Paygate.Service.Form
import Paygate.Service.Route

/-!
# The gateway

`handle` answers a request to the service. A payment runs through the pipeline with the federation
resolver, the ledger client and the ledger's builder; its answer is the ledger's own, or the code
and message of a payment error. A fault is answered as `serverError` and leaves a record of its own.
-/

namespace Paygate.Service

open Http (Network)

structure Gateway where
  pipeline : Pipeline.Config
  ledger : Horizon.Client
  /-- The client that readiness depends on. -/
  probe : Option Horizon.Client
  scheme : String := "https"

/-- An answer, the records written on the way, and the servers afterwards. -/
structure Handled where
  reply : Reply
  logs : List Log.Record := []
  network : Network

def routeLogger : String := "gateway.api.routes.payment"

def errorLogger : String := "gateway.api.error_handlers"

namespace Gateway

def collaborators (gateway : Gateway) : Collaborators Network where
  resolve := Federation.resolver gateway.scheme
  load := gateway.ledger.load
  build := Pipeline.ledgerBuilder
  submit := gateway.ledger.submit

/-- The answer to a payment error. -/
def errorReply (error : PaymentError) : Reply where
  status := error.status
  body := some (.obj [("code", .str error.code), ("message", .str error.message)])

def errorRecord (path : String) (error : PaymentError) : Log.Record where
  level := if error.status ≥ 500 then .error else .info
  logger := errorLogger
  message := "PaymentError: " ++ error.message
  attributes := [("error_code", .text error.code), ("path", .text path)]

/-- The record of a fault, which says what is known of its cause. -/
def faultRecord (path : String) (cause : Option String) : Log.Record where
  level := .error
  logger := errorLogger
  message := "Unhandled exception on " ++ path ++ ((cause.map (": " ++ ·)).getD "")

def receivedRecord (request : PaymentRequest) : Log.Record where
  level := .info
  logger := routeLogger
  message := "Payment request received"
  attributes := [("payment_type", .ofField request.paymentType),
    ("destination", .ofField request.destination)]

/-- The names of members that no reply shows. -/
def isHidden (name : Str) : Bool := ("_sa".toList.map .char).isPrefixOf name.points

/-- The answer to the end of a payment, and the record that it leaves. The answer of the ledger is
shown without hidden members, and what then has no written form is a fault. -/
def conclude (path : String) : Except Failure Json → Reply × List Log.Record
  | .ok body =>
    let shown := body.without isHidden
    if shown.isWritable then ({ status := 200, body := some shown }, [])
    else (errorReply .serverError, [faultRecord path none])
  | .error (.payment e) => (errorReply e, [errorRecord path e])
  | .error (.fault _) => (errorReply .serverError, [faultRecord path none])

/-- Run a payment. -/
def pay (gateway : Gateway) (path : String) (form : Form) (network : Network) : Handled :=
  let request := PaymentRequest.ofForm form
  let (result, session) :=
    (Pipeline.execute gateway.collaborators gateway.pipeline request).run { world := network }
  let (reply, records) := conclude path result
  { reply, logs := receivedRecord request :: session.logs ++ records, network := session.world }

def healthReply : Reply where
  status := 200
  body := some (.obj [("status", .str "healthy"), ("service", .str "payment-gateway")])

def readyReply : Reply where
  status := 200
  body := some (.obj [("status", .str "ready"), ("checks", .obj [("horizon", .str "healthy")])])

def notReadyReply : Reply where
  status := 503
  body := some (.obj [("status", .str "not_ready"), ("reason", .str "horizon_unavailable")])

/-- Ask whether the ledger is there. -/
def checkReadiness (gateway : Gateway) (path : String) (network : Network) : Handled :=
  match gateway.probe with
  | none => { reply := notReadyReply, network }
  | some client =>
    match client.isHealthy network with
    | (.ok true, network) => { reply := readyReply, network }
    | (.ok false, network) => { reply := notReadyReply, network }
    | (.error cause, network) =>
      { reply := errorReply .serverError, logs := [faultRecord path cause.message], network }

/-- Answer a request. -/
def answer (gateway : Gateway) (request : Request) (network : Network) : Handled :=
  match dispatch request with
  | .error reply => { reply, network }
  | .ok .health => { reply := healthReply, network }
  | .ok .readiness => gateway.checkReadiness (String.ofList request.path) network
  | .ok .payment =>
    match readForm request.contentType request.body with
    | .error (.error e) => { reply := .detail 400 e.message, network }
    | .error (.fault _) =>
      { reply := errorReply .serverError, logs := [faultRecord (String.ofList request.path) none]
        network }
    | .ok form => gateway.pay (String.ofList request.path) form network

/-- Answer a request. The answer to `HEAD` has no body. -/
def handle (gateway : Gateway) (request : Request) (network : Network) : Handled :=
  let handled := gateway.answer request network
  if request.method = "HEAD" then { handled with reply := { handled.reply with body := none } }
  else handled

end Gateway

end Paygate.Service
