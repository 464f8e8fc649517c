import Paygate.Payment.Request
import Paygate.Pipeline.Session

/-!
# The payment pipeline

`execute` takes a request through its stages: source, destination, operation, memo, source account,
assembly, building, submission. The first failure ends it. The destination of a native payment is
looked up before the operation is composed: if the ledger confirms that it does not exist, the
payment creates it, and if the lookup itself fails the payment ends with `serverError`.
-/

namespace Paygate.Pipeline

variable {ω : Type}

/-- What every transaction of a gateway carries. -/
structure Config where
  passphrase : String
  baseFee : Int := 100
deriving DecidableEq, Repr

def pipelineLogger : String := "gateway.services.payment_pipeline"

def destinationLogger : String := "gateway.services.resolve_destination"

def builderLogger : String := "gateway.infrastructure.transaction_builder"

/-- The account and memo behind an address. The account must be an account key, whoever names it. -/
def resolveDestination (c : Collaborators ω) (address : Field) : Run ω Destination := do
  match ← Run.ask (.resolve address) (c.resolve address) with
  | .error (.fault f) => Run.fault f
  | .error (.unresolved message) =>
    Run.log {
      level := .info, logger := destinationLogger
      message := .whole "Cannot resolve address: " ++ message
      attributes := [("destination", .ofField address)] }
    Run.fail .cannotResolveDestination
  | .ok record =>
    match StrKey.key? .account record.account with
    | some account =>
      match Destination.make account record.memoType record.memo with
      | .ok destination => pure destination
      | .error cause => Run.fault (.malformed cause)
    | none =>
      Run.log {
        level := .info, logger := destinationLogger
        message := "Invalid account_id in destination"
        attributes := [("account_id", .text record.account)] }
      Run.fail .invalidDestination

/-- Whether an account exists. A lookup that fails is no answer. -/
def destinationExists (c : Collaborators ω) (account : String) : Run ω Bool := do
  match ← Run.ask (.load account) (c.load account) with
  | .ok _ => pure true
  | .error (.fault f) => Run.fault f
  | .error (.error (.accountNotFound _)) =>
    Run.log {
      level := .info, logger := pipelineLogger
      message := "Destination does not exist, creating account"
      attributes := [("account_id", .text account)] }
    pure false
  | .error (.error e) =>
    Run.log {
      level := .error, logger := pipelineLogger
      message := "Cannot check destination account: " ++ e.message
      attributes := [("account_id", .text account)] }
    Run.fail .serverError

/-- The operation of a request; none for the empty type. -/
def composeOperation (c : Collaborators ω) (request : PaymentRequest) (destination : Destination) :
    Run ω (Option Operation) := do
  let type ← Run.ofPayment (PaymentType.parse request.paymentType)
  Run.log {
    level := .debug, logger := pipelineLogger, message := "Composing operation"
    attributes := [("payment_type", .text type.value)] }
  match type with
  | .none => pure none
  | .pathPayment => do
    let operation ← Run.ofPayment (request.pathPayment destination.account)
    pure (some operation)
  | .payment => do
    let asset ← Run.ofExcept request.asset
    let found ← if asset.isNative then destinationExists c destination.account else pure true
    pure (some (Operation.compose destination.account asset request.amount found))

/-- The sequence of the source account. -/
def loadSequence (c : Collaborators ω) (account : String) : Run ω Str := do
  match ← Run.ask (.load account) (c.load account) with
  | .ok record => pure record.sequence
  | .error (.fault f) => Run.fault f
  | .error (.error e) =>
    Run.log {
      level := .error, logger := pipelineLogger
      message := "Cannot load source account: " ++ e.message
      attributes := [("account_id", .text account)] }
    Run.fail .sourceNotExist

def buildEnvelope (c : Collaborators ω) (transaction : Transaction) (seed : String) :
    Run ω String := do
  match ← Run.ask (.build transaction seed) (c.build transaction seed) with
  | .ok envelope => pure envelope
  | .error (.fault f) => Run.fault f
  | .error (.error e) =>
    let error := e.kind.paymentError
    Run.log {
      level := .warning, logger := pipelineLogger
      message := "Transaction builder error: " ++ e.message
      attributes := [("error_code", .text error.code), ("sequence", .json (.int transaction.sequence))] }
    Run.fail error

def submit (c : Collaborators ω) (envelope : String) : Run ω Json := do
  match ← Run.ask (.submit envelope) (c.submit envelope) with
  | .ok response => pure response
  | .error (.fault f) => Run.fault f
  | .error (.error e) =>
    Run.log {
      level := .error, logger := pipelineLogger
      message := "Error submitting transaction: " ++ e.message }
    Run.fail .serverError

/-- Take a request through all stages and return the ledger's answer to the submission. -/
def execute (c : Collaborators ω) (config : Config) (request : PaymentRequest) : Run ω Json := do
  let (seed, source) ← Run.ofExcept (PaymentRequest.signer request.source)
  let destination ← resolveDestination c request.destination
  let operation ← composeOperation c request destination
  let memo ← Run.ofExcept (Memo.resolve request.memoType request.memo destination)
  let sequence ← loadSequence c source
  let transaction ← Run.ofExcept
    (Transaction.assemble source sequence config.passphrase config.baseFee operation memo)
  let envelope ← buildEnvelope c transaction seed
  submit c envelope

/-- The builder that makes real envelopes. It writes a record if the ledger's form rejects a value. -/
def ledgerBuilder (transaction : Transaction) (seed : String) (world : ω) :
    Answer ω (Except BuildFailure String) :=
  match Builder.envelope transaction seed with
  | .ok envelope => { value := .ok envelope.text, world }
  | .error (.error .rejected) =>
    { value := .error (.error .rejected), world
      logs := [{
        level := .warning, logger := builderLogger
        message := "stellar_sdk rejected transaction: " }] }
  | .error e => { value := .error e, world }

end Paygate.Pipeline
