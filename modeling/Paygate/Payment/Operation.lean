import Paygate.Payment.Amount
import Paygate.Payment.Asset
import Paygate.Payment.Memo

/-!
# Operations and transactions

What a payment asks the ledger to do, before any of it is brought into the ledger's own form: keys
and amounts are still the texts of the request. `unsupported` is an operation that no transaction
can carry.
-/

namespace Paygate

inductive Operation where
  | createAccount (destination : String) (startingBalance : Field)
  | payment (destination : String) (asset : Asset) (amount : Field)
  | pathPayment (destination : String) (sendAsset : Asset) (sendMax : Field)
      (destinationAsset : Asset) (destinationAmount : Field) (path : List Asset)
  | unsupported (name : String)
deriving DecidableEq

/-- A transaction with one operation. The sequence number is that of the account plus one. -/
structure Transaction where
  source : String
  sequence : Int
  passphrase : String
  baseFee : Int
  operation : Operation
  memo : Memo
deriving DecidableEq

/-- The type of a payment. -/
inductive PaymentType where
  | none
  | payment
  | pathPayment
deriving DecidableEq, Repr

namespace PaymentType

def value : PaymentType → String
  | none => ""
  | payment => "payment"
  | pathPayment => "path_payment"

def parse (value : Field) : Except PaymentError PaymentType :=
  match value with
  | .upload => .error .invalidType
  | .text s =>
    if s = "" then .ok none
    else if s = "payment" then .ok payment
    else if s = "path_payment" then .ok pathPayment
    else .error .invalidType

end PaymentType

namespace Operation

/-- A payment in the native asset to an account that does not exist creates the account; any other
payment is a payment. -/
def compose (destination : String) (asset : Asset) (amount : Field) (exists_ : Bool) : Operation :=
  if asset.isNative && !exists_ then .createAccount destination amount
  else .payment destination asset amount

end Operation

/-- The number that follows the sequence number of an account. -/
def nextSequence (current : Str) : Except Failure Nat :=
  match parseUInt64 current with
  | .error f => .error (.fault f)
  | .ok .none => .error (.payment .serverError)
  | .ok (.some n) => .ok (n.toNat + 1)

/-- The transaction of an operation, with the sequence number after that of the account. -/
def Transaction.assemble (source : String) (sequence : Str) (passphrase : String) (baseFee : Int)
    (operation : Option Operation) (memo : Memo) : Except Failure Transaction :=
  match nextSequence sequence with
  | .error e => .error e
  | .ok next =>
    match operation with
    | .none => .error (.payment .serverError)
    | .some operation => .ok ⟨source, next, passphrase, baseFee, operation, memo⟩

end Paygate
