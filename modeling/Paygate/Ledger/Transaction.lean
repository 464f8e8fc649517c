import Paygate.Bytes.Basic
import Paygate.Payment.Amount

/-!
# Transactions in the ledger's form

Keys are bytes, amounts are counted in stroops, and every value fits the field that carries it. A
transaction has one operation and no preconditions; its envelope has one signature.
-/

namespace Paygate.Ledger

/-- An account as source or destination: a key, with an id if the account is multiplexed. -/
inductive Account where
  | key (key : Bytes32)
  | muxed (key : Bytes32) (id : UInt64)
deriving DecidableEq

def isCodeChar (c : Char) : Bool := c.isAlphanum

/-- One to twelve ASCII letters and digits. -/
abbrev AssetCode := { code : List Char // (0 < code.length ∧ code.length ≤ 12) ∧ code.all isCodeChar }

inductive Asset where
  | native
  | credit (code : AssetCode) (issuer : Bytes32)
deriving DecidableEq

/-- At most 28 bytes. -/
abbrev MemoText := { bytes : Bytes // bytes.length ≤ 28 }

inductive Memo where
  | none
  | text (text : MemoText)
  | id (value : UInt64)
  | hash (digest : Bytes32)
deriving DecidableEq

/-- At most five assets between the one sent and the one received. -/
abbrev Path := { path : List Asset // path.length ≤ 5 }

inductive Operation where
  | createAccount (destination : Bytes32) (startingBalance : Stroops)
  | payment (destination : Account) (asset : Asset) (amount : Stroops)
  | pathPayment (sendAsset : Asset) (sendMax : Stroops) (destination : Account)
      (destinationAsset : Asset) (destinationAmount : Stroops) (path : Path)
deriving DecidableEq

structure Transaction where
  source : Account
  fee : UInt32
  sequence : Int64
  memo : Memo
  operation : Operation
deriving DecidableEq

/-- A transaction with a signature and the last four bytes of the key that made it. -/
structure Envelope where
  transaction : Transaction
  hint : { bytes : Bytes // bytes.length = 4 }
  signature : { bytes : Bytes // bytes.length = 64 }
deriving DecidableEq

end Paygate.Ledger
