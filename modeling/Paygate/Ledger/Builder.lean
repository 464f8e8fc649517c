import Paygate.Ledger.Xdr
import Paygate.Payment.Operation
import Paygate.Text.Quoted

/-!
# Building envelopes

`build` brings a transaction into the ledger's form, signs it and encodes it. The parts of an
operation are checked in the order in which they stand: an asset is its code and then its issuer,
the destination and the length of the path come after the amounts. The source, the memo and the
seed are checked after the operation, and a fee that does not fit is found last of all.
-/

namespace Paygate

inductive BuilderErrorKind where
  | invalidAssetCode
  | invalidAmount
  | other
deriving DecidableEq, Repr

def BuilderErrorKind.name : BuilderErrorKind → String
  | invalidAssetCode => "invalid_asset_code"
  | invalidAmount => "invalid_amount"
  | other => "other"

/-- Why no envelope was built. -/
inductive BuilderError where
  | assetCode (code : Str)
  | amountUnreadable (amount : Str)
  | amountOutOfRange (amount : Str)
  | unsupportedOperation (name : String)
  | sequenceTooLarge (sequence : Int)
  /-- The ledger's form has no place for a value: a bad key, a long memo or path, a file. -/
  | rejected
  /-- The builder says so itself. -/
  | reported (kind : BuilderErrorKind) (message : String)
deriving DecidableEq, Repr

namespace BuilderError

def kind : BuilderError → BuilderErrorKind
  | assetCode _ => .invalidAssetCode
  | amountUnreadable _ => .invalidAmount
  | amountOutOfRange _ => .invalidAmount
  | unsupportedOperation _ => .other
  | sequenceTooLarge _ => .other
  | rejected => .other
  | reported kind _ => kind

/-- The message of an error, empty for a value that the ledger's form rejects. -/
def message : BuilderError → String
  | assetCode code => "Asset code length is invalid: " ++ Text.quoted code
  | amountUnreadable amount => "cannot parse amount: " ++ Text.quoted amount
  | amountOutOfRange amount => "amount out of range: " ++ Text.quoted amount
  | unsupportedOperation name => "Unknown operation plan: " ++ Text.quoted name
  | sequenceTooLarge sequence => "Sequence " ++ toString sequence ++ " exceeds int64"
  | rejected => ""
  | reported _ message => message

end BuilderError

/-- The payment error of a kind of builder error. -/
def BuilderErrorKind.paymentError : BuilderErrorKind → PaymentError
  | invalidAssetCode => .malformedAssetCode
  | invalidAmount => .invalidAmount
  | other => .serverError

inductive BuildFailure where
  | error (error : BuilderError)
  | fault (fault : Fault)
deriving DecidableEq, Repr

namespace Builder

abbrev Result := Except BuildFailure

def reject {α : Type} : Result α := .error (.error .rejected)

def amount (value : Field) : Result Stroops :=
  match value with
  | .upload => reject
  | .text (.broken s) => .error (.error (.amountUnreadable (.broken s)))
  | .text (.whole s) =>
    match Amount.parse s with
    | .ok stroops => .ok stroops
    | .error .unreadable => .error (.error (.amountUnreadable s))
    | .error .outOfRange => .error (.error (.amountOutOfRange s))

def assetCode (value : Field) : Result Ledger.AssetCode :=
  match value with
  | .upload => reject
  | .text (.broken s) => .error (.error (.assetCode (.broken s)))
  | .text (.whole s) =>
    if h : (0 < s.toList.length ∧ s.toList.length ≤ 12) ∧ s.toList.all Ledger.isCodeChar then
      .ok ⟨s.toList, h⟩
    else .error (.error (.assetCode s))

def accountKey (text : String) : Result Bytes32 :=
  match StrKey.decode? .account text with
  | some payload => .ok payload
  | none => reject

def issuer (value : Field) : Result Bytes32 :=
  match value with
  | .upload => .error (.fault .notText)
  | .text (.broken _) => reject
  | .text (.whole s) => accountKey s

def asset : Asset → Result Ledger.Asset
  | .native => .ok .native
  | .issued asset => do
    let code ← assetCode asset.code
    let issuer ← issuer asset.issuer
    pure (.credit code issuer)

/-- A source or destination: an account key, or a multiplexed account whose last eight bytes are the
id. -/
def account (text : String) : Result Ledger.Account :=
  match StrKey.decode? .account text with
  | some payload => .ok (.key payload)
  | none =>
    match StrKey.decode? .muxed text with
    | some payload =>
      .ok (.muxed ⟨payload.1.take 32, by simp [payload.2, KeyKind.payloadLength]⟩
        (UInt64.ofNat (Bytes.toNat (payload.1.drop 32))))
    | none => reject

def path (assets : List Ledger.Asset) : Result Ledger.Path :=
  if h : assets.length ≤ 5 then .ok ⟨assets, h⟩ else reject

def operation : Operation → Result Ledger.Operation
  | .createAccount destination startingBalance => do
    let startingBalance ← amount startingBalance
    let destination ← accountKey destination
    pure (.createAccount destination startingBalance)
  | .payment destination sent value => do
    let sent ← asset sent
    let value ← amount value
    let destination ← account destination
    pure (.payment destination sent value)
  | .pathPayment destination sendAsset sendMax destinationAsset destinationAmount legs => do
    let sendAsset ← asset sendAsset
    let sendMax ← amount sendMax
    let destinationAsset ← asset destinationAsset
    let destinationAmount ← amount destinationAmount
    let legs ← legs.mapM asset
    let destination ← account destination
    let legs ← path legs
    pure (.pathPayment sendAsset sendMax destination destinationAsset destinationAmount legs)
  | .unsupported name => .error (.error (.unsupportedOperation name))

/-- A broken text has no bytes. -/
def memoText (s : Str) : Result Ledger.MemoText :=
  match s with
  | .broken _ => reject
  | .whole s => if h : (Bytes.ofString s).length ≤ 28 then .ok ⟨Bytes.ofString s, h⟩ else reject

def memo : Memo → Result Ledger.Memo
  | .none => .ok .none
  | .id value => .ok (.id value)
  | .text .upload => reject
  | .text (.text s) => do pure (.text (← memoText s))
  | .hash digest => .ok (.hash digest)

def seed (text : String) : Result Bytes32 :=
  match StrKey.decode? .seed text with
  | some payload => .ok payload
  | none => reject

def fee (value : Int) : Result UInt32 :=
  if 0 ≤ value ∧ value < UInt32.size then .ok (UInt32.ofNat value.toNat) else .error (.fault .feeRange)

/-- The greatest sequence number of the ledger, that of 63 bits. -/
def sequenceLimit : Int := 9223372036854775807

/-- The transaction in the ledger's form and the seed that signs it. -/
def lower (t : Transaction) (signer : String) : Result (Ledger.Transaction × Bytes32) := do
  if t.sequence > sequenceLimit then throw (.error (.sequenceTooLarge t.sequence))
  let operation ← operation t.operation
  let memo ← memo t.memo
  let source ← account t.source
  let seed ← seed signer
  let fee ← fee t.baseFee
  pure (⟨source, fee, Int64.ofInt t.sequence, memo, operation⟩, seed)

/-- The signed envelope of a transaction. -/
def envelope (t : Transaction) (signer : String) : Result Ledger.Envelope := do
  let (lowered, seed) ← lower t signer
  pure (lowered.sign t.passphrase seed)

end Builder

end Paygate
