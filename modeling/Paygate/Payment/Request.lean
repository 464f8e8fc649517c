import Paygate.Payment.Operation

/-!
# Payment requests

A request is read from a form, a list of names and values in which a name has at most one value.
A field that is absent, or has no value, is the empty text. The path is read leg by leg: leg `i`
exists if the form has the name `path[i][asset_code]`, and the first index that is missing ends it.
-/

namespace Paygate

/-- Names with values; `none` for a name without a value. -/
abbrev Form := List (String × Option Field)

structure PaymentRequest where
  source : Field := ""
  destination : Field := ""
  paymentType : Field := ""
  amount : Field := ""
  assetCode : Field := ""
  assetIssuer : Field := ""
  sendMax : Field := ""
  sendAssetCode : Field := ""
  sendAssetIssuer : Field := ""
  destinationAmount : Field := ""
  destinationAssetCode : Field := ""
  destinationAssetIssuer : Field := ""
  path : List (Field × Field) := []
  memoType : Field := ""
  memo : Field := ""
deriving DecidableEq, Repr

namespace Form

/-- The value of a name, empty if the name is absent or has no value. -/
def value (form : Form) (name : String) : Field := ((form.lookup name).getD none).getD ""

def has (form : Form) (name : String) : Bool := (form.lookup name).isSome

def codeName (index : Nat) : String := "path[" ++ toString index ++ "][asset_code]"

def issuerName (index : Nat) : String := "path[" ++ toString index ++ "][asset_issuer]"

/-- The legs from `index` on, at most `fuel` of them. -/
def legsFrom (form : Form) : (fuel : Nat) → (index : Nat) → List (Field × Field)
  | 0, _ => []
  | fuel + 1, index =>
    if form.has (codeName index) then
      (form.value (codeName index), form.value (issuerName index)) :: form.legsFrom fuel (index + 1)
    else []

/-- The legs of the path. A form has no more legs than names. -/
def legs (form : Form) : List (Field × Field) := form.legsFrom form.length 0

end Form

namespace PaymentRequest

def ofForm (form : Form) : PaymentRequest where
  source := form.value "source"
  destination := form.value "destination"
  paymentType := form.value "type"
  amount := form.value "amount"
  assetCode := form.value "asset_code"
  assetIssuer := form.value "asset_issuer"
  sendMax := form.value "send_max"
  sendAssetCode := form.value "send_asset_code"
  sendAssetIssuer := form.value "send_asset_issuer"
  destinationAmount := form.value "destination_amount"
  destinationAssetCode := form.value "destination_asset_code"
  destinationAssetIssuer := form.value "destination_asset_issuer"
  path := form.legs
  memoType := form.value "memo_type"
  memo := form.value "memo"

/-- The asset of a payment. Its issuer must be an account key. -/
def asset (request : PaymentRequest) : Except Failure Asset :=
  Asset.resolveChecked request.assetCode request.assetIssuer

/-- The operation of a path payment. The send asset is read first, then the destination asset, then
the path. -/
def pathPayment (request : PaymentRequest) (destination : String) : Except PaymentError Operation := do
  let sendAsset ← Asset.resolve request.sendAssetCode request.sendAssetIssuer
  let destinationAsset ← Asset.resolve request.destinationAssetCode request.destinationAssetIssuer
  let path ← Asset.resolveAll request.path
  pure (.pathPayment destination sendAsset request.sendMax destinationAsset
    request.destinationAmount path)

/-- The seed that signs and the account that it belongs to. -/
def signer (source : Field) : Except Failure (String × String) :=
  match source with
  | .upload => .error (.fault .notText)
  | .text (.broken _) => .error (.payment .invalidSource)
  | .text (.whole seed) =>
    match StrKey.decode? .seed seed with
    | none => .error (.payment .invalidSource)
    | some payload => .ok (seed, StrKey.accountOfSeed payload.1)

end PaymentRequest

end Paygate
