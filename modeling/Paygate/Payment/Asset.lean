import Paygate.Payment.Error
import Paygate.Payment.Field
import Paygate.StrKey

/-!
# Assets

An asset is the native one or has a code and an issuer, both not empty. `resolve` reads a pair of
form values: both empty is the native asset, both set an issued one, and anything else is an error.
-/

namespace Paygate

structure IssuedAsset where
  code : Field
  issuer : Field
  code_ne_empty : code.isEmpty = false
  issuer_ne_empty : issuer.isEmpty = false
deriving DecidableEq, Repr

inductive Asset where
  | native
  | issued (asset : IssuedAsset)
deriving DecidableEq, Repr

namespace Asset

instance : Inhabited Asset := ⟨.native⟩

def isNative : Asset → Bool
  | native => true
  | issued _ => false

/-- An issued asset, if neither part is empty. -/
def issue (code issuer : Field) : Except Malformed Asset :=
  if h : code.isEmpty = false ∧ issuer.isEmpty = false then .ok (.issued ⟨code, issuer, h.1, h.2⟩)
  else .error .halfAsset

/-- The pair of form values that the asset is read from. -/
def pair : Asset → Field × Field
  | native => ("", "")
  | issued asset => (asset.code, asset.issuer)

/-- The asset of a pair of form values. -/
def resolve (code issuer : Field) : Except PaymentError Asset :=
  if hc : code.isEmpty = false then
    if hi : issuer.isEmpty = false then .ok (.issued ⟨code, issuer, hc, hi⟩)
    else .error .missingAssetParameter
  else if issuer.isEmpty then .ok .native
  else .error .missingAssetParameter

/-- The assets of several pairs in order; the first error counts. -/
def resolveAll (pairs : List (Field × Field)) : Except PaymentError (List Asset) :=
  pairs.mapM fun (code, issuer) => resolve code issuer

end Asset

/-- An account key. A file where a key is expected is a fault. -/
def AccountId.validate (value : Field) (error : PaymentError) : Except Failure String :=
  match value with
  | .upload => .error (.fault .notText)
  | .text s =>
    match StrKey.key? .account s with
    | some key => .ok key
    | none => .error (.payment error)

namespace Asset

/-- The asset of a pair of form values whose issuer must be an account key. -/
def resolveChecked (code issuer : Field) : Except Failure Asset :=
  match resolve code issuer with
  | .error e => .error (.payment e)
  | .ok .native => .ok .native
  | .ok (.issued asset) =>
    match AccountId.validate asset.issuer .invalidIssuer with
    | .error e => .error e
    | .ok _ => .ok (.issued asset)

end Asset

end Paygate
