import Paygate.Http.Fault

/-!
# Payment errors

The thirteen ways in which a payment ends with an answer to the client. Each has a code that never
changes, a message, a category and an HTTP status; `serverError` is the only one with status 500.

Failures outside this list are `Fault`s. Nothing in the payment pipeline handles a fault; the web
service answers all of them in the same way as `serverError`.
-/

namespace Paygate

inductive ErrorCategory where
  | validation
  | resolution
  | businessRule
  | resourceNotFound
  | internal
deriving DecidableEq, Repr

def ErrorCategory.name : ErrorCategory → String
  | validation => "validation"
  | resolution => "resolution"
  | businessRule => "business_rule"
  | resourceNotFound => "resource_not_found"
  | internal => "internal"

inductive PaymentError where
  | invalidSource
  | cannotResolveDestination
  | invalidDestination
  | invalidType
  | missingMemoParameter
  | cannotUseMemo
  | invalidMemo
  | missingAssetParameter
  | invalidIssuer
  | malformedAssetCode
  | invalidAmount
  | sourceNotExist
  | serverError
deriving DecidableEq, Repr

namespace PaymentError

def message : PaymentError → String
  | invalidSource => "source parameter is invalid."
  | cannotResolveDestination => "Cannot resolve federated Stellar address."
  | invalidDestination => "destination parameter is invalid."
  | invalidType => "type parameter is invalid."
  | missingMemoParameter => "memo and memo_type parameters must be set together."
  | cannotUseMemo => "Memo given in request but federation returned memo fields."
  | invalidMemo => "memo parameter is invalid."
  | missingAssetParameter => "asset code and asset issuer parameters must be set together."
  | invalidIssuer => "asset_issuer parameter is invalid."
  | malformedAssetCode => "asset_code parameter is invalid."
  | invalidAmount => "amount parameter is invalid."
  | sourceNotExist => "Source account does not exist."
  | serverError => "Server error."

def code : PaymentError → String
  | invalidSource => "invalid_source"
  | cannotResolveDestination => "cannot_resolve_destination"
  | invalidDestination => "invalid_destination"
  | invalidType => "invalid_type"
  | missingMemoParameter => "missing_parameter_memo"
  | cannotUseMemo => "cannot_use_memo"
  | invalidMemo => "invalid_memo"
  | missingAssetParameter => "missing_parameter_asset"
  | invalidIssuer => "invalid_issuer"
  | malformedAssetCode => "asset_code_invalid"
  | invalidAmount => "invalid_amount"
  | sourceNotExist => "source_not_exist"
  | serverError => "server_error"

def category : PaymentError → ErrorCategory
  | cannotResolveDestination => .resolution
  | cannotUseMemo => .businessRule
  | sourceNotExist => .resourceNotFound
  | serverError => .internal
  | _ => .validation

def status : PaymentError → Nat
  | serverError => 500
  | _ => 400

end PaymentError

/-- A value that breaks a rule of its type. -/
inductive Malformed where
  | halfAsset
  | memoId (value : Int)
  | memoHash (length : Nat)
  | halfMemo
deriving DecidableEq, Repr

def Malformed.message : Malformed → String
  | halfAsset => "IssuedAsset requires both code and issuer"
  | memoId value => "IdMemo out of uint64 range: " ++ toString value
  | memoHash length => "HashMemo requires 32 bytes, got " ++ toString length
  | halfMemo => "memo_type and memo must be set together"

/-- A failure that no stage of the pipeline turns into a payment error. -/
inductive Fault where
  /-- A value broke a rule of its type. -/
  | malformed (cause : Malformed)
  /-- A numeral has more digits than are converted. -/
  | numeralTooLong
  /-- A file stands where a text is needed. -/
  | notText
  /-- A fee does not fit into 32 bits. -/
  | feeRange
  /-- An exchange with a server broke off. -/
  | exchange (cause : Http.Fault)
deriving DecidableEq, Repr

/-- Why a run of the pipeline ended without a result. -/
inductive Failure where
  | payment (error : PaymentError)
  | fault (fault : Fault)
deriving DecidableEq, Repr

end Paygate
