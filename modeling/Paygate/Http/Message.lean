import Paygate.Charset.Name
import Paygate.Http.Fault
import Paygate.Http.Headers
import Paygate.Http.Parameters
import Paygate.Json.Reader

/-!
# Requests and responses

What the gateway sends to other servers and what it gets back. The text of a response is read in the
charset of its content type, as UTF-8 if the charset is missing or unknown, and gets a replacement
character for whatever is not in that charset.
-/

namespace Paygate.Http

inductive Method where
  | get
  | post
deriving DecidableEq, Repr

def Method.name : Method → String
  | get => "GET"
  | post => "POST"

structure Request where
  method : Method
  url : String
  body : String := ""
deriving DecidableEq, Repr

structure Response where
  status : Nat
  headers : Headers := []
  body : Bytes
deriving DecidableEq, Repr

namespace Response

def isSuccess (response : Response) : Bool := 200 ≤ response.status && response.status < 300

/-- The name in a `charset` parameter. An extended value is read in its own charset if that works. -/
def charsetName (parameter : Parameter) : Except Charset.Fault Str :=
  match parameter.charset with
  | none => .ok parameter.text
  | some own => do
    match ← Charset.ofName? (if own.isEmpty then "us-ascii" else own) with
    | none => .ok parameter.text
    | some charset =>
      match charset.decode? (parameter.text.toList.map fun c => UInt8.ofNat c.toNat) with
      | .ok text => .ok (text.getD parameter.text)
      | .error .missingSet => .error .missingSet
      | .error _ => .ok parameter.text

/-- The charset that a name in ASCII stands for. -/
def charsetNamed : (name : Str) → Except Charset.Fault Charset
  | .broken _ => .ok .utf8
  | .whole name =>
    if name.toList.all (·.toNat < 128) then (Charset.ofName? name).map (·.getD .utf8) else .ok .utf8

/-- The charset of a content type. -/
def charsetOf (contentType : String) : Except Fault Charset := do
  let header ← (HeaderValue.ofString contentType).mapError .parameters
  match header.firstNamed? "charset" with
  | none => .ok .utf8
  | some parameter => (charsetName parameter >>= charsetNamed).mapError .charset

def text (response : Response) : Except Fault Str :=
  if response.body.isEmpty then .ok ""
  else
    match response.headers.get? "content-type" with
    | none => .ok (String.ofList (Utf8.decodeLossy response.body))
    | some contentType => do
      let charset ← charsetOf contentType
      (charset.decodeLossy response.body).mapError .charset

/-- The JSON value of the body, if it is one. -/
def json? (response : Response) : Except Fault (Option Json) :=
  match Json.ofBytes response.body with
  | .ok json => .ok (some json)
  | .error .malformed => .ok none
  | .error .tooDeep => .error .tooDeep

end Response

end Paygate.Http
