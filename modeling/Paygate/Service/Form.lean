import Paygate.Payment.Request
import Paygate.Service.Multipart

/-!
# Forms of requests

The content type of a request says how its body writes a form; a body of any other type is an empty
form. If a name is repeated, its last field counts. Nobody asks for a field under a broken name.
-/

namespace Paygate.Service

/-- The fields of an encoded text. The bytes stand for the characters of the same codes. -/
def readUrlencoded (body : Bytes) : Except FormError (List (Str × Field)) :=
  let pairs := Percent.readPairs (Multipart.latinText body).toList
  if pairs.length > fieldLimit then .error .tooManyFields
  else .ok (pairs.map fun (name, value) => (.whole name, .text value))

/-- The fields of a body, in order. -/
def readFields (contentType : String) (body : Bytes) :
    Except FormFailure (List (Str × Field)) := do
  let header ← (Http.HeaderValue.ofString contentType).mapError (.fault ∘ .parameters)
  if header.value = "application/x-www-form-urlencoded" then (readUrlencoded body).mapError .error
  else if header.value = "multipart/form-data" then
    match header.parameter? "boundary" with
    | none => .error (.error .missingBoundary)
    | some boundary =>
      Multipart.read ((header.parameter? "charset").getD "utf-8") (Multipart.latinBytes boundary) body
  else .ok []

/-- The form of a body. A later field stands before an earlier one. -/
def readForm (contentType : String) (body : Bytes) : Except FormFailure Form :=
  (readFields contentType body).map fun fields =>
    fields.reverse.filterMap fun (name, field) => name.whole?.map (·, some field)

end Paygate.Service
