import Paygate.Text.Blank

/-!
# Headers

The headers of a message in order. Names do not depend on case, and several headers of one name
count as one whose values are joined by commas.
-/

namespace Paygate.Http

abbrev Headers := List (String × String)

namespace Headers

def lowerName (name : String) : String := String.ofList (name.toList.map Char.toLower)

/-- The values of the headers of a name, in order. -/
def values (headers : Headers) (name : String) : List String :=
  (headers.filter fun header => lowerName header.1 == lowerName name).map (·.2)

/-- The value of all headers of a name together. -/
def get? (headers : Headers) (name : String) : Option String :=
  match headers.values name with
  | [] => none
  | values => some (", ".intercalate values)

/-- The items of a list that the headers of a name write with commas. -/
def items (headers : Headers) (name : String) : List String :=
  (headers.values name).flatMap fun value =>
    (value.toList.splitOn ',').map fun item => String.ofList (Text.trim Text.blank item)

/-- The first name or value that is not ASCII. -/
def foreign? (headers : Headers) : Option String :=
  (headers.flatMap fun header => [header.1, header.2]).find? fun text =>
    text.toList.any (128 ≤ ·.toNat)

end Headers

end Paygate.Http
