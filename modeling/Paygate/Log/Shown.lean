import Paygate.Json.Writer
import Paygate.Text.Quoted

/-!
# Values in messages

How a value is shown inside a message: a text as it is, any other value by its literal form, in which
texts are quoted. A whole number with more digits than are converted is not shown, and neither is a
value that holds one.
-/

namespace Paygate.Json

mutual
/-- The literal form of a value, if its numbers are converted. -/
def literal : Json → String
  | .null => "None"
  | .bool b => if b then "True" else "False"
  | .int n => toString n
  | .float x => x.toText
  | .str s => Text.quoted s
  | .arr [] => "[]"
  | .arr (item :: items) => "[" ++ literal item ++ literalItems items ++ "]"
  | .obj [] => "\x7b\x7d"
  | .obj ((name, value) :: members) =>
    "\x7b" ++ Text.quoted name ++ ": " ++ literal value ++ literalMembers members ++ "\x7d"

def literalItems : List Json → String
  | [] => ""
  | item :: items => ", " ++ literal item ++ literalItems items

def literalMembers : List (Str × Json) → String
  | [] => ""
  | (name, value) :: members =>
    ", " ++ Text.quoted name ++ ": " ++ literal value ++ literalMembers members
end

/-- The value as a message shows it, if its numbers are converted. -/
def shown : Json → Str
  | .str s => s
  | value => value.literal

def literal? (value : Json) : Option String :=
  if value.isConvertible then some value.literal else none

def shown? (value : Json) : Option Str :=
  if value.isConvertible then some value.shown else none

end Paygate.Json
