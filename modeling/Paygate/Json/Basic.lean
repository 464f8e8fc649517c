import Paygate.Entries
import Paygate.Number.Binary64
import Paygate.Text.Str

/-!
# JSON values

Whole numbers are exact. The members of an object stand in the order of their first appearance,
with one value per name. Texts and names may be broken: such a value can be read and passed on
inside the program, but it has no written form in any encoding.
-/

namespace Paygate

inductive Json where
  | null
  | bool (value : Bool)
  | int (value : Int)
  | float (value : Binary64)
  | str (value : Str)
  | arr (items : List Json)
  | obj (members : List (Str × Json))
deriving Repr, Inhabited

namespace Json

/-- An object in which a later value of a name replaces an earlier one. -/
def ofMembers (members : List (Str × Json)) : Json := .obj (Entries.ofPairs members)

/-- The value of a name in an object. -/
def get? (json : Json) (name : Str) : Option Json :=
  match json with
  | .obj members => members.lookup name
  | _ => none

def text? : Json → Option Str
  | .str s => some s
  | _ => none

/-- Empty values, zeros, `false` and `null`. -/
def isFalsy : Json → Bool
  | .null => true
  | .bool b => !b
  | .int n => n == 0
  | .float x => x.isZero
  | .str s => s.isEmpty
  | .arr items => items.isEmpty
  | .obj members => members.isEmpty

mutual
/-- Whether a value can be written and sent: all its numbers are finite and all its texts are
whole. -/
def isWritable : Json → Bool
  | .float x => x.isFinite
  | .str s => s.isWhole
  | .arr items => areWritable items
  | .obj members => membersWritable members
  | _ => true

def areWritable : List Json → Bool
  | [] => true
  | item :: rest => item.isWritable && areWritable rest

def membersWritable : List (Str × Json) → Bool
  | [] => true
  | (name, value) :: rest => name.isWhole && value.isWritable && membersWritable rest
end

mutual
/-- A value without the members whose names are hidden, at every depth. -/
def without (hidden : Str → Bool) : Json → Json
  | .arr items => .arr (itemsWithout hidden items)
  | .obj members => .obj (membersWithout hidden members)
  | value => value

def itemsWithout (hidden : Str → Bool) : List Json → List Json
  | [] => []
  | item :: rest => item.without hidden :: itemsWithout hidden rest

def membersWithout (hidden : Str → Bool) : List (Str × Json) → List (Str × Json)
  | [] => []
  | (name, value) :: rest =>
    if hidden name then membersWithout hidden rest
    else (name, value.without hidden) :: membersWithout hidden rest
end

end Json

end Paygate
