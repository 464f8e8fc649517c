import Paygate.Bytes.Hex
import Paygate.Json.Basic
import Paygate.Number.Numeral

/-!
# Writing JSON

A text stands between double quotes. The double quote, the backslash and the characters below
U+0020 are escaped; everything else is written as it is, halves of surrogate pairs included.
`Separators` says what follows a comma and a colon. `isConvertible` bounds whole numbers as they are
bounded for reading.
-/

namespace Paygate.Json

structure Separators where
  item : List Point
  name : List Point

/-- A space after every comma and colon. -/
def spaced : Separators := ⟨[',', ' '], [':', ' ']⟩

def compact : Separators := ⟨[','], [':']⟩

def escapeChar (c : Char) : List Char :=
  if c = '"' then ['\\', '"']
  else if c = '\\' then ['\\', '\\']
  else if c = '\n' then ['\\', 'n']
  else if c = '\r' then ['\\', 'r']
  else if c = '\t' then ['\\', 't']
  else if c = '\x08' then ['\\', 'b']
  else if c = '\x0c' then ['\\', 'f']
  else if c.toNat < 32 then '\\' :: 'u' :: Hex.padded 4 c.toNat
  else [c]

def escapePoint : Point → List Point
  | .char c => (escapeChar c).map .char
  | .half h => [.half h]

def writeText (s : Str) : List Point := .char '"' :: s.points.flatMap escapePoint ++ [.char '"']

def writeFloat : Binary64 → String
  | .nan => "NaN"
  | .infinite negative => if negative then "-Infinity" else "Infinity"
  | x => x.toText

mutual
def write (sep : Separators) : Json → List Point
  | .null => Str.points "null"
  | .bool b => Str.points (if b then "true" else "false")
  | .int n => Str.points (toString n)
  | .float x => Str.points (writeFloat x)
  | .str s => writeText s
  | .arr [] => ['[', ']']
  | .arr (item :: items) => .char '[' :: write sep item ++ writeItems sep items ++ [.char ']']
  | .obj [] => ['\x7b', '\x7d']
  | .obj ((name, value) :: members) =>
    .char '\x7b' :: writeText name ++ sep.name ++ write sep value ++ writeMembers sep members ++
      [.char '\x7d']

def writeItems (sep : Separators) : List Json → List Point
  | [] => []
  | item :: items => sep.item ++ write sep item ++ writeItems sep items

def writeMembers (sep : Separators) : List (Str × Json) → List Point
  | [] => []
  | (name, value) :: members =>
    sep.item ++ writeText name ++ sep.name ++ write sep value ++ writeMembers sep members
end

def render (sep : Separators) (json : Json) : Str := .ofPoints (write sep json)

mutual
/-- Whether no whole number in a value has more digits than are converted. -/
def isConvertible : Json → Bool
  | .int n => (Nat.toDigits 10 n.natAbs).length ≤ Numeral.digitLimit
  | .arr items => areConvertible items
  | .obj members => membersConvertible members
  | _ => true

def areConvertible : List Json → Bool
  | [] => true
  | item :: rest => item.isConvertible && areConvertible rest

def membersConvertible : List (Str × Json) → Bool
  | [] => true
  | (_, value) :: rest => value.isConvertible && membersConvertible rest
end

end Paygate.Json
