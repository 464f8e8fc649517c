import Paygate.Bytes.Hex
import Paygate.Text.Utf8

/-!
# Percent encoding

A character that may not stand for itself is written as `%` and two upper-case digits for each of
its UTF-8 bytes. In form encoding letters, digits and `_.-~` stand for themselves, a space is `+`,
and names and values are joined by `=` and `&`. A lenient reader leaves a `%` that two digits do not
follow as it is, and puts U+FFFD for bytes that are not UTF-8.
-/

namespace Paygate.Percent

def encodeByte (b : UInt8) : List Char :=
  ['%', Hex.upperDigit (b.toNat / 16), Hex.upperDigit (b.toNat % 16)]

def encodeChar (c : Char) : List Char := (Bytes.ofString (String.singleton c)).flatMap encodeByte

/-- Encode the characters outside a set. -/
def encode (safe : Char → Bool) (cs : List Char) : List Char :=
  cs.flatMap fun c => if safe c then [c] else encodeChar c

/-- Letters, digits, `-`, `.`, `_` and `~`. -/
def isUnreserved (c : Char) : Bool := c.isAlphanum || c = '-' || c = '.' || c = '_' || c = '~'

/-! ## Form encoding -/

def formChar (c : Char) : List Char :=
  if isUnreserved c then [c] else if c = ' ' then ['+'] else encodeChar c

def formEncode (s : String) : List Char := s.toList.flatMap formChar

def formPair (pair : String × String) : List Char := formEncode pair.1 ++ '=' :: formEncode pair.2

/-- Pairs of names and values as one text. -/
def formPairs : List (String × String) → List Char
  | [] => []
  | [pair] => formPair pair
  | pair :: rest => formPair pair ++ '&' :: formPairs rest

/-! ## Reading -/

/-- The byte of two hexadecimal digits. -/
def byte? (hi lo : Char) : Option UInt8 := do
  let h ← Hex.value? hi
  let l ← Hex.value? lo
  pure (UInt8.ofNat (16 * h + l))

/-- Bytes of escapes and ASCII characters collect until another character comes; they are read as
UTF-8 together. `pending` and `done` are in reverse. -/
def decodeInto : (pending : Bytes) → (done : List Char) → List Char → List Char
  | pending, done, [] => done.reverse ++ Utf8.decodeLossy pending.reverse
  | pending, done, '%' :: hi :: lo :: rest =>
    match byte? hi lo with
    | some b => decodeInto (b :: pending) done rest
    | none => decodeInto (37 :: pending) done (hi :: lo :: rest)
  | pending, done, c :: rest =>
    if c.toNat < 128 then decodeInto (UInt8.ofNat c.toNat :: pending) done rest
    else
      let text := Utf8.decodeLossy pending.reverse
      decodeInto [] (c :: (text.reverse ++ done)) rest

def decode (cs : List Char) : List Char := decodeInto [] [] cs

/-- `+` is a space. -/
def formDecode (cs : List Char) : String :=
  String.ofList (decode (cs.map fun c => if c = '+' then ' ' else c))

/-- The name and value of a piece: the first `=` divides them, and without one the value is empty. -/
def readPair (piece : List Char) : String × String :=
  (formDecode (piece.takeWhile (· ≠ '=')), formDecode ((piece.dropWhile (· ≠ '=')).drop 1))

/-- The pairs of a text, in order. Empty pieces between `&` signs do not count. -/
def readPairs (cs : List Char) : List (String × String) :=
  ((cs.splitOn '&').filter fun piece => !piece.isEmpty).map readPair

end Paygate.Percent
