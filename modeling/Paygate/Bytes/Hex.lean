import Paygate.Bytes.Basic

/-!
# Hexadecimal text

Two digits per byte. Writing uses lower case; reading takes either case, ASCII digits only,
and refuses an odd number of digits.
-/

namespace Paygate.Hex

/-- The lower-case digit of a number below sixteen. -/
def digit (n : Nat) : Char :=
  if n < 10 then Char.ofNat (48 + n) else Char.ofNat (87 + n)

/-- The upper-case digit of a number below sixteen. -/
def upperDigit (n : Nat) : Char :=
  if n < 10 then Char.ofNat (48 + n) else Char.ofNat (55 + n)

/-- The value of a digit in either case. -/
def value? (c : Char) : Option Nat :=
  if '0' ≤ c ∧ c ≤ '9' then some (c.toNat - 48)
  else if 'a' ≤ c ∧ c ≤ 'f' then some (c.toNat - 87)
  else if 'A' ≤ c ∧ c ≤ 'F' then some (c.toNat - 55)
  else none

def encodeChars (bytes : Bytes) : List Char :=
  bytes.flatMap fun b => [digit (b.toNat / 16), digit (b.toNat % 16)]

def encode (bytes : Bytes) : String := String.ofList (encodeChars bytes)

def decodeChars? : List Char → Option Bytes
  | [] => some []
  | [_] => none
  | hi :: lo :: rest => do
    let h ← value? hi
    let l ← value? lo
    let bytes ← decodeChars? rest
    pure (UInt8.ofNat (16 * h + l) :: bytes)

def decode? (s : String) : Option Bytes := decodeChars? s.toList

/-- The number that a nonempty run of digits writes. -/
def number? (digits : List Char) : Option Nat :=
  if digits.isEmpty then none
  else digits.foldlM (fun n c => (value? c).map (16 * n + ·)) 0

/-- `n` in lower case, padded with zeros to `width` digits. -/
def padded (width n : Nat) : List Char :=
  let digits := (Nat.toDigits 16 n)
  List.replicate (width - digits.length) '0' ++ digits

end Paygate.Hex
