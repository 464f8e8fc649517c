import Paygate.Bytes.Basic

/-!
# Base 64 with padding

Three bytes are four digits; one or two bytes at the end are two or three digits followed by `=`
signs. Reading accepts exactly what writing produces.
-/

namespace Paygate.Base64

/-- The digit of a number below sixty-four. -/
def digit (n : Nat) : Char :=
  if n < 26 then Char.ofNat (65 + n)
  else if n < 52 then Char.ofNat (71 + n)
  else if n < 62 then Char.ofNat (n - 4)
  else if n = 62 then '+' else '/'

def value? (c : Char) : Option Nat :=
  if 'A' ≤ c ∧ c ≤ 'Z' then some (c.toNat - 65)
  else if 'a' ≤ c ∧ c ≤ 'z' then some (c.toNat - 71)
  else if '0' ≤ c ∧ c ≤ '9' then some (c.toNat + 4)
  else if c = '+' then some 62
  else if c = '/' then some 63
  else none

def encodeChars : Bytes → List Char
  | [] => []
  | [a] =>
    let n := a.toNat * 16
    [digit (n / 64), digit (n % 64), '=', '=']
  | [a, b] =>
    let n := (a.toNat * 256 + b.toNat) * 4
    [digit (n / 4096), digit (n / 64 % 64), digit (n % 64), '=']
  | a :: b :: c :: rest =>
    let n := (a.toNat * 256 + b.toNat) * 256 + c.toNat
    digit (n / 262144) :: digit (n / 4096 % 64) :: digit (n / 64 % 64) :: digit (n % 64) ::
      encodeChars rest

def encode (bytes : Bytes) : String := String.ofList (encodeChars bytes)

def decodeChars? : List Char → Option Bytes
  | [] => some []
  | [p, q, '=', '='] => do
    let n := 64 * (← value? p) + (← value? q)
    if n % 16 = 0 then pure [UInt8.ofNat (n / 16)] else none
  | [p, q, r, '='] => do
    let n := 64 * (64 * (← value? p) + (← value? q)) + (← value? r)
    if n % 4 = 0 then pure [UInt8.ofNat (n / 1024), UInt8.ofNat (n / 4)] else none
  | p :: q :: r :: s :: rest => do
    let n := 64 * (64 * (64 * (← value? p) + (← value? q)) + (← value? r)) + (← value? s)
    let bytes ← decodeChars? rest
    pure (UInt8.ofNat (n / 65536) :: UInt8.ofNat (n / 256) :: UInt8.ofNat n :: bytes)
  | _ => none

def decode? (s : String) : Option Bytes := decodeChars? s.toList

end Paygate.Base64
