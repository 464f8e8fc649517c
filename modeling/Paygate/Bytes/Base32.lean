import Paygate.Bytes.Basic

/-!
# Base 32 without padding

The text of `k` bytes is the number that they write, shifted left until it fills whole digits of
five bits, in the alphabet `A` to `Z`, `2` to `7`. Reading accepts exactly the texts that writing
produces: the bits after the last whole byte must be zero and fewer than five.
-/

namespace Paygate.Base32

/-- The digit of a number below thirty-two. -/
def digit (n : Nat) : Char :=
  if n < 26 then Char.ofNat (65 + n) else Char.ofNat (24 + n)

def value? (c : Char) : Option Nat :=
  if 'A' ≤ c ∧ c ≤ 'Z' then some (c.toNat - 65)
  else if '2' ≤ c ∧ c ≤ '7' then some (c.toNat - 24)
  else none

/-- The low `count` digits of `n`, most significant first. -/
def digits : (count : Nat) → (n : Nat) → List Char
  | 0, _ => []
  | count + 1, n => digits count (n / 32) ++ [digit (n % 32)]

/-- The number that the digits write. -/
def number? (cs : List Char) : Option Nat :=
  cs.foldlM (fun n c => (value? c).map (32 * n + ·)) 0

/-- How many digits `k` bytes need. -/
def digitCount (k : Nat) : Nat := (8 * k + 4) / 5

def encode (bytes : Bytes) : List Char :=
  let count := digitCount bytes.length
  digits count (Bytes.toNat bytes <<< (5 * count - 8 * bytes.length))

def decode? (cs : List Char) : Option Bytes :=
  let spare := 5 * cs.length % 8
  match number? cs with
  | none => none
  | some n =>
    if spare < 5 ∧ n % (1 <<< spare) = 0 then some (Bytes.ofNat (5 * cs.length / 8) (n >>> spare))
    else none

end Paygate.Base32
