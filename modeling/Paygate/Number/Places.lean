import Paygate.Number.Binary64

/-!
# Numbers with a given count of digits

A number is written with a count of places behind the point, with one digit before the point and an
exponent, or with a count of digits in whichever of the two ways suits its size. Digits are those of
the nearest decimal, a half goes to the even neighbour. Each text comes without its sign, which stands
beside it.
-/

namespace Paygate.Binary64

/-- The multiple of `10 ^ k` nearest to `significand * 2 ^ exponent`. -/
def roundAt (significand : Nat) (exponent k : Int) : Nat :=
  let num := if k < 0 then significand * Nat.pow 10 k.natAbs else significand
  let den := if k < 0 then 1 else Nat.pow 10 k.toNat
  let (num, den) := scale num den (-exponent)
  roundDiv num den

/-- The first `count` digits of a number, the last one rounded, and the exponent of the first. -/
def leading (count significand : Nat) (exponent : Int) : List Char × Int :=
  if significand = 0 then (List.replicate count '0', 0)
  else
    let lead := magnitude significand exponent
    let digits := Nat.toDigits 10 (roundAt significand exponent (lead - (count - 1)))
    (digits.take count, if digits.length > count then lead + 1 else lead)

/-- Digits with a point behind the first `whole` of them. The point of a whole number is left out
unless it is to be kept. -/
def point (keep : Bool) (whole : Nat) (digits : List Char) : List Char :=
  let fraction := digits.drop whole
  digits.take whole ++ (if fraction.isEmpty && !keep then [] else '.' :: fraction)

/-- An exponent of at least two digits with its sign. -/
def exponentText (exponent : Int) : List Char :=
  let digits := Nat.toDigits 10 exponent.natAbs
  'e' :: (if exponent < 0 then '-' else '+') :: (List.replicate (2 - digits.length) '0' ++ digits)

/-- What is written of a number that is no finite one. -/
def withFinite (text : (significand : Nat) → (exponent : Int) → List Char) :
    Binary64 → Bool × List Char
  | .nan => (false, "nan".toList)
  | .infinite negative => (negative, "inf".toList)
  | .finite negative significand exponent => (negative, text significand exponent)

def fixedText (places : Nat) (keep : Bool) : Binary64 → Bool × List Char :=
  withFinite fun significand exponent =>
    let digits := Nat.toDigits 10 (roundAt significand exponent (-places))
    let digits := List.replicate (places + 1 - digits.length) '0' ++ digits
    point keep (digits.length - places) digits

def scientificText (places : Nat) (keep : Bool) : Binary64 → Bool × List Char :=
  withFinite fun significand exponent =>
    let (digits, lead) := leading (places + 1) significand exponent
    point keep 1 digits ++ exponentText lead

/-- An exponent is written if it is below -4 or not below the count of digits. Zeros at the end of a
fraction are left out unless they are to be kept. -/
def generalText (count : Nat) (keep : Bool) : Binary64 → Bool × List Char :=
  withFinite fun significand exponent =>
    let count := max 1 count
    let (digits, lead) := leading count significand exponent
    let kept (whole : Nat) (digits : List Char) : List Char :=
      if keep then digits
      else digits.take whole ++ (trimZeros (digits.drop whole)).1
    if lead < -4 || lead ≥ count then point keep 1 (kept 1 digits) ++ exponentText lead
    else
      let digits := List.replicate (-lead).toNat '0' ++ digits
      let whole := lead.toNat + 1
      point keep whole (kept whole digits)

end Paygate.Binary64
