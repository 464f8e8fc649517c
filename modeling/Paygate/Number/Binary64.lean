/-!
# Binary floating-point numbers of 64 bits

A finite number is `significand * 2 ^ exponent` with at most 53 bits of significand and an exponent
of at least -1074. `ofRatio` and `ofDecimal` round to the nearest such number, a tie to the even
significand. `shortest` gives the fewest decimal digits that round back to the number and, of
those, the nearest; `toText` lays them out.
-/

namespace Paygate

inductive Binary64 where
  | finite (negative : Bool) (significand : Nat) (exponent : Int)
  | infinite (negative : Bool)
  | nan
deriving DecidableEq, Repr

namespace Binary64

def zero (negative : Bool) : Binary64 := .finite negative 0 (-1074)

def isZero : Binary64 → Bool
  | .finite _ significand _ => significand == 0
  | _ => false

def isFinite : Binary64 → Bool
  | .finite .. => true
  | _ => false

/-- `num / den` rounded to the nearest natural number, a half to the even one. -/
def roundDiv (num den : Nat) : Nat :=
  let q := num / den
  let r := num % den
  if 2 * r < den then q
  else if den < 2 * r then q + 1
  else q + q % 2

/-- `num / (den * 2 ^ exponent)` as a numerator and a denominator. -/
def scale (num den : Nat) (exponent : Int) : Nat × Nat :=
  if exponent < 0 then (num <<< exponent.natAbs, den) else (num, den <<< exponent.toNat)

/-- The number nearest to `num / den`. -/
def ofRatio (negative : Bool) (num den : Nat) : Binary64 :=
  if num = 0 then zero negative
  else
    let guess : Int := (Nat.log2 num : Int) - Nat.log2 den - 52
    let (n, d) := scale num den guess
    let exponent := max (-1074) (if n < d <<< 52 then guess - 1 else guess)
    let (n, d) := scale num den exponent
    let significand := roundDiv n d
    let (significand, exponent) :=
      if significand = 1 <<< 53 then (1 <<< 52, exponent + 1) else (significand, exponent)
    if exponent > 971 then .infinite negative else .finite negative significand exponent

/-- The number nearest to `digits * 10 ^ exponent`. Powers far outside the range are answered
without being computed. -/
def ofDecimal (negative : Bool) (digits : Nat) (exponent : Int) : Binary64 :=
  let size : Int := (Nat.log2 digits : Int) * 30103 / 100000
  if digits = 0 then zero negative
  else if size + exponent > 320 then .infinite negative
  else if size + exponent < -400 then zero negative
  else if exponent < 0 then ofRatio negative digits (Nat.pow 10 exponent.natAbs)
  else ofRatio negative (digits * Nat.pow 10 exponent.toNat) 1

/-! ## Shortest decimal text -/

/-- The least and greatest point of the interval of reals that round to `significand * 2 ^ exponent`,
as multiples of `2 ^ (exponent - 2)`. -/
def interval (significand : Nat) (exponent : Int) : Nat × Nat :=
  let below := if significand = 1 <<< 52 ∧ exponent > -1074 then 1 else 2
  (4 * significand - below, 4 * significand + 2)

/-- Compare `a * 2 ^ e` with `b * 10 ^ k`. -/
def compareScaled (a : Nat) (e : Int) (b : Nat) (k : Int) : Ordering :=
  let left := a * (if e < 0 then 1 else 1 <<< e.toNat) * (if k < 0 then Nat.pow 10 k.natAbs else 1)
  let right := b * (if e < 0 then 1 <<< e.natAbs else 1) * (if k < 0 then 1 else Nat.pow 10 k.toNat)
  compare left right

/-- Whether `digits * 10 ^ k` rounds to `significand * 2 ^ exponent`. The ends of the interval do
exactly if the significand is even. -/
def roundsTo (significand : Nat) (exponent : Int) (digits : Nat) (k : Int) : Bool :=
  let (low, high) := interval significand exponent
  let fromLow := compareScaled low (exponent - 2) digits k
  let fromHigh := compareScaled high (exponent - 2) digits k
  if significand % 2 = 0 then fromLow != .gt && fromHigh != .lt
  else fromLow == .lt && fromHigh == .gt

/-- The greatest `n` with `n * 10 ^ k` at most `significand * 2 ^ exponent`. -/
def floorAt (significand : Nat) (exponent k : Int) : Nat :=
  let num := significand * (if exponent < 0 then 1 else 1 <<< exponent.toNat) *
    (if k < 0 then Nat.pow 10 k.natAbs else 1)
  let den := (if exponent < 0 then 1 <<< exponent.natAbs else 1) * (if k < 0 then 1 else Nat.pow 10 k.toNat)
  num / den

/-- The point of the grid `10 ^ k` that rounds to the number and is nearest to it, if there is one;
of two at the same distance the even one. -/
def onGrid? (significand : Nat) (exponent k : Int) : Option Nat :=
  let n := floorAt significand exponent k
  match roundsTo significand exponent n k, roundsTo significand exponent (n + 1) k with
  | false, false => none
  | true, false => some n
  | false, true => some (n + 1)
  | true, true =>
    match compareScaled (2 * significand) exponent (2 * n + 1) k with
    | .lt => some n
    | .gt => some (n + 1)
    | .eq => some (n + n % 2)

/-- The decimal exponent of the leading digit of `significand * 2 ^ exponent`. -/
def magnitude (significand : Nat) (exponent : Int) : Int :=
  let guess : Int := ((Nat.log2 significand : Int) + exponent) * 30103 / 100000
  if floorAt significand exponent (guess + 1) = 0 then
    (if floorAt significand exponent guess = 0 then guess - 1 else guess)
  else guess + 1

def shortestFrom (significand : Nat) (exponent : Int) (lead : Int) : (count tries : Nat) → Nat × Int
  | count, 0 => (floorAt significand exponent (lead - count), lead - count)
  | count, tries + 1 =>
    match onGrid? significand exponent (lead - count) with
    | some n => (n, lead - count)
    | none => shortestFrom significand exponent lead (count + 1) tries

/-- The fewest digits that round back, with the decimal exponent of the last one. -/
def shortest (significand : Nat) (exponent : Int) : Nat × Int :=
  shortestFrom significand exponent (magnitude significand exponent) 0 17

/-- Drop zeros at the end of a run of digits, counting them. -/
def trimZeros (digits : List Char) : List Char × Nat :=
  let trimmed := (digits.reverse.dropWhile (· == '0')).reverse
  (trimmed, digits.length - trimmed.length)

/-- Digits with the point in position: positional if the decimal exponent is from -4 to 15, and
otherwise one digit before the point and an exponent of at least two digits. -/
def layOut (digits : Nat) (k : Int) : String :=
  let (ds, dropped) := trimZeros (toString digits).toList
  let lead : Int := ds.length + (k + dropped) - 1
  let text :=
    if -4 ≤ lead ∧ lead < 16 then
      if lead < 0 then
        '0' :: '.' :: (List.replicate (-lead - 1).toNat '0' ++ ds)
      else
        let whole := ds.take (lead.toNat + 1)
        let rest := ds.drop (lead.toNat + 1)
        whole ++ List.replicate (lead.toNat + 1 - whole.length) '0' ++
          '.' :: (if rest.isEmpty then ['0'] else rest)
    else
      let size := toString lead.natAbs
      ds.take 1 ++ (if ds.length > 1 then '.' :: ds.drop 1 else []) ++
        'e' :: (if lead < 0 then '-' else '+') ::
          ((if size.length < 2 then ['0'] else []) ++ size.toList)
  String.ofList text

/-- The shortest text that reads back as the number. -/
def toText : Binary64 → String
  | .nan => "nan"
  | .infinite negative => if negative then "-inf" else "inf"
  | .finite negative significand exponent =>
    let sign := if negative then "-" else ""
    if significand = 0 then sign ++ "0.0"
    else
      let (digits, k) := shortest significand exponent
      sign ++ layOut digits k

end Binary64

end Paygate
