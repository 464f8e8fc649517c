import Paygate.Number.Binary64
import Paygate.Number.Numeral
import Paygate.Text.Blank

/-!
# Numbers in settings

A whole number may have space around it, a sign, zeros before it, single underscores between its
digits, and a decimal point with at least one digit behind it if all of these are zeros. A decimal
number may have an exponent, and infinity and not-a-number have names.
-/

namespace Paygate.Settings

/-- Why a text is no whole number. -/
inductive IntegerError where
  | malformed
  | tooLong
deriving DecidableEq, Repr

/-- A text with single underscores inside, without them. -/
def dropUnderscores? (cs : List Char) : Option (List Char) :=
  let pairs := cs.zip (cs.drop 1)
  if cs.head? = some '_' || cs.getLast? = some '_' || !cs.contains '_' || pairs.contains ('_', '_') then
    none
  else some (cs.filter (· ≠ '_'))

/-- The text behind zeros and underscores, of which a last zero stays if no digit follows. -/
def skipZeros : (last : Char) → List Char → List Char
  | last, [] => [last]
  | last, c :: rest =>
    if c = '0' || c = '_' then skipZeros c rest
    else if c = '.' then last :: '.' :: rest
    else c :: rest

/-- A text without a point and the zeros behind it. A point with nothing behind it stays. -/
def dropZeroFraction (cs : List Char) : List Char :=
  let whole := cs.takeWhile (· ≠ '.')
  match cs.drop whole.length with
  | '.' :: fraction => if !fraction.isEmpty && fraction.all (· = '0') then whole else cs
  | _ => cs

/-- The digits of an unsigned whole number. -/
def integerDigits? (cs : List Char) : Option (List Char) :=
  match cs with
  | [] => none
  | c :: rest =>
    if c.isDigit then
      let cs := if c = '0' then skipZeros c rest else cs
      let cs := dropZeroFraction cs
      let cs := (dropUnderscores? cs).getD cs
      if Numeral.isRun cs then some cs else none
    else none

def readInteger (text : String) : Except IntegerError Int :=
  if text.length > Numeral.digitLimit then .error .tooLong
  else
    let (negative, cs) := match Text.trim Text.whiteSpace text.toList with
      | '-' :: rest => (true, rest)
      | '+' :: rest => (false, rest)
      | cs => (false, cs)
    match integerDigits? cs with
    | some digits =>
      let n : Int := Numeral.ofDigits digits
      .ok (if negative then -n else n)
    | none => .error .malformed

/-- The value of an exponent, or zero for no exponent. -/
def exponent? : List Char → Option Int
  | [] => some 0
  | e :: rest =>
    if e = 'e' || e = 'E' then
      let (negative, digits) := match rest with
        | '-' :: rest => (true, rest)
        | '+' :: rest => (false, rest)
        | rest => (false, rest)
      if Numeral.isRun digits then
        let n : Int := Numeral.ofDigits digits
        some (if negative then -n else n)
      else none
    else none

/-- An unsigned decimal number: digits with at most one point among or around them. -/
def unsigned? (negative : Bool) (cs : List Char) : Option Binary64 :=
  let (whole, rest) := Numeral.span cs
  let (fraction, rest) := match rest with
    | '.' :: rest => Numeral.span rest
    | rest => ([], rest)
  if whole.isEmpty && fraction.isEmpty then none
  else (exponent? rest).map fun e =>
    Binary64.ofDecimal negative (Numeral.ofDigits (whole ++ fraction)) (e - fraction.length)

/-- A decimal number without space around it. -/
def decimal? (cs : List Char) : Option Binary64 :=
  let (negative, cs) := match cs with
    | '-' :: rest => (true, rest)
    | '+' :: rest => (false, rest)
    | cs => (false, cs)
  match String.ofList (cs.map Char.toLower) with
  | "inf" => some (.infinite negative)
  | "infinity" => some (.infinite negative)
  | "nan" => some .nan
  | _ => unsigned? negative cs

/-- A number with underscores has no space around it. -/
def readDecimal? (text : String) : Option Binary64 :=
  match decimal? (Text.trim Text.whiteSpace text.toList) with
  | some x => some x
  | none => (dropUnderscores? text.toList).bind decimal?

end Paygate.Settings
