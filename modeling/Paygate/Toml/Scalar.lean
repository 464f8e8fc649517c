import Paygate.Bytes.Hex
import Paygate.Number.Numeral
import Paygate.Text.Encoding
import Paygate.Toml.Table

/-!
# Numbers, dates and times of TOML

Each reader takes the longest form that its grammar knows from the start of a text, or none. What
such a value is does not matter here, only where it ends and whether it is allowed: a date must
exist, and a whole number in decimal must not be too long.
-/

namespace Paygate.Toml

/-- A digit and then digits with single underscores before some of them. -/
def takeDigits (isDigit : Char → Bool) : List Char → List Char × List Char
  | '_' :: c :: rest =>
    if isDigit c then
      let (digits, rest) := takeDigits isDigit rest
      (c :: digits, rest)
    else ([], '_' :: c :: rest)
  | c :: rest =>
    if isDigit c then
      let (digits, rest) := takeDigits isDigit rest
      (c :: digits, rest)
    else ([], c :: rest)
  | [] => ([], [])

/-- At least one digit; an underscore may not come first. -/
def digitRun? (isDigit : Char → Bool) (cs : List Char) : Option (List Char × List Char) :=
  match cs with
  | c :: _ => if isDigit c then some (takeDigits isDigit cs) else none
  | [] => none

/-- A number with a radix sign. -/
def radixNumber? : List Char → Option (List Char)
  | '0' :: 'x' :: rest => (digitRun? (fun c => (Hex.value? c).isSome) rest).map (·.2)
  | '0' :: 'b' :: rest => (digitRun? (fun c => c = '0' || c = '1') rest).map (·.2)
  | '0' :: 'o' :: rest => (digitRun? (fun c => '0' ≤ c && c ≤ '7') rest).map (·.2)
  | _ => none

def dropSign : List Char → List Char
  | '+' :: rest => rest
  | '-' :: rest => rest
  | cs => cs

/-- The digits of a whole number without leading zeros. -/
def wholePart? (cs : List Char) : Option (List Char × List Char) :=
  match dropSign cs with
  | '0' :: rest => some (['0'], rest)
  | cs => digitRun? Char.isDigit cs

/-- The rest after a fraction and an exponent, if the text starts with either. -/
def floatPart? (cs : List Char) : Option (List Char) :=
  let fraction := match cs with
    | '.' :: rest => (digitRun? Char.isDigit rest).map (·.2)
    | _ => none
  let rest := fraction.getD cs
  let exponent := match rest with
    | e :: rest =>
      if e = 'e' || e = 'E' then (digitRun? Char.isDigit (dropSign rest)).map (·.2) else none
    | [] => none
  match fraction, exponent with
  | none, none => none
  | _, some rest => some rest
  | some rest, none => some rest

/-- A number of any form but `inf` and `nan`, and the rest of the text. -/
def number? (cs : List Char) : Option (Except Error (List Char)) :=
  match radixNumber? cs with
  | some rest => some (.ok rest)
  | none =>
    match wholePart? cs with
    | none => none
    | some (digits, rest) =>
      match floatPart? rest with
      | some rest => some (.ok rest)
      | none => some (if (Numeral.read? digits).isSome then .ok rest else .error .numeralTooLong)

/-- The rest after one of some words. -/
def word? (words : List String) (cs : List Char) : Option (List Char) :=
  words.findSome? fun word =>
    if word.toList.isPrefixOf cs then some (cs.drop word.length) else none

def special? (cs : List Char) : Option (List Char) := word? ["inf", "nan"] (dropSign cs)

/-! ## Dates and times -/

/-- Two digits that write a number between two bounds. -/
def two? (low high : Nat) : List Char → Option (Nat × List Char)
  | a :: b :: rest =>
    if a.isDigit && b.isDigit then
      let n := Numeral.ofDigits [a, b]
      if low ≤ n && n ≤ high then some (n, rest) else none
    else none
  | _ => none

/-- The rest after one character. -/
def skip? (c : Char) : List Char → Option (List Char)
  | d :: rest => if c = d then some rest else none
  | [] => none

/-- Hours, minutes, seconds and a fraction of them. -/
def time? (cs : List Char) : Option (List Char) := do
  let (_, rest) ← two? 0 23 cs
  let (_, rest) ← two? 0 59 (← skip? ':' rest)
  let (_, rest) ← two? 0 59 (← skip? ':' rest)
  match rest with
  | '.' :: after =>
    match Numeral.span after with
    | ([], _) => pure rest
    | (_, after) => pure after
  | _ => pure rest

/-- A time zone, if there is one. -/
def dropOffset (cs : List Char) : List Char :=
  match cs with
  | c :: rest =>
    if c = 'Z' || c = 'z' then rest
    else if c = '+' || c = '-' then
      ((two? 0 23 rest).bind fun (_, rest) =>
        (skip? ':' rest).bind fun rest => (two? 0 59 rest).map (·.2)).getD cs
    else cs
  | [] => []

/-- The time after a date, if there is a complete one. -/
def dropTime (cs : List Char) : List Char :=
  match cs with
  | c :: rest =>
    if c = 'T' || c = 't' || c = ' ' then ((time? rest).map dropOffset).getD cs else cs
  | [] => []

def isLeap (year : Nat) : Bool := year % 4 = 0 && (year % 100 ≠ 0 || year % 400 = 0)

def daysIn (year month : Nat) : Nat :=
  if month = 2 then (if isLeap year then 29 else 28)
  else if [4, 6, 9, 11].contains month then 30 else 31

/-- A date, with a time or without. A date that does not exist is an error. -/
def date? (cs : List Char) : Option (Except Error (List Char)) := do
  let (high, rest) ← two? 0 99 cs
  let (low, rest) ← two? 0 99 rest
  let (month, rest) ← two? 1 12 (← skip? '-' rest)
  let (day, rest) ← two? 1 31 (← skip? '-' rest)
  let year := 100 * high + low
  pure (if year = 0 || day > daysIn year month then .error .invalid else .ok (dropTime rest))

/-- A value that is no text, array or table, and the rest of the text. -/
def plain? (cs : List Char) : Except Error (List Char) :=
  match word? ["true", "false"] cs with
  | some rest => .ok rest
  | none =>
    match date? cs with
    | some result => result
    | none =>
      match time? cs with
      | some rest => .ok rest
      | none =>
        match number? cs with
        | some result => result
        | none => ((special? cs).map Except.ok).getD (.error .invalid)

end Paygate.Toml
