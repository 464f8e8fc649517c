import Paygate.Log.Shown
import Paygate.Number.Numeral
import Paygate.Number.Places

/-!
# Message templates

A template is a text with directives, each of which starts with `%` and shows the next argument: `s`
as a message shows it, `r` by its literal form, `a` by that form in ASCII, `d`, `i` and `u` as a
whole number, `x`, `X` and `o` in another base, `f` and `F` with fixed places, `e` and `E` with an
exponent, `g` and `G` in the shorter of the two ways, `c` as one character. Flags, a width and a
precision may stand before the letter; a width or precision `*` is the next argument. `%%` is a
percent sign, and a single object lends its members to directives that name them in parentheses.
Without arguments a template is not looked into. Numbers are shown in decimal only up to as many digits
as are converted.
-/

namespace Paygate.Log.Template

inductive Error where
  /-- The arguments do not fit the directives in number or kind. -/
  | argument
  /-- A directive is incomplete or unknown. -/
  | directive
  /-- The object has no member of a name. -/
  | missing
  /-- A number is outside the range of what it is to be shown as. -/
  | range
  /-- What is no number is to be shown as a whole number. -/
  | notNumber
  /-- A whole number has more digits than are converted. -/
  | tooLong
deriving DecidableEq, Repr

structure Directive where
  flags : List Char := []
  width : Nat := 0
  precision : Option Nat := none
  letter : Char

/-- How many places are written where none are asked for. -/
def defaultPlaces : Nat := 6

namespace Directive

def has (directive : Directive) (flag : Char) : Bool := directive.flags.contains flag

/-- A row filled up with blanks to the width. -/
def pad {α : Type} (directive : Directive) (blank : α) (row : List α) : List α :=
  let fill := List.replicate (directive.width - row.length) blank
  if directive.has '-' then row ++ fill else fill ++ row

def padText (directive : Directive) (text : Str) : List Point :=
  directive.pad (.char ' ') (match directive.precision with
    | some n => text.points.take n
    | none => text.points)

/-- A number with its sign and a mark of its base, filled up with zeros or spaces. -/
def padNumber (directive : Directive) (negative : Bool) (mark digits : List Char) : List Char :=
  let sign := if negative then ['-'] else if directive.has '+' then ['+']
    else if directive.has ' ' then [' '] else []
  let head := sign ++ mark
  if directive.has '0' && !directive.has '-' then
    head ++ List.replicate (directive.width - head.length - digits.length) '0' ++ digits
  else directive.pad ' ' (head ++ digits)

/-- A whole number in a base, with no fewer digits than the precision asks for. -/
def integer (directive : Directive) (base : Nat) (mark : String) (n : Int) : List Char :=
  let digits := Nat.toDigits base n.natAbs
  let digits := List.replicate ((directive.precision.getD 0) - digits.length) '0' ++ digits
  directive.padNumber (decide (n < 0)) (if directive.has '#' then mark.toList else []) digits

/-- A number in a way of writing that takes a count of digits and whether the point is kept. -/
def measured (directive : Directive) (write : Nat → Bool → Binary64 → Bool × List Char)
    (x : Binary64) : List Char :=
  let (negative, text) := write (directive.precision.getD defaultPlaces) (directive.has '#') x
  directive.padNumber negative [] text

end Directive

/-- A whole number; a fraction is cut off. -/
def wholeOf : Json → Except Error Int
  | .int n => .ok n
  | .bool b => .ok (if b then 1 else 0)
  | .float (.finite negative significand exponent) =>
    let size : Int := if exponent < 0 then (significand >>> exponent.natAbs : Nat)
      else (significand <<< exponent.toNat : Nat)
    .ok (if negative then -size else size)
  | .float (.infinite _) => .error .range
  | .float .nan => .error .notNumber
  | _ => .error .argument

/-- A number as it is, if it is whole. -/
def exactOf? : Json → Option Int
  | .int n => some n
  | .bool b => some (if b then 1 else 0)
  | _ => none

def exactOf (value : Json) : Except Error Int :=
  match exactOf? value with
  | some n => .ok n
  | none => .error .argument

/-- A number as one of 64 bits. -/
def numberOf : Json → Except Error Binary64
  | .float x => .ok x
  | value => do
    let n ← exactOf value
    let x := Binary64.ofRatio (decide (n < 0)) n.natAbs 1
    if x.isFinite then .ok x else .error .range

/-- One code point, or that of a number. -/
def pointOf : Json → Except Error Point
  | .str s =>
    match s.points with
    | [point] => .ok point
    | _ => .error .argument
  | value => do
    let n ← exactOf value
    if n < 0 || n > 0x10FFFF then .error .range else .ok (.ofCode n.toNat)

def orTooLong {α : Type} : Option α → Except Error α
  | some a => .ok a
  | none => .error .tooLong

/-- A whole number in decimal, if it has not too many digits. -/
def Directive.decimal (directive : Directive) (n : Int) : Except Error (List Char) :=
  if (Json.int n).isConvertible then .ok (directive.integer 10 "" n) else .error .tooLong

/-- A text with characters outside ASCII written by their code points. -/
def asciiOf (text : String) : String :=
  String.ofList (text.toList.flatMap fun c => if c.toNat < 128 then [c] else Text.codeEscape c.toNat)

/-- What a directive with a letter for numbers shows of a value. -/
def Directive.number (directive : Directive) (value : Json) : Except Error (List Char) :=
  match directive.letter with
  | 'd' | 'i' | 'u' => wholeOf value >>= directive.decimal
  | 'x' => (exactOf value).map (directive.integer 16 "0x")
  | 'X' => (exactOf value).map fun n => (directive.integer 16 "0x" n).map Char.toUpper
  | 'o' => (exactOf value).map (directive.integer 8 "0o")
  | 'e' => (numberOf value).map (directive.measured Binary64.scientificText)
  | 'E' => (numberOf value).map fun x =>
    (directive.measured Binary64.scientificText x).map Char.toUpper
  | 'f' => (numberOf value).map (directive.measured Binary64.fixedText)
  | 'F' => (numberOf value).map fun x => (directive.measured Binary64.fixedText x).map Char.toUpper
  | 'g' => (numberOf value).map (directive.measured Binary64.generalText)
  | 'G' => (numberOf value).map fun x => (directive.measured Binary64.generalText x).map Char.toUpper
  | _ => .error .directive

/-- What a directive shows of a value. -/
def Directive.present (directive : Directive) (value : Json) : Except Error (List Point) :=
  match directive.letter with
  | 's' => (orTooLong value.shown?).map directive.padText
  | 'r' => (orTooLong value.literal?).map fun text => directive.padText text
  | 'a' => (orTooLong value.literal?).map fun text => directive.padText (asciiOf text)
  | 'c' => (pointOf value).map fun point => directive.pad (.char ' ') [point]
  | _ => (directive.number value).map fun text => text.map .char

/-- The name in parentheses before a directive's flags. Parentheses inside a name come in pairs. -/
def readName : (depth : Nat) → (done : List Point) → List Point → Option (Str × List Point)
  | _, _, [] => none
  | depth, done, point :: rest =>
    if point = ')' then
      match depth with
      | 0 => some (.ofPoints done.reverse, rest)
      | depth + 1 => readName depth (point :: done) rest
    else readName (if point = '(' then depth + 1 else depth) (point :: done) rest

/-- A directive that was read, with the arguments and the text that are left. -/
structure Reading where
  directive : Directive
  arguments : List Json
  rest : List Point

/-- The greatest width and the greatest precision. -/
def widthLimit : Nat := 9223372036854775807

def precisionLimit : Nat := 2147483647

/-- A width or a precision, if one stands here: digits or the next argument. -/
def readSize (limit : Nat) (arguments : List Json) (points : List Point) :
    Except Error (Option Int × List Json × List Point) :=
  match points with
  | .char '*' :: rest =>
    match arguments with
    | [] => .error .argument
    | value :: arguments => do
      let n ← exactOf value
      if n < -limit - 1 || n > limit then .error .range else .ok (some n, arguments, rest)
  | points =>
    let (digits, rest) := Point.span Char.isDigit points
    let n := Numeral.ofDigits digits
    if digits.isEmpty then .ok (none, arguments, points)
    else if n > limit then .error .directive
    else .ok (some n, arguments, rest)

/-- A directive behind its `%` and its name. A negative width puts the blanks at the end. -/
def readDirective (arguments : List Json) (points : List Point) : Except Error Reading := do
  let (flags, rest) := Point.span (fun c => "#0- +".toList.contains c) points
  let (width, arguments, rest) ← readSize widthLimit arguments rest
  let width := width.getD 0
  let flags := if width < 0 then '-' :: flags else flags
  let (precision, arguments, rest) ←
    match rest with
    | .char '.' :: rest => do
      let (precision, arguments, rest) ← readSize precisionLimit arguments rest
      pure (some (precision.getD 0).toNat, arguments, rest)
    | rest => pure (none, arguments, rest)
  let rest := match rest with
    | .char c :: tail => if c = 'h' || c = 'l' || c = 'L' then tail else rest
    | rest => rest
  match rest with
  | .char letter :: rest =>
    .ok { directive := { flags, width := width.natAbs, precision, letter }, arguments, rest }
  | _ => .error .directive

/-- What a directive shows of the next argument, and what is left. -/
def showNext (arguments : List Json) (points : List Point) :
    Except Error (List Point × List Json × List Point) := do
  let ⟨directive, arguments, rest⟩ ← readDirective arguments points
  match arguments with
  | [] => .error .argument
  | value :: arguments => pure (← directive.present value, arguments, rest)

/-- The member that a directive names. -/
def readMember (whole : Option Json) (points : List Point) : Except Error (Json × List Point) :=
  match whole with
  | none => .error .argument
  | some object =>
    match readName 0 [] points with
    | none => .error .directive
    | some (name, rest) =>
      match object, object.get? name with
      | _, some value => .ok (value, rest)
      | .obj _, none => .error .missing
      | _, none => .error .argument

/-- A template from here on. `whole` is the object that the arguments consist of; once a directive
has named a member of it, nothing is left for those that name none. -/
def fill (whole : Option Json) : (fuel : Nat) → (arguments : List Json) → List Point →
    Except Error (List Point)
  | 0, _, _ => .error .directive
  | _ + 1, arguments, [] =>
    if whole.isNone && !arguments.isEmpty then .error .argument else .ok []
  | fuel + 1, arguments, .char '%' :: .char '%' :: rest => do
    let text ← fill whole fuel arguments rest
    pure ('%' :: text)
  | fuel + 1, _, .char '%' :: .char '(' :: rest => do
    let (value, rest) ← readMember whole rest
    let (shown, _, rest) ← showNext [value] rest
    let text ← fill whole fuel [] rest
    pure (shown ++ text)
  | fuel + 1, arguments, .char '%' :: rest => do
    let (shown, arguments, rest) ← showNext arguments rest
    let text ← fill whole fuel arguments rest
    pure (shown ++ text)
  | fuel + 1, arguments, point :: rest => do
    let text ← fill whole fuel arguments rest
    pure (point :: text)

/-- A template with its arguments. -/
def format (template : Str) (arguments : List Json) : Except Error Str :=
  if arguments.isEmpty then .ok template
  else
    let whole := match arguments with
      | [.obj (member :: members)] => some (.obj (member :: members))
      | _ => none
    (fill whole (template.points.length + 1) arguments template.points).map .ofPoints

/-- A template with a single value for arguments. A value that is empty or zero is none. An array
counts as one argument, and it may be left over. -/
def formatWith (template : Str) (value : Json) : Except Error Str :=
  if value.isFalsy then .ok template
  else
    let whole := match value with
      | .obj _ | .arr _ => some value
      | _ => none
    (fill whole (template.points.length + 1) [value] template.points).map .ofPoints

end Paygate.Log.Template
