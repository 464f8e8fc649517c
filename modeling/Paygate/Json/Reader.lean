import Paygate.Bytes.Hex
import Paygate.Json.Basic
import Paygate.Number.Numeral
import Paygate.Text.Encoding

/-!
# Reading JSON

The grammar of RFC 8259 with the three words `NaN`, `Infinity` and `-Infinity` as further numbers.
A number without fraction and exponent is whole and exact, but no longer than a numeral may be. A
text may not hold a raw character below U+0020; half of a surrogate pair may stand in it, raw or as
an escape, and only two escapes in a row make a pair. Of two members of one name the later counts.
Arrays and objects stand inside each other only to a certain depth.
-/

namespace Paygate.Json

inductive ReadError where
  | malformed
  | tooDeep
deriving DecidableEq, Repr

/-- How deep arrays and objects may stand inside each other. -/
def depthLimit : Nat := 960

def isSpace (point : Point) : Bool :=
  point = ' ' || point = '\t' || point = '\n' || point = '\r'

def skipSpace (points : List Point) : List Point := points.dropWhile isSpace

/-- The number written by four hexadecimal digits. -/
def hex4? : List Point → Option (Nat × List Point)
  | .char a :: .char b :: .char c :: .char d :: rest => (Hex.number? [a, b, c, d]).map (·, rest)
  | _ => none

/-- The character of a one-letter escape. -/
def plainEscape? (c : Char) : Option Char :=
  if c = '"' || c = '\\' || c = '/' then some c
  else if c = 'b' then some '\x08'
  else if c = 'f' then some '\x0c'
  else if c = 'n' then some '\n'
  else if c = 'r' then some '\r'
  else if c = 't' then some '\t'
  else none

/-- A low surrogate escape at the start of a text. -/
def lowEscape? : List Point → Option (Nat × List Point)
  | .char '\\' :: .char 'u' :: rest =>
    match hex4? rest with
    | some (n, rest) => if Encoding.isLowSurrogate n then some (n, rest) else none
    | none => none
  | _ => none

/-- The code point of an escape with the number `n`, and what follows: a high surrogate takes the
low one behind it. -/
def codeEscape (n : Nat) (rest : List Point) : Point × List Point :=
  match (if Encoding.isHighSurrogate n then lowEscape? rest else none) with
  | some (low, rest) => (.ofCode (Encoding.joinSurrogates n low), rest)
  | none => (.ofCode n, rest)

/-- A text after its opening quote; `done` is in reverse. -/
def readTextBody : (fuel : Nat) → (done : List Point) → List Point → Option (Str × List Point)
  | 0, _, _ => none
  | fuel + 1, done, points =>
    match points with
    | [] => none
    | .char '"' :: rest => some (.ofPoints done.reverse, rest)
    | .char '\\' :: .char 'u' :: rest =>
      match hex4? rest with
      | none => none
      | some (n, rest) =>
        let (point, rest) := codeEscape n rest
        readTextBody fuel (point :: done) rest
    | .char '\\' :: .char c :: rest =>
      match plainEscape? c with
      | some c => readTextBody fuel (c :: done) rest
      | none => none
    | .char c :: rest =>
      if c.toNat < 32 || c = '\\' then none else readTextBody fuel (c :: done) rest
    | .half h :: rest => readTextBody fuel (.half h :: done) rest

def readText? (points : List Point) : Option (Str × List Point) :=
  readTextBody (points.length + 1) [] points

/-- Digits after a point, if there is a point with a digit after it. -/
def fraction : List Char → List Char × List Char
  | '.' :: rest =>
    match Numeral.span rest with
    | ([], _) => ([], '.' :: rest)
    | (digits, rest) => (digits, rest)
  | cs => ([], cs)

/-- An exponent, if the text starts with a complete one. -/
def exponent? : List Char → Option (Int × List Char)
  | e :: rest =>
    if e = 'e' || e = 'E' then
      let (negative, rest) := match rest with
        | '-' :: rest => (true, rest)
        | '+' :: rest => (false, rest)
        | rest => (false, rest)
      match Numeral.span rest with
      | ([], _) => none
      | (digits, rest) =>
        let n : Int := Numeral.ofDigits digits
        some (if negative then -n else n, rest)
    else none
  | [] => none

/-- The digits in front of a point. Nothing follows a zero. -/
def wholePart : List Char → List Char × List Char
  | '0' :: rest => (['0'], rest)
  | cs => Numeral.span cs

/-- A number without its sign. -/
def readUnsigned? (negative : Bool) (cs : List Char) : Option (Json × List Char) :=
  let (whole, rest) := wholePart cs
  if whole.isEmpty then none
  else
    let (digits, rest) := fraction rest
    match exponent? rest with
    | some (e, rest) =>
      let x := Binary64.ofDecimal negative (Numeral.ofDigits (whole ++ digits)) (e - digits.length)
      some (.float x, rest)
    | none =>
      if digits.isEmpty then
        (Numeral.read? whole).map fun (n : Nat) => (.int (if negative then -n else n), rest)
      else
        let x := Binary64.ofDecimal negative (Numeral.ofDigits (whole ++ digits)) (-digits.length)
        some (.float x, rest)

/-- The rest of a text after a word. -/
def dropWord? : (word : List Char) → List Char → Option (List Char)
  | [], cs => some cs
  | w :: word, c :: cs => if w = c then dropWord? word cs else none
  | _ :: _, [] => none

def words : List (List Char × Json) :=
  [("null".toList, .null), ("true".toList, .bool true), ("false".toList, .bool false),
   ("NaN".toList, .float .nan), ("Infinity".toList, .float (.infinite false)),
   ("-Infinity".toList, .float (.infinite true))]

/-- A word or a number. -/
def readPlain? (cs : List Char) : Option (Json × List Char) :=
  match words.findSome? fun (word, json) => (dropWord? word cs).map (json, ·) with
  | some found => some found
  | none =>
    match cs with
    | '-' :: rest => readUnsigned? true rest
    | cs => readUnsigned? false cs

/-- Whether a word or a number may hold a character. -/
def isPlain (c : Char) : Bool := c.isAlphanum || c = '-' || c = '+' || c = '.'

/-- A word or a number at the start of a text. -/
def readWord? (points : List Point) : Option (Json × List Point) :=
  let (run, rest) := Point.span isPlain points
  (readPlain? run).map fun (json, left) => (json, left.map .char ++ rest)

/-- A failure to read is a fault of form. -/
def orMalformed {α : Type} : Option α → Except ReadError α
  | some value => .ok value
  | none => .error .malformed

mutual
/-- One value at the start of a text that does not start with space; `depth` is how deep it may
go. -/
def readValue : (fuel depth : Nat) → List Point → Except ReadError (Json × List Point)
  | 0, _, _ => .error .malformed
  | fuel + 1, depth, points =>
    match points with
    | .char '"' :: rest => do
      let (s, rest) ← orMalformed (readText? rest)
      pure (.str s, rest)
    | .char '[' :: rest =>
      match depth with
      | 0 => .error .tooDeep
      | depth + 1 =>
        match skipSpace rest with
        | .char ']' :: rest => .ok (.arr [], rest)
        | rest => readItems fuel depth [] rest
    | .char '\x7b' :: rest =>
      match depth with
      | 0 => .error .tooDeep
      | depth + 1 =>
        match skipSpace rest with
        | .char '\x7d' :: rest => .ok (.obj [], rest)
        | rest => readMembers fuel depth [] rest
    | points => orMalformed (readWord? points)

def readItems : (fuel depth : Nat) → (done : List Json) → List Point →
    Except ReadError (Json × List Point)
  | 0, _, _, _ => .error .malformed
  | fuel + 1, depth, done, points =>
    match readValue fuel depth points with
    | .error e => .error e
    | .ok (item, rest) =>
      match skipSpace rest with
      | .char ',' :: rest => readItems fuel depth (item :: done) (skipSpace rest)
      | .char ']' :: rest => .ok (.arr (item :: done).reverse, rest)
      | _ => .error .malformed

def readMembers : (fuel depth : Nat) → (done : List (Str × Json)) → List Point →
    Except ReadError (Json × List Point)
  | 0, _, _, _ => .error .malformed
  | fuel + 1, depth, done, points =>
    match points with
    | .char '"' :: rest =>
      match readText? rest with
      | none => .error .malformed
      | some (name, rest) =>
        match skipSpace rest with
        | .char ':' :: rest =>
          match readValue fuel depth (skipSpace rest) with
          | .error e => .error e
          | .ok (value, rest) =>
            let done := (name, value) :: done
            match skipSpace rest with
            | .char ',' :: rest => readMembers fuel depth done (skipSpace rest)
            | .char '\x7d' :: rest => .ok (ofMembers done.reverse, rest)
            | _ => .error .malformed
        | _ => .error .malformed
    | _ => .error .malformed
end

/-- The value that a whole document writes. -/
def ofPoints (points : List Point) : Except ReadError Json := do
  let (json, rest) ← readValue (points.length + 1) depthLimit (skipSpace points)
  if (skipSpace rest).isEmpty then .ok json else .error .malformed

def ofStr? (s : Str) : Option Json := (ofPoints s.points).toOption

/-- The value that a document writes, in the encoding that its first bytes tell. -/
def ofBytes (bytes : Bytes) : Except ReadError Json := do
  let (encoding, bytes) := Encoding.detect bytes
  ofPoints ((← orMalformed (encoding.codes? bytes)).map .ofCode)

end Paygate.Json
