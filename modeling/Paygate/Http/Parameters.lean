import Paygate.Number.Numeral
import Paygate.Text.Blank
import Paygate.Text.LowerCase
import Paygate.Url.Percent

/-!
# Header values with parameters

A header such as `text/plain; charset="utf-8"` is a value and a list of named parameters, separated
by semicolons outside double quotes. Names do not depend on case. A parameter in quotes or in angle
brackets stands for the text inside. A name that ends in `*` has an extended value: a charset, a
language and percent-encoded bytes, separated by apostrophes. A value may come in pieces, whose names
are the parameter's with `*` and a number.
-/

namespace Paygate.Http

/-- Why parameters cannot be read. -/
inductive ParameterError where
  /-- Only some pieces of a value have numbers. -/
  | mixedPieces
  | numeralTooLong
deriving DecidableEq, Repr

def ParameterError.message : ParameterError → String
  | mixedPieces => "only some pieces of a parameter have numbers"
  | numeralTooLong => "the number of a piece has too many digits"

structure Parameter where
  name : String := ""
  text : String := ""
  /-- The charset of an extended value, empty if it names none. -/
  charset : Option String := none
deriving DecidableEq, Repr

structure HeaderValue where
  value : String
  /-- The value read as a parameter. -/
  first : Parameter
  parameters : List Parameter
deriving DecidableEq, Repr

namespace HeaderValue

/-- The pieces between the semicolons that stand outside quotes. A quote after a backslash does not
count. `piece` is in reverse. -/
def splitPieces : (quoted escaped : Bool) → (piece : List Char) → List Char → List (List Char)
  | _, _, piece, [] => [piece.reverse]
  | quoted, escaped, piece, c :: rest =>
    if c = ';' && !quoted then piece.reverse :: splitPieces false false [] rest
    else splitPieces (if c = '"' && !escaped then !quoted else quoted) (c = '\\') (c :: piece) rest

/-- A text without the backslash before every `c`. -/
def dropEscapes (c : Char) : List Char → List Char
  | '\\' :: d :: rest => if d = c then c :: dropEscapes c rest else '\\' :: dropEscapes c (d :: rest)
  | d :: rest => d :: dropEscapes c rest
  | [] => []

/-- A quoted text without its escapes: first those of backslashes, then those of quotes. -/
def unescape (cs : List Char) : List Char := dropEscapes '"' (dropEscapes '\\' cs)

/-- The text inside quotes or angle brackets. -/
def unquote (cs : List Char) : List Char :=
  if cs.length > 1 && cs.head? = some '"' && cs.getLast? = some '"' then unescape (cs.drop 1).dropLast
  else if cs.length > 1 && cs.head? = some '<' && cs.getLast? = some '>' then (cs.drop 1).dropLast
  else cs

/-- Percent-encoded bytes, one character for each. -/
def percentBytes : List Char → List Char
  | '%' :: hi :: lo :: rest =>
    match Percent.byte? hi lo with
    | some b => Char.ofNat b.toNat :: percentBytes rest
    | none => '%' :: percentBytes (hi :: lo :: rest)
  | c :: rest => c :: percentBytes rest
  | [] => []

/-- What stands before and after the first `=`. A name without a value keeps its case. -/
def splitPiece (piece : List Char) : List Char × List Char :=
  let name := Text.trim Text.blank (piece.takeWhile (· ≠ '='))
  (if piece.contains '=' then Text.lower name else name,
    Text.trim Text.blank ((piece.dropWhile (· ≠ '=')).drop 1))

/-! ## Values in numbered pieces -/

/-- A piece of a value: its number, if it has one, and whether it is percent-encoded. -/
structure Chunk where
  number : Option Nat
  text : String
  encoded : Bool
deriving DecidableEq, Repr

namespace Chunk

/-- The order of the pieces. Numbers decide first. -/
def le (a b : Chunk) : Bool :=
  let m := a.number.getD 0
  let n := b.number.getD 0
  m < n || (m = n && (a.text < b.text || (a.text = b.text && (b.encoded || !a.encoded))))

def decoded (chunk : Chunk) : List Char :=
  if chunk.encoded then percentBytes chunk.text.toList else chunk.text.toList

end Chunk

def isWord (c : Char) : Bool := c.isAlphanum || c = '_'

/-- The name that a piece adds to, and its number. A name before `*` consists of letters, digits and
underscores; digits may follow, and another `*` after them. -/
def pieceName? (name : List Char) : Option (String × Option (List Char)) :=
  let base := name.takeWhile isWord
  match name.drop base.length with
  | '*' :: rest =>
    let digits := rest.takeWhile Char.isDigit
    if base.isEmpty then none
    else if rest.isEmpty then some (String.ofList base, none)
    else if !digits.isEmpty && ["", "*"].contains (String.ofList (rest.drop digits.length)) then
      some (String.ofList base, some digits)
    else none
  | _ => none

/-- A parameter or a piece of one. -/
def readPiece (piece : List Char) : Except ParameterError (Parameter ⊕ String × Chunk) :=
  let (name, value) := splitPiece piece
  let text := String.ofList (unquote value)
  let encoded := name.getLast? = some '*'
  match pieceName? name with
  | none => .ok (.inl { name := String.ofList name, text })
  | some (base, none) => .ok (.inr (base, ⟨none, text, encoded⟩))
  | some (base, some digits) =>
    match Numeral.read? digits with
    | none => .error .numeralTooLong
    | some number => .ok (.inr (base, ⟨some number, text, encoded⟩))

/-- The charset and the text of an extended value. -/
def splitExtended (cs : List Char) : String × String :=
  let afterCharset := (cs.dropWhile (· ≠ '\'')).drop 1
  match afterCharset.dropWhile (· ≠ '\'') with
  | _ :: rest => (String.ofList (cs.takeWhile (· ≠ '\'')), String.ofList rest)
  | [] => ("", String.ofList cs)

/-- The parameter whose pieces these are. -/
def join (name : String) (chunks : List Chunk) : Except ParameterError Parameter :=
  if chunks.any (·.number.isNone) && chunks.any (·.number.isSome) then .error .mixedPieces
  else
    let text := (chunks.mergeSort Chunk.le).flatMap Chunk.decoded
    if chunks.any (·.encoded) then
      let (charset, text) := splitExtended text
      .ok { name, text, charset }
    else .ok { name, text := String.ofList text }

/-- The parameters of pieces; those that have pieces of their own come last. -/
def readParameters (pieces : List (List Char)) : Except ParameterError (List Parameter) := do
  let read ← pieces.mapM readPiece
  let plain := read.filterMap Sum.getLeft?
  let chunks := read.filterMap Sum.getRight?
  let joined ← (chunks.map (·.1)).eraseDups.mapM fun name =>
    join name ((chunks.filter (·.1 = name)).map (·.2))
  pure (plain ++ joined)

/-- The value is in lower case. It ends at `=` if parameters follow. -/
def ofString (text : String) : Except ParameterError HeaderValue :=
  match splitPieces false false [] text.toList with
  | [] => .ok { value := "", first := {}, parameters := [] }
  | piece :: pieces => do
    let (name, value) := splitPiece piece
    let whole := if text.contains ';' then name else Text.trim Text.blank piece
    pure {
      value := String.ofList (Text.lower whole)
      first := { name := String.ofList name, text := String.ofList (unquote value) }
      parameters := ← readParameters pieces }

/-- The text of a parameter. Of two parameters of one name the later counts. -/
def parameter? (header : HeaderValue) (name : String) : Option String :=
  (header.parameters.reverse.find? (·.name = name)).map (·.text)

/-- The first parameter of a name in any case; the value may be one. -/
def firstNamed? (header : HeaderValue) (name : String) : Option Parameter :=
  (header.first :: header.parameters).find? fun parameter =>
    Text.lower parameter.name.toList = name.toList

end HeaderValue

end Paygate.Http
