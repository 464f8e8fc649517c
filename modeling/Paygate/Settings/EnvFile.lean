import Paygate.Entries
import Paygate.Text.Blank

/-!
# Environment files

A file of lines `NAME=value`, in which `export` may stand before a name and a comment starts with
`#`. A value may stand in quotes, where it may go over several lines and hold escapes; without quotes
it ends at the end of the line or at a `#` after space. A line with a name alone gives the name no
value. A line that is none of these is skipped. In values, `${NAME}` stands for what the file
before, or else the environment, says of a name, and `${NAME:-text}` falls back to a text.
-/

namespace Paygate.Settings.EnvFile

/-- A part of a line and what follows it, or the place from which the rest of the line is skipped. -/
abbrev Read (α : Type) := Except (List Char) (α × List Char)

def isSpace (c : Char) : Bool := Text.blank.contains c

def isLineSpace (c : Char) : Bool := isSpace c && c ≠ '\n' && c ≠ '\r'

/-- A text with one kind of line end. -/
def unifyLineEnds : List Char → List Char
  | '\r' :: '\n' :: rest => '\n' :: unifyLineEnds rest
  | '\r' :: rest => '\n' :: unifyLineEnds rest
  | c :: rest => c :: unifyLineEnds rest
  | [] => []

/-! ## Names -/

/-- The text after `export` and space. -/
def skipExport (cs : List Char) : List Char :=
  let rest := cs.drop 6
  if cs.take 6 = "export".toList && (rest.head?.map isLineSpace).getD false then
    rest.dropWhile isLineSpace
  else cs

/-- The name of a line; none for a comment. A name in quotes is not empty. -/
def readName (cs : List Char) : Read (Option String) :=
  match cs with
  | '#' :: _ => .ok (none, cs)
  | '\'' :: rest =>
    let name := rest.takeWhile (· ≠ '\'')
    match rest.drop name.length with
    | _ :: after => if name.isEmpty then .error cs else .ok (some (String.ofList name), after)
    | [] => .error cs
  | _ =>
    let name := cs.takeWhile fun c => !(c = '=' || c = '#' || isSpace c)
    if name.isEmpty then .error cs else .ok (some (String.ofList name), cs.drop name.length)

/-! ## Values -/

/-- The text up to the closing quote. A quote after a backslash does not close, unless no other
does; then the last of them closes. `done` is in reverse. -/
def readQuoted (quote : Char) : (fallback : Option (List Char × List Char)) → (done : List Char) →
    List Char → Option (List Char × List Char)
  | fallback, _, [] => fallback
  | fallback, done, '\\' :: c :: rest =>
    if c = quote then
      readQuoted quote (some (('\\' :: done).reverse, rest)) (c :: '\\' :: done) rest
    else readQuoted quote fallback ('\\' :: done) (c :: rest)
  | fallback, done, c :: rest =>
    if c = quote then some (done.reverse, rest) else readQuoted quote fallback (c :: done) rest

/-- The character of an escape inside single quotes. -/
def singleEscape? (c : Char) : Option Char := if c = '\\' || c = '\'' then some c else none

/-- The character of an escape inside double quotes. -/
def doubleEscape? (c : Char) : Option Char :=
  if c = '\\' || c = '\'' || c = '"' then some c
  else if c = 'a' then some '\x07'
  else if c = 'b' then some '\x08'
  else if c = 'f' then some '\x0c'
  else if c = 'n' then some '\n'
  else if c = 'r' then some '\r'
  else if c = 't' then some '\t'
  else if c = 'v' then some '\x0b'
  else none

def unescape (escape? : Char → Option Char) : List Char → List Char
  | '\\' :: c :: rest =>
    match escape? c with
    | some d => d :: unescape escape? rest
    | none => '\\' :: unescape escape? (c :: rest)
  | c :: rest => c :: unescape escape? rest
  | [] => []

/-- The text before the first space that a `#` follows. -/
def cutComment : List Char → List Char
  | [] => []
  | c :: rest =>
    if isSpace c && (rest.dropWhile isSpace).head? = some '#' then [] else c :: cutComment rest

def readValue (cs : List Char) : Read String :=
  match cs with
  | '\'' :: rest =>
    match readQuoted '\'' none [] rest with
    | some (value, rest) => .ok (String.ofList (unescape singleEscape? value), rest)
    | none => .error cs
  | '"' :: rest =>
    match readQuoted '"' none [] rest with
    | some (value, rest) => .ok (String.ofList (unescape doubleEscape? value), rest)
    | none => .error cs
  | _ =>
    let line := cs.takeWhile (· ≠ '\n')
    .ok (String.ofList (Text.trimRight Text.blank (cutComment line)), cs.drop line.length)

/-! ## Lines -/

/-- The end of a line behind space and a comment. -/
def readLineEnd (cs : List Char) : Read Unit :=
  let rest := cs.dropWhile isLineSpace
  let rest := if rest.head? = some '#' then rest.dropWhile (· ≠ '\n') else rest
  match rest with
  | [] => .ok ((), [])
  | '\n' :: rest => .ok ((), rest)
  | _ => .error rest

/-- A name with its value, if the line has one. -/
def readLine (cs : List Char) :
    Except (List Char) (Option (String × Option String) × List Char) := do
  let (name, rest) ← readName (skipExport cs)
  let (value, rest) ← match rest.dropWhile isLineSpace with
    | '=' :: rest => (readValue (rest.dropWhile isLineSpace)).map fun (value, rest) => (some value, rest)
    | rest => .ok (none, rest)
  let (_, rest) ← readLineEnd rest
  pure (name.map (·, value), rest)

/-- The lines of a text, at most `fuel` of them. -/
def readLines : (fuel : Nat) → List Char → List (String × Option String)
  | 0, _ => []
  | fuel + 1, cs =>
    match cs.dropWhile isSpace with
    | [] => []
    | cs =>
      match readLine cs with
      | .ok (some binding, rest) => binding :: readLines fuel rest
      | .ok (none, rest) => readLines fuel rest
      | .error rest => readLines fuel ((rest.dropWhile (· ≠ '\n')).drop 1)

/-! ## References -/

/-- A reference behind `${`: a name and perhaps a text to fall back to. -/
def readReference (cs : List Char) : Option ((String × Option String) × List Char) :=
  let name := cs.takeWhile fun c => c ≠ '\x7d' && c ≠ ':'
  match cs.drop name.length with
  | '\x7d' :: rest => some ((String.ofList name, none), rest)
  | ':' :: '-' :: rest =>
    let text := rest.takeWhile (· ≠ '\x7d')
    match rest.drop text.length with
    | _ :: rest => some ((String.ofList name, some (String.ofList text)), rest)
    | [] => none
  | _ => none

/-- What a name stands for: what the file says, then what the environment says. -/
def lookUp (environment : Entries String) (file : Entries (Option String)) (name : String) :
    Option (Option String) :=
  match file.lookup name with
  | some value => some value
  | none => (environment.lookup name).map some

/-- A value with its references replaced; at most `fuel` characters are looked at. -/
def replaceReferences (value? : String → Option (Option String)) : (fuel : Nat) → List Char → List Char
  | 0, cs => cs
  | _ + 1, [] => []
  | fuel + 1, '$' :: '\x7b' :: rest =>
    match readReference rest with
    | some ((name, fallback), rest) =>
      let text := match value? name with
        | some value => value.getD ""
        | none => fallback.getD ""
      text.toList ++ replaceReferences value? fuel rest
    | none => '$' :: replaceReferences value? fuel ('\x7b' :: rest)
  | fuel + 1, c :: rest => c :: replaceReferences value? fuel rest

/-- The names and values of a file that is read in an environment. -/
def read (environment : Entries String) (text : String) : Entries (Option String) :=
  let cs := unifyLineEnds text.toList
  (readLines (cs.length + 1) cs).foldl (fun file (name, value) =>
    let value := value.map fun v =>
      String.ofList (replaceReferences (lookUp environment file) v.length v.toList)
    Entries.set name value file) []

end Paygate.Settings.EnvFile
