import Paygate.Toml.Scalar

/-!
# Reading TOML

The grammar of TOML 1.0. A carriage return counts only as part of a line end. Control characters
other than the tab may stand nowhere, and the line feed only in texts of several lines.
-/

namespace Paygate.Toml

abbrev Result (α : Type) := Except Error (α × List Point)

def invalid {α : Type} : Except Error α := .error .invalid

/-- Line ends as single line feeds. -/
def unifyLineEnds : List Point → List Point
  | .char '\r' :: .char '\n' :: rest => .char '\n' :: unifyLineEnds rest
  | point :: rest => point :: unifyLineEnds rest
  | [] => []

def isSpace (point : Point) : Bool := point = ' ' || point = '\t'

def skipSpace (points : List Point) : List Point := points.dropWhile isSpace

def skipSpaceAndLines (points : List Point) : List Point :=
  points.dropWhile fun point => isSpace point || point = '\n'

def isControl : Point → Bool
  | .char c => (c.toNat < 32 && c ≠ '\t') || c.toNat = 127
  | .half _ => false

/-- What follows a comment, if there is one; the line feed stays. -/
def skipComment (points : List Point) : Except Error (List Point) :=
  match points with
  | .char '#' :: rest =>
    let (comment, rest) := List.span (· ≠ Point.char '\n') rest
    if comment.any isControl then invalid else .ok rest
  | _ => .ok points

/-- What follows spaces, line feeds and comments. -/
def skipBlank : (fuel : Nat) → List Point → Except Error (List Point)
  | 0, points => .ok points
  | fuel + 1, points =>
    match skipComment (skipSpaceAndLines points) with
    | .error e => .error e
    | .ok rest => if rest.length = points.length then .ok rest else skipBlank fuel rest

/-! ## Texts -/

/-- A text between single quotes, after the first. -/
def literal (points : List Point) : Result Str :=
  let (body, rest) := List.span (· ≠ Point.char '\'') points
  if body.any isControl then invalid
  else match rest with
    | _ :: rest => .ok (Str.ofPoints body, rest)
    | [] => invalid

/-- The character of as many hexadecimal digits as are asked for. -/
def codeEscape (count : Nat) (points : List Point) : Result Char :=
  let digits := points.take count
  if digits.length = count then
    match ((digits.mapM Point.char?).bind Hex.number?).bind Encoding.scalar? with
    | some c => .ok (c, points.drop count)
    | none => invalid
  else invalid

/-- The character of an escape, after the backslash. -/
def escape : List Point → Result Char
  | .char 'b' :: rest => .ok ('\x08', rest)
  | .char 't' :: rest => .ok ('\t', rest)
  | .char 'n' :: rest => .ok ('\n', rest)
  | .char 'f' :: rest => .ok ('\x0c', rest)
  | .char 'r' :: rest => .ok ('\r', rest)
  | .char '"' :: rest => .ok ('"', rest)
  | .char '\\' :: rest => .ok ('\\', rest)
  | .char 'u' :: rest => codeEscape 4 rest
  | .char 'U' :: rest => codeEscape 8 rest
  | _ => invalid

/-- A text between double quotes, after the first. -/
def basic : (fuel : Nat) → (done : List Point) → List Point → Result Str
  | 0, _, _ => invalid
  | fuel + 1, done, points =>
    match points with
    | [] => invalid
    | .char '"' :: rest => .ok (Str.ofPoints done.reverse, rest)
    | .char '\\' :: rest =>
      match escape rest with
      | .ok (c, rest) => basic fuel (c :: done) rest
      | .error e => .error e
    | point :: rest =>
      if isControl point || point = '\n' then invalid else basic fuel (point :: done) rest

/-- Up to two more quotes after the three that end a text of several lines belong to the text. -/
def closing (quote : Point) (done : List Point) (rest : List Point) : Str × List Point :=
  match rest with
  | a :: b :: more =>
    if a = quote then
      (if b = quote then (Str.ofPoints (quote :: quote :: done).reverse, more)
       else (Str.ofPoints (quote :: done).reverse, b :: more))
    else (Str.ofPoints done.reverse, rest)
  | [a] => if a = quote then (Str.ofPoints (quote :: done).reverse, []) else (Str.ofPoints done.reverse, rest)
  | [] => (Str.ofPoints done.reverse, [])

def isControlInLines (point : Point) : Bool := isControl point && point ≠ '\n'

def literalLines : (done : List Point) → List Point → Result Str
  | done, .char '\'' :: .char '\'' :: .char '\'' :: rest => .ok (closing '\'' done rest)
  | done, point :: rest =>
    if isControlInLines point then invalid else literalLines (point :: done) rest
  | _, [] => invalid

/-- What follows a backslash at the end of a line: spaces and line ends up to the next character. A
space or tab before the line end is allowed. -/
def lineBreak (points : List Point) : Except Error (List Point) :=
  match skipSpace points with
  | [] => .ok []
  | .char '\n' :: rest => .ok (skipSpaceAndLines rest)
  | _ => invalid

def basicLines : (fuel : Nat) → (done : List Point) → List Point → Result Str
  | 0, _, _ => invalid
  | fuel + 1, done, points =>
    match points with
    | [] => invalid
    | .char '"' :: .char '"' :: .char '"' :: rest => .ok (closing '"' done rest)
    | .char '\\' :: point :: rest =>
      if isSpace point || point = '\n' then
        match lineBreak (point :: rest) with
        | .ok rest => basicLines fuel done rest
        | .error e => .error e
      else
        match escape (point :: rest) with
        | .ok (c, rest) => basicLines fuel (c :: done) rest
        | .error e => .error e
    | point :: rest =>
      if isControlInLines point || point = '\\' then invalid
      else basicLines fuel (point :: done) rest

/-- A line feed right after the opening quotes does not belong to the text. -/
def dropFirstLineFeed : List Point → List Point
  | .char '\n' :: rest => rest
  | points => points

/-! ## Names -/

def isBare (c : Char) : Bool := c.isAlphanum || c = '-' || c = '_'

def namePart (points : List Point) : Result Str :=
  match points with
  | .char '\'' :: rest => literal rest
  | .char '"' :: rest => basic (rest.length + 1) [] rest
  | points =>
    match Point.span isBare points with
    | ([], _) => invalid
    | (name, rest) => .ok (String.ofList name, rest)

/-- Parts of a name with points between them, and the space after it. -/
def dottedName : (fuel : Nat) → List Point → Result Path
  | 0, _ => invalid
  | fuel + 1, points =>
    match namePart points with
    | .error e => .error e
    | .ok (part, rest) =>
      match skipSpace rest with
      | .char '.' :: rest =>
        match dottedName fuel (skipSpace rest) with
        | .ok (path, rest) => .ok (part :: path, rest)
        | .error e => .error e
      | rest => .ok ([part], rest)

/-- A dotted name and the start of its value. -/
def nameAndEquals (points : List Point) : Result Path :=
  match dottedName (points.length + 1) points with
  | .ok (path, .char '=' :: rest) => .ok (path, skipSpace rest)
  | .ok _ => invalid
  | .error e => .error e

/-! ## Values -/

/-- A name in an inline table. Names inside an earlier inline value may not be set. -/
def Document.assignInline (key : Path) (value : Value) (doc : Document) : Except Error Document :=
  match key.getLast? with
  | none => invalid
  | some name =>
    if doc.isSealed key then invalid
    else
      ofOption (doc.entries.within key.dropLast (Table.insertNew name value))
        { doc with sealed_ := if value.isContainer then key :: doc.sealed_ else doc.sealed_ }

/-- Whether a number, a date, a time or a truth value may hold a character. -/
def isPlain (c : Char) : Bool :=
  c.isAlphanum || c = '+' || c = '-' || c = '.' || c = '_' || c = ':' || c = ' '

/-- What follows such a value. -/
def skipPlain (points : List Point) : Except Error (List Point) :=
  let (run, rest) := Point.span isPlain points
  (plain? run).map fun left => left.map .char ++ rest

/-- How deep values may stand inside each other. An array counts twice, an inline table three
times. -/
def depthLimit : Nat := 960

mutual
/-- `depth` is how deep the value may go. -/
def value : (fuel depth : Nat) → List Point → Result Value
  | 0, _, _ => invalid
  | fuel + 1, depth, points =>
    match points with
    | .char '"' :: .char '"' :: .char '"' :: rest =>
      (basicLines (rest.length + 1) [] (dropFirstLineFeed rest)).map fun (s, rest) => (.text s, rest)
    | .char '"' :: rest => (basic (rest.length + 1) [] rest).map fun (s, rest) => (.text s, rest)
    | .char '\'' :: .char '\'' :: .char '\'' :: rest =>
      (literalLines [] (dropFirstLineFeed rest)).map fun (s, rest) => (.text s, rest)
    | .char '\'' :: rest => (literal rest).map fun (s, rest) => (.text s, rest)
    | .char '[' :: rest =>
      if depth < 2 then .error .tooDeep
      else
        match skipBlank (rest.length + 1) rest with
        | .error e => .error e
        | .ok (.char ']' :: rest) => .ok (.array [], rest)
        | .ok rest => array fuel (depth - 2) [] rest
    | .char '\x7b' :: rest =>
      if depth < 3 then .error .tooDeep
      else
        match skipSpace rest with
        | .char '\x7d' :: rest => .ok (.table [], rest)
        | rest => inlineTable fuel (depth - 3) {} rest
    | points => (skipPlain points).map fun rest => (.plain, rest)

def array : (fuel depth : Nat) → (done : List Value) → List Point → Result Value
  | 0, _, _, _ => invalid
  | fuel + 1, depth, done, points =>
    match value fuel depth points with
    | .error e => .error e
    | .ok (item, rest) =>
      match skipBlank (rest.length + 1) rest with
      | .error e => .error e
      | .ok (.char ']' :: rest) => .ok (.array (item :: done).reverse, rest)
      | .ok (.char ',' :: rest) =>
        match skipBlank (rest.length + 1) rest with
        | .error e => .error e
        | .ok (.char ']' :: rest) => .ok (.array (item :: done).reverse, rest)
        | .ok rest => array fuel depth (item :: done) rest
      | .ok _ => invalid

def inlineTable : (fuel depth : Nat) → (doc : Document) → List Point → Result Value
  | 0, _, _, _ => invalid
  | fuel + 1, depth, doc, points =>
    match nameAndEquals points with
    | .error e => .error e
    | .ok (key, rest) =>
      match value fuel depth rest with
      | .error e => .error e
      | .ok (item, rest) =>
        match doc.assignInline key item with
        | .error e => .error e
        | .ok doc =>
          match skipSpace rest with
          | .char '\x7d' :: rest => .ok (.table doc.entries, rest)
          | .char ',' :: rest => inlineTable fuel depth doc (skipSpace rest)
          | _ => invalid
end

/-! ## Statements -/

/-- A header, after its first bracket. -/
def header (doc : Document) (points : List Point) : Result Document :=
  let doc := doc.settle
  match points with
  | .char '[' :: rest =>
    match dottedName (rest.length + 1) (skipSpace rest) with
    | .error e => .error e
    | .ok (path, rest) =>
      match doc.openListTable path, rest with
      | .ok doc, .char ']' :: .char ']' :: rest => .ok (doc, rest)
      | _, _ => invalid
  | rest =>
    match dottedName (rest.length + 1) (skipSpace rest) with
    | .error e => .error e
    | .ok (path, rest) =>
      match doc.openTable path, rest with
      | .ok doc, .char ']' :: rest => .ok (doc, rest)
      | _, _ => invalid

/-- One statement: nothing, a name with its value, or a header. -/
def statement (doc : Document) (points : List Point) : Result Document :=
  match points with
  | [] => .ok (doc, [])
  | .char '\n' :: _ => .ok (doc, points)
  | .char '#' :: _ => .ok (doc, points)
  | .char '[' :: rest => header doc rest
  | _ =>
    match nameAndEquals points with
    | .error e => .error e
    | .ok (key, rest) =>
      match value (rest.length + 1) depthLimit rest with
      | .error e => .error e
      | .ok (item, rest) => (doc.assign key item).map (·, rest)

/-- The statements of a text, each with a comment behind it and on its own line. -/
def statements : (fuel : Nat) → Document → List Point → Except Error Document
  | 0, _, _ => invalid
  | fuel + 1, doc, points =>
    match statement doc (skipSpace points) with
    | .error e => .error e
    | .ok (doc, rest) =>
      match skipComment (skipSpace rest) with
      | .error e => .error e
      | .ok [] => .ok doc
      | .ok (.char '\n' :: rest) => statements fuel doc rest
      | .ok _ => invalid

/-- The table that a text writes. -/
def read (text : List Point) : Except Error Table :=
  let points := unifyLineEnds text
  (statements (points.length + 1) {} points).map Document.entries

end Paygate.Toml
