import Paygate.Charset.Name
import Paygate.Http.Fault
import Paygate.Payment.Field

/-!
# Multipart forms

A body of parts between lines that are `--` and the boundary. A part has headers, an empty line and
its content; its `Content-Disposition` header gives the name of the field, and a file name makes the
field a file. Whatever stands behind the closing line is left out, and so is a part that no line
ends.
-/

namespace Paygate.Service

/-- Why a form cannot be read. -/
inductive FormError where
  | missingBoundary
  | malformed
  | missingName
  | tooManyFields
  | tooManyFiles
deriving DecidableEq, Repr

/-- The most fields, and the most files, that a form may have. -/
def fieldLimit : Nat := 1000

def FormError.message : FormError → String
  | missingBoundary => "Missing boundary in multipart."
  | malformed => "Invalid multipart data."
  | missingName => "The Content-Disposition header field \"name\" must be provided."
  | tooManyFields =>
    "Too many fields. Maximum number of fields is " ++ toString fieldLimit ++ "."
  | tooManyFiles => "Too many files. Maximum number of files is " ++ toString fieldLimit ++ "."

/-- Why there is no form: an error, which the client is told, or a fault. -/
inductive FormFailure where
  | error (error : FormError)
  | fault (cause : Http.Fault)
deriving DecidableEq, Repr

namespace Multipart

def cr : UInt8 := 13

def lf : UInt8 := 10

def hyphen : UInt8 := 45

def isTokenChar (c : Char) : Bool :=
  c.isAlphanum || "!#$%&'*+-.^_|~\x60".toList.contains c

def isTokenByte (b : UInt8) : Bool := b < 128 && isTokenChar (Char.ofNat b.toNat)

/-- A step of reading. `ended` says that the body stopped in the middle. -/
inductive Step (α : Type) where
  | error
  | ended
  | done (value : α) (rest : Bytes)

abbrev Headers := List (Bytes × Bytes)

/-- The name of a header, up to its colon. -/
def readName (bytes : Bytes) : Step Bytes :=
  let name := bytes.takeWhile isTokenByte
  match bytes.drop name.length with
  | [] => .ended
  | b :: rest => if b = 58 && !name.isEmpty then .done name rest else .error

/-- The value of a header and the end of its line. -/
def readValue (bytes : Bytes) : Step Bytes :=
  let bytes := bytes.dropWhile (· = 32)
  let value := bytes.takeWhile (· ≠ cr)
  match bytes.drop value.length with
  | [] => .ended
  | [_] => .ended
  | _ :: b :: rest => if b = lf then .done value rest else .error

/-- Headers up to the empty line that ends them. -/
def readHeaders : (fuel : Nat) → Bytes → Step Headers
  | 0, _ => .ended
  | _ + 1, [] => .ended
  | fuel + 1, b :: rest =>
    if b = cr then
      match rest with
      | [] => .ended
      | c :: rest => if c = lf then .done [] rest else .error
    else
      match readName (b :: rest) with
      | .error => .error
      | .ended => .ended
      | .done name rest =>
        match readValue rest with
        | .error => .error
        | .ended => .ended
        | .done value rest =>
          match readHeaders fuel rest with
          | .error => .error
          | .ended => .ended
          | .done headers rest => .done ((name, value) :: headers) rest

/-- The bytes after a delimiter line: the flag tells the line that closes the body. -/
def afterDelimiter? (delimiter bytes : Bytes) : Option (Bool × Bytes) :=
  if delimiter.isPrefixOf bytes then
    match bytes.drop delimiter.length with
    | a :: b :: rest =>
      if a = cr && b = lf then some (false, rest)
      else if a = hyphen && b = hyphen then some (true, rest)
      else none
    | _ => none
  else none

/-- The content up to the next delimiter line; `none` if there is none. -/
def readContent (delimiter : Bytes) : Bytes → Option (Bytes × Bool × Bytes)
  | [] => none
  | b :: rest =>
    match afterDelimiter? delimiter (b :: rest) with
    | some (last, rest) => some ([], last, rest)
    | none => (readContent delimiter rest).map fun (content, tail) => (b :: content, tail)

/-- The bytes as characters of the same codes. -/
def latinText (bytes : Bytes) : String :=
  String.ofList (bytes.map fun (b : UInt8) => Char.ofNat b.toNat)

def latinBytes (text : String) : Bytes := text.toList.map fun c => UInt8.ofNat c.toNat

/-- The text of bytes in a charset, or byte by byte if they are not in it or it is unknown. -/
def textIn (charset : String) (bytes : Bytes) : Except Charset.Fault Str := do
  let named ← Charset.ofName? charset
  match named with
  | none => pure (latinText bytes)
  | some named =>
    if bytes.isEmpty then pure ""
    else pure ((← named.decode? bytes).getD (latinText bytes))

/-- What the headers of a part tell: the name of its field and whether it is a file. -/
structure Disposition where
  name : Str
  isFile : Bool
deriving DecidableEq, Repr

/-- The value of the last header that tells the disposition of a part; empty without one. -/
def dispositionText (headers : Headers) : String :=
  let found := headers.reverse.find? fun header =>
    Text.lower (latinText header.1).toList == "content-disposition".toList
  (found.map fun header => latinText header.2).getD ""

/-- A file name is read too, though nothing depends on it. -/
def disposition (charset : String) (headers : Headers) : Except FormFailure Disposition := do
  let value ← (Http.HeaderValue.ofString (dispositionText headers)).mapError (.fault ∘ .parameters)
  let read (text : String) : Except FormFailure Str :=
    (textIn charset (latinBytes text)).mapError (.fault ∘ .charset)
  match value.parameter? "name" with
  | none => .error (.error .missingName)
  | some name => do
    let name ← read name
    match value.parameter? "filename" with
    | none => .ok ⟨name, false⟩
    | some file => do
      let _ ← read file
      .ok ⟨name, true⟩

/-- The fields of the parts, the first of which starts here. `files` and `texts` were seen before. -/
def readParts (charset : String) (delimiter : Bytes) : (fuel : Nat) → (files texts : Nat) → Bytes →
    Except FormFailure (List (Str × Field))
  | 0, _, _, _ => .ok []
  | fuel + 1, files, texts, bytes =>
    match readHeaders (bytes.length + 1) bytes with
    | .error => .error (.error .malformed)
    | .ended => .ok []
    | .done headers rest => do
      let ⟨name, isFile⟩ ← disposition charset headers
      let files := if isFile then files + 1 else files
      let texts := if isFile then texts else texts + 1
      if files > fieldLimit then .error (.error .tooManyFiles)
      else if texts > fieldLimit then .error (.error .tooManyFields)
      else
        match readContent delimiter rest with
        | none => .ok []
        | some (content, last, rest) =>
          let field ←
            if isFile then .ok .upload
            else ((textIn charset content).map .text).mapError (.fault ∘ .charset)
          if last then .ok [(name, field)]
          else (readParts charset delimiter fuel files texts rest).map ((name, field) :: ·)

/-- The fields of a body. Empty lines may stand before the first part; a body that stops within the
first line has no parts. -/
def read (charset : String) (boundary body : Bytes) : Except FormFailure (List (Str × Field)) :=
  let opening := hyphen :: hyphen :: boundary
  let bytes := body.dropWhile fun b => b = cr || b = lf
  if opening.isPrefixOf bytes then
    match bytes.drop opening.length with
    | [] => .ok []
    | a :: rest =>
      if a = cr then
        match rest with
        | [] => .ok []
        | b :: rest =>
          if b = lf then readParts charset (cr :: lf :: opening) rest.length 0 0 rest
          else .error (.error .malformed)
      else if a = hyphen then
        match rest with
        | [] => .ok []
        | b :: _ => if b = hyphen then .ok [] else .error (.error .malformed)
      else .error (.error .malformed)
  else if bytes.isPrefixOf opening then .ok []
  else .error (.error .malformed)

end Multipart

end Paygate.Service
