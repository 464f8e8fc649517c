import Paygate.Bytes.Hex
import Paygate.Charset.Piece
import Paygate.Text.CharacterName
import Paygate.Text.Encoding

/-!
# Escapes

Bytes are Latin characters, but for escapes that begin with a backslash. A raw text has only `\u`
and `\U` with four and eight hexadecimal digits. Any other text also has escapes for quotes, control
characters, octal and two hexadecimal digits, and names of characters, and leaves out a line end
behind a backslash.
-/

namespace Paygate.Charset.Escape

/-- The hexadecimal digits at the front, at most `width` of them. -/
def hexDigits (width : Nat) (bytes : Bytes) : List Nat :=
  ((bytes.take width).map fun b => Hex.value? (byteChar b)).takeWhile Option.isSome |>.filterMap id

/-- An escape of two characters and `width` hexadecimal digits; `rest` is behind the two. -/
def hexPiece (width : Nat) (rest : Bytes) : Piece Unit :=
  let digits := hexDigits width rest
  let n := digits.foldl (16 * · + ·) 0
  if digits.length < width then .illegal (2 + digits.length)
  else if n > 0x10FFFF then .illegal (2 + width)
  else .point (.ofCode n) (2 + width) ()

def octalDigits (bytes : Bytes) : List Nat :=
  ((bytes.take 3).takeWhile fun b => 48 ≤ b && b ≤ 55).map fun b => b.toNat - 48

/-- The character of an escape of two characters. -/
def short? (c : Char) : Option (List Char) :=
  match c with
  | '\n' => some []
  | '\\' => some ['\\']
  | '\'' => some ['\'']
  | '"' => some ['"']
  | 'a' => some ['\x07']
  | 'b' => some ['\x08']
  | 't' => some ['\t']
  | 'n' => some ['\n']
  | 'v' => some ['\x0b']
  | 'f' => some ['\x0c']
  | 'r' => some ['\r']
  | _ => none

/-- An escape by name, whose braces begin in `rest`. -/
def namePiece (rest : Bytes) : Piece Unit :=
  match rest with
  | 123 :: inside =>
    let name := inside.takeWhile (· ≠ 125)
    if name.length = inside.length then .incomplete
    else if name.isEmpty then .illegal 3
    else orIllegal () (4 + name.length) (4 + name.length) (Text.ofName? (name.map byteChar))
  | _ => .illegal 2

/-- The escape that `b` and `rest` follow the backslash of. -/
def escaped (b : UInt8) (rest : Bytes) : Piece Unit :=
  match short? (byteChar b) with
  | some text => .chars text 2 ()
  | none =>
    let octal := octalDigits (b :: rest)
    if !octal.isEmpty then
      .chars [Char.ofNat (octal.foldl (8 * · + ·) 0)] (1 + octal.length) ()
    else
      match byteChar b with
      | 'x' => hexPiece 2 rest
      | 'u' => hexPiece 4 rest
      | 'U' => hexPiece 8 rest
      | 'N' => namePiece rest
      | c => .chars ['\\', c] 2 ()

def piece (_ : Unit) : Bytes → Piece Unit
  | 92 :: rest =>
    match rest with
    | [] => .incomplete
    | b :: rest => escaped b rest
  | b :: _ => .chars [byteChar b] 1 ()
  | [] => .incomplete

def rawPiece (_ : Unit) : Bytes → Piece Unit
  | 92 :: rest =>
    match rest with
    | [] => .chars ['\\'] 1 ()
    | b :: rest =>
      match byteChar b with
      | 'u' => hexPiece 4 rest
      | 'U' => hexPiece 8 rest
      | c => .chars ['\\', c] 2 ()
  | b :: _ => .chars [byteChar b] 1 ()
  | [] => .incomplete

def read (raw : Bool) (bytes : Bytes) : Except Fault Pieces :=
  readAll (if raw then rawPiece else piece) () .strict bytes

end Paygate.Charset.Escape
