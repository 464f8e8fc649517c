import Paygate.Bytes.Basic
import Paygate.Charset.CodeTable
import Paygate.Text.Str

/-!
# Reading in pieces

Bytes are read from the front. Each piece of them gives code points, or is not in the charset, or is
the start of something that never comes. What is not in the charset is a gap. The whole of a start
that never comes is one gap.
-/

namespace Paygate.Charset

/-- Why bytes cannot be read at all. -/
inductive Fault where
  /-- No character is to be had from these bytes. -/
  | unreadable
  /-- A part that has to be ASCII is not. -/
  | notAscii
  /-- The name is that of a coding of bytes. -/
  | codesBytes
  /-- The name is that of a coding of letters. -/
  | codesLetters
  /-- The name holds a zero character. -/
  | zeroInName
  /-- A set of characters is called that is not there. -/
  | missingSet
deriving DecidableEq, Repr

def Fault.message : Fault → String
  | unreadable => "the bytes are not in the charset"
  | notAscii => "a part of the bytes is not ASCII"
  | codesBytes => "the name is that of a coding of bytes"
  | codesLetters => "the name is that of a coding of letters"
  | zeroInName => "the name holds a zero character"
  | missingSet => "a set of characters is missing"

/-- Whether a gap ends the reading of a text or is filled with U+FFFD. -/
inductive Manner where
  | strict
  | lenient
deriving DecidableEq, Repr

/-- Code points with gaps between them. -/
abbrev Pieces := List (Option Point)

def Pieces.ofChars (chars : List (Option Char)) : Pieces := chars.map (·.map .char)

/-- What stands at the front of bytes. -/
inductive Piece (σ : Type) where
  | chars (text : List Char) (size : Nat) (state : σ)
  | point (point : Point) (size : Nat) (state : σ)
  | illegal (size : Nat)
  | incomplete
  | fault (cause : Fault)

/-- The most bytes of an unfinished piece that a lenient reader keeps. -/
def pendingLimit : Nat := 8

variable {σ : Type}

/-- Read piece after piece; `done` is in reverse. -/
def readFrom (piece : σ → Bytes → Piece σ) (limited : Bool) : (fuel : Nat) → σ → (done : Pieces) →
    Bytes → Except Fault Pieces
  | 0, _, done, _ => .ok done.reverse
  | _ + 1, _, done, [] => .ok done.reverse
  | fuel + 1, state, done, bytes =>
    match piece state bytes with
    | .chars text size state =>
      readFrom piece limited fuel state ((text.map (some ∘ .char)).reverse ++ done) (bytes.drop size)
    | .point point size state =>
      readFrom piece limited fuel state (some point :: done) (bytes.drop size)
    | .illegal size => readFrom piece limited fuel state (none :: done) (bytes.drop size)
    | .incomplete =>
      if limited && bytes.length > pendingLimit then .error .unreadable
      else .ok (none :: done).reverse
    | .fault cause => .error cause

/-- Read all bytes in the given manner. -/
def readAll (piece : σ → Bytes → Piece σ) (start : σ) (manner : Manner) (bytes : Bytes) :
    Except Fault Pieces :=
  readFrom piece (manner = .lenient) (bytes.length + 1) start [] bytes

/-- The character of a byte that is ASCII or Latin. -/
def byteChar (b : UInt8) : Char := Char.ofNat b.toNat

/-- One character, if there is one, of a piece of the given size. -/
def orIllegal (state : σ) (size wrong : Nat) : Option Char → Piece σ
  | some c => .chars [c] size state
  | none => .illegal wrong

/-- ASCII bytes, and pairs that start with another byte. -/
def pairPiece (find? : (lead trail : Nat) → Option Char) (state : σ) : Bytes → Piece σ
  | [] => .incomplete
  | a :: rest =>
    if a < 128 then .chars [byteChar a] 1 state
    else
      match rest with
      | [] => .incomplete
      | b :: _ => orIllegal state 2 1 (find? a.toNat b.toNat)

/-- A code in a table of rows and cells from 0x21 on, with the high bit of both bytes set. -/
def highPair? (table : CodeTable) (lead trail : Nat) : Option Char :=
  if lead ≥ 128 && trail ≥ 128 then table.find? ((lead - 128) * 256 + (trail - 128)) else none

end Paygate.Charset
