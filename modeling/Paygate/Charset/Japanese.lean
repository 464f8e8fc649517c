import Paygate.Charset.Jis0208
import Paygate.Charset.Jis0212
import Paygate.Charset.Jis0213
import Paygate.Charset.Jis932
import Paygate.Charset.Piece

/-!
# Japanese charsets

Shift JIS packs the rows and cells of the Japanese sets around the bytes of half-width kana. EUC sets
the high bit of both bytes and has prefixes for half-width kana and for a second set. The sets are
those of JIS X 0208 with a supplement, or the two planes of JIS X 0213, of which there are two
editions.
-/

namespace Paygate.Charset.Japanese

/-! ## Half-width characters -/

def kana? (b : Nat) : Option Char :=
  if 0xA1 ≤ b && b ≤ 0xDF then some (Char.ofNat (0xFEC0 + b)) else none

/-- The Roman set: ASCII with a yen sign and an overline. -/
def roman (b : Nat) : Char :=
  if b = 0x5C then Char.ofNat 0xA5 else if b = 0x7E then Char.ofNat 0x203E else Char.ofNat b

/-! ## The planes of JIS X 0213 -/

/-- The edition of the year 2000 or 2004. -/
inductive Edition where
  | first
  | second
deriving DecidableEq, Repr

/-- Codes of the first plane that the first edition lacks. -/
def addedLater : List Nat :=
  [0x2E21, 0x2F7E, 0x4F54, 0x4F7E, 0x7427, 0x7E7A, 0x7E7B, 0x7E7C, 0x7E7D, 0x7E7E]

/-- The characters of a pair, or how many of its bytes make a gap. -/
abbrev PairText := Except Nat (List Char)

def PairText.ofOption : Option (List Char) → PairText
  | some text => .ok text
  | none => .error 1

def tildeCode : Nat := 0x2232

/-- A pair that was added later is a gap as a whole. -/
def firstPlane (edition : Edition) (code : Nat) : PairText :=
  if edition = .first && addedLater.contains code then .error 2
  else if code = tildeCode then .ok ['~']
  else
    match (jis0208.find? code).or (jis0213First.find? code) with
    | some c => .ok [c]
    | none => .ofOption ((jis0213Pairs.lookup code).map String.toList)

def secondPlane? (edition : Edition) (code : Nat) : Option Char :=
  if edition = .first && code = 0x7D3B then some (Char.ofNat 0x9B1D) else jis0213Second.find? code

/-! ## Shift JIS -/

def isLead (lead : Nat) : Bool := (0x81 ≤ lead && lead ≤ 0x9F) || (0xE0 ≤ lead && lead ≤ 0xFC)

def isTrail (trail : Nat) : Bool := 0x40 ≤ trail && trail ≤ 0xFC && trail ≠ 0x7F

/-- The number of a row and the cell of a pair, both from 0 on. -/
def rowAndCell (lead trail : Nat) : Nat × Nat :=
  let lead := if lead < 0xE0 then lead - 0x81 else lead - 0xC1
  let trail := if trail < 0x80 then trail - 0x40 else trail - 0x41
  (2 * lead + trail / 94, trail % 94)

def shiftCode (lead trail : Nat) : Nat :=
  let (row, cell) := rowAndCell lead trail
  (row + 0x21) * 256 + (cell + 0x21)

def shiftPair? (lead trail : Nat) : Option Char :=
  if isLead lead && isTrail trail then jis0208.find? (shiftCode lead trail) else none

/-- One byte, or a lead byte and another one. -/
def shiftPiece (single? : Nat → Option Char) (pair : Nat → Nat → PairText) (_ : Unit) :
    Bytes → Piece Unit
  | [] => .incomplete
  | a :: rest =>
    match single? a.toNat with
    | some c => .chars [c] 1 ()
    | none =>
      if !isLead a.toNat then .illegal 1
      else
        match rest with
        | [] => .incomplete
        | b :: _ =>
          match pair a.toNat b.toNat with
          | .ok text => .chars text 2 ()
          | .error size => .illegal size

def shiftSingle? (b : Nat) : Option Char := if b < 0x80 then some (Char.ofNat b) else kana? b

def shiftJisPiece : Unit → Bytes → Piece Unit :=
  shiftPiece shiftSingle? fun lead trail => .ofOption ((shiftPair? lead trail).map ([·]))

/-- Single bytes of the Windows edition, some of which are for private use. -/
def windowsSingle? (b : Nat) : Option Char :=
  if b ≤ 0x80 then some (Char.ofNat b)
  else if b = 0xA0 then some (Char.ofNat 0xF8F0)
  else if b ≥ 0xFD then some (Char.ofNat (0xF8F1 + (b - 0xFD)))
  else kana? b

/-- Pairs for private use. -/
def private? (lead trail : Nat) : Option Char :=
  if 0xF0 ≤ lead && lead ≤ 0xF9 && isTrail trail then
    some (Char.ofNat (0xE000 + 188 * (lead - 0xF0) +
      (if trail < 0x80 then trail - 0x40 else trail - 0x41)))
  else none

def windowsPair? (lead trail : Nat) : Option Char :=
  (shiftJisWindowsTable.find? (lead * 256 + trail)).or
    (if lead ≤ 0xEA then shiftPair? lead trail else private? lead trail)

def windowsPiece : Unit → Bytes → Piece Unit :=
  shiftPiece windowsSingle? fun lead trail => .ofOption ((windowsPair? lead trail).map ([·]))

/-- The row of the second plane that a row number above 93 stands for. -/
def secondRow (row : Nat) : Nat :=
  if row ≥ 0x67 then row + 0x07
  else if row ≥ 0x63 || row = 0x5F then row - 0x37
  else row - 0x3D

/-- The backslash, which Shift JIS has among the pairs instead of a wide one. -/
def backslashCode : Nat := 0x2140

def planesPair (edition : Edition) (lead trail : Nat) : PairText :=
  if isTrail trail then
    let (row, cell) := rowAndCell lead trail
    let code := (row + 0x21) * 256 + (cell + 0x21)
    if code = backslashCode then .ok ['\\']
    else if row < 0x5E then firstPlane edition code
    else .ofOption ((secondPlane? edition (secondRow row * 256 + (cell + 0x21))).map ([·]))
  else .error 1

def romanSingle? (b : Nat) : Option Char := if b < 0x80 then some (roman b) else kana? b

def shiftPlanesPiece (edition : Edition) : Unit → Bytes → Piece Unit :=
  shiftPiece romanSingle? (planesPair edition)

/-! ## EUC -/

/-- The code of two bytes with the high bit. -/
def highCode? (a b : UInt8) : Option Nat :=
  if a ≥ 128 && b ≥ 128 then some ((a.toNat - 128) * 256 + (b.toNat - 128)) else none

/-- ASCII, kana behind 0x8E, a second set behind 0x8F, and pairs of the first set. -/
def eucSets (first : Nat → PairText) (second? : Nat → Option Char) (_ : Unit) :
    Bytes → Piece Unit
  | [] => .incomplete
  | a :: rest =>
    if a < 128 then .chars [byteChar a] 1 ()
    else if a = 0x8F then
      match rest with
      | b :: c :: _ => orIllegal () 3 1 ((highCode? b c).bind second?)
      | _ => .incomplete
    else
      match rest with
      | [] => .incomplete
      | b :: _ =>
        if a = 0x8E then orIllegal () 2 1 (kana? b.toNat)
        else
          match (highCode? a b).map first with
          | some (.ok text) => .chars text 2 ()
          | some (.error size) => .illegal size
          | none => .illegal 1

def eucPiece : Unit → Bytes → Piece Unit :=
  eucSets (fun code => .ofOption ((jis0208.find? code).map ([·]))) jis0212.find?

/-- The first plane with a wide tilde. -/
def widePlane (edition : Edition) (code : Nat) : PairText :=
  if code = tildeCode then .ok [Char.ofNat 0xFF5E] else firstPlane edition code

def eucPlanesPiece (edition : Edition) : Unit → Bytes → Piece Unit :=
  eucSets (widePlane edition) fun code => (secondPlane? edition code).or (jis0212.find? code)

end Paygate.Charset.Japanese
