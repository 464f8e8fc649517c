import Paygate.Charset.Chinese
import Paygate.Charset.Dos
import Paygate.Charset.Ebcdic
import Paygate.Charset.Escape
import Paygate.Charset.Iso2022
import Paygate.Charset.Iso8859
import Paygate.Charset.Koi8
import Paygate.Charset.Korean
import Paygate.Charset.Macintosh
import Paygate.Charset.Utf7
import Paygate.Charset.Windows
import Paygate.Url.Punycode

/-!
# Charsets

A charset says which text bytes stand for. A strict reader has no text for bytes that are not in the
charset; a lenient one fills the gaps with U+FFFD. Some names that stand among those of charsets are
those of other codings, which have no text of bytes at all.
-/

namespace Paygate

inductive Charset where
  | utf7
  | utf8
  /-- UTF-8 with a mark at its start. -/
  | utf8Marked
  /-- Units of sixteen bits; without an order of bytes a mark tells it. -/
  | utf16 (order : Option ByteOrder)
  | utf32 (order : Option ByteOrder)
  | latin1
  | ascii
  /-- ASCII, and a table of the bytes from 128 on. -/
  | upper (table : String)
  /-- A table of all bytes. -/
  | whole (table : String)
  | gb2312
  | gbk
  | gb18030
  | hz
  | big5
  | big5Windows
  | big5HongKong
  | eucKorean
  | unifiedKorean
  | johab
  | shiftJis
  | shiftJisWindows
  | shiftJisPlanes (edition : Charset.Japanese.Edition)
  | eucJapanese
  | eucPlanes (edition : Charset.Japanese.Edition)
  | iso2022 (plan : Charset.Iso2022.Plan)
  | escapes (raw : Bool)
  | punycode
  /-- Labels of hosts. -/
  | hostNames
  /-- The charset without any text. -/
  | undefined
  | bytesCoding
  | letterCoding

namespace Charset

/-! ## Marks -/

/-- The order of bytes that a mark of two or four bytes tells, and what follows it. -/
def orderMark? (width : Nat) (bytes : Bytes) : Option (ByteOrder × Bytes) :=
  match Encoding.ofMark? bytes with
  | some (.utf16 order, rest) => if width = 2 then some (order, rest) else none
  | some (.utf32 order, rest) =>
    if width = 4 then some (order, rest)
    else if order = .little then some (order, bytes.drop 2)
    else none
  | _ => none

/-- Units of two or four bytes. Bytes without a mark are read as little-endian, but a lenient reader
has no text of them unless they are fewer than one unit. -/
def readMarked (width : Nat) (encoding : ByteOrder → Encoding) (manner : Manner) (bytes : Bytes) :
    Except Fault Pieces :=
  match orderMark? width bytes with
  | some (order, rest) => .ok (.ofChars ((encoding order).pieces rest))
  | none =>
    if manner = .lenient && bytes.length ≥ width then .error .unreadable
    else .ok (.ofChars ((encoding .little).pieces bytes))

def utf8Mark : Bytes := [0xEF, 0xBB, 0xBF]

/-- UTF-8 without the mark. A lenient reader finds nothing in the start of a mark alone. -/
def readUtf8Marked (manner : Manner) (bytes : Bytes) : Pieces :=
  if utf8Mark.isPrefixOf bytes then .ofChars (Utf8.pieces (bytes.drop utf8Mark.length))
  else if manner = .lenient && bytes.isPrefixOf utf8Mark then []
  else .ofChars (Utf8.pieces bytes)

/-! ## Host names -/

/-- The bytes before and after the last hyphen. -/
def splitHyphen (bytes : Bytes) : Bytes × Bytes :=
  if bytes.contains 45 then
    let code := (bytes.reverse.takeWhile (· ≠ 45)).reverse
    (bytes.take (bytes.length - code.length - 1), code)
  else ([], bytes)

/-- The Punycode form of a text. A strict reader wants a form without faults; a lenient one keeps
what stands before the first. -/
def readPunycode (manner : Manner) (bytes : Bytes) : Except Fault Pieces :=
  let (basic, code) := splitHyphen bytes
  if code.any (128 ≤ ·) || (manner = .strict && basic.any (128 ≤ ·)) then .error .notAscii
  else
    let basic := basic.map fun b => if b < 128 then byteChar b else replacement
    let digits := code.map fun b => (byteChar b).toLower
    let (text, complete) :=
      Punycode.insertPrefix (digits.length + 1) (basic.map .char) 128 0 72 true digits
    if complete || manner = .lenient then .ok (text.map some) else .error .unreadable

/-- A label of a host. The Punycode form of one has no half of a surrogate pair. -/
def readLabel (label : Bytes) : Except Fault Pieces :=
  if "xn--".toUTF8.toList.isPrefixOf label then do
    let pieces ← readPunycode .strict (label.drop 4)
    if pieces.all fun piece => (piece.bind Point.char?).isSome then .ok pieces
    else .error .unreadable
  else .ok (.ofChars (label.map fun b => if b < 128 then some (byteChar b) else none))

/-- The labels of a host. -/
def readHost (manner : Manner) (bytes : Bytes) : Except Fault Pieces :=
  if manner = .lenient then .error .unreadable
  else ((bytes.splitOn 46).mapM readLabel).map (List.intercalate [some (.char '.')])

/-! ## All charsets -/

/-- The code points of bytes, with a gap for what is not in the charset. -/
def pieces (charset : Charset) (manner : Manner) (bytes : Bytes) : Except Fault Pieces :=
  match charset with
  | utf7 => .ok (Utf7.read bytes)
  | utf8 => .ok (.ofChars (Utf8.pieces bytes))
  | utf8Marked => .ok (readUtf8Marked manner bytes)
  | utf16 (some order) => .ok (.ofChars ((Encoding.utf16 order).pieces bytes))
  | utf16 none => readMarked 2 .utf16 manner bytes
  | utf32 (some order) => .ok (.ofChars ((Encoding.utf32 order).pieces bytes))
  | utf32 none => readMarked 4 .utf32 manner bytes
  | latin1 => .ok (.ofChars (bytes.map fun b => some (byteChar b)))
  | ascii => .ok (.ofChars (bytes.map fun b => if b < 128 then some (byteChar b) else none))
  | upper table =>
    .ok (.ofChars
      (bytes.map fun b => if b < 128 then some (byteChar b) else at? table (b.toNat - 128)))
  | whole table => .ok (.ofChars (bytes.map fun b => at? table b.toNat))
  | gb2312 => readAll (pairPiece (highPair? gb2312Table)) () manner bytes
  | gbk => readAll (pairPiece Chinese.gbk?) () manner bytes
  | gb18030 => readAll Chinese.gb18030Piece () manner bytes
  | hz => readAll Chinese.hzPiece false manner bytes
  | big5 => readAll (pairPiece Chinese.big5?) () manner bytes
  | big5Windows => readAll (pairPiece Chinese.windowsBig5?) () manner bytes
  | big5HongKong => readAll Chinese.hongKongPiece () manner bytes
  | eucKorean => readAll Korean.eucPiece () manner bytes
  | unifiedKorean => readAll (pairPiece Korean.unified?) () manner bytes
  | johab => readAll (pairPiece Korean.johab?) () manner bytes
  | shiftJis => readAll Japanese.shiftJisPiece () manner bytes
  | shiftJisWindows => readAll Japanese.windowsPiece () manner bytes
  | shiftJisPlanes edition => readAll (Japanese.shiftPlanesPiece edition) () manner bytes
  | eucJapanese => readAll Japanese.eucPiece () manner bytes
  | eucPlanes edition => readAll (Japanese.eucPlanesPiece edition) () manner bytes
  | iso2022 plan => readAll (Iso2022.piece plan) {} manner bytes
  | escapes raw => Escape.read raw bytes
  | punycode => readPunycode manner bytes
  | hostNames => readHost manner bytes
  | undefined => .error .unreadable
  | bytesCoding => .error .codesBytes
  | letterCoding => .error .codesLetters

/-- The text of bytes, with U+FFFD for what is not in the charset. -/
def decodeLossy (charset : Charset) (bytes : Bytes) : Except Fault Str :=
  (charset.pieces .lenient bytes).map fun pieces => .ofPoints (pieces.map (·.getD replacement))

/-- The text of bytes if they are in the charset. -/
def decode? (charset : Charset) (bytes : Bytes) : Except Fault (Option Str) :=
  match charset.pieces .strict bytes with
  | .ok pieces => .ok ((pieces.mapM id).map .ofPoints)
  | .error .unreadable => .error .unreadable
  | .error .missingSet => .error .missingSet
  | .error _ => .ok none

end Charset

end Paygate
