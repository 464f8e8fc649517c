import Paygate.Text.Utf8

/-!
# Character encodings

How bytes are read as Unicode text: UTF-8, and the sixteen and thirty-two bit forms in either order
of bytes. Each reader gives the pieces of the text in order, a piece that has no character as
`none`.
-/

namespace Paygate

inductive ByteOrder where
  | big
  | little
deriving DecidableEq, Repr

inductive Encoding where
  | utf8
  | utf16 (order : ByteOrder)
  | utf32 (order : ByteOrder)
deriving DecidableEq, Repr

namespace Encoding

def isHighSurrogate (n : Nat) : Bool := 0xD800 ≤ n && n < 0xDC00

def isLowSurrogate (n : Nat) : Bool := 0xDC00 ≤ n && n < 0xE000

def isSurrogate (n : Nat) : Bool := 0xD800 ≤ n && n < 0xE000

/-- The code point of a pair of surrogates. -/
def joinSurrogates (high low : Nat) : Nat := 0x10000 + (high - 0xD800) * 0x400 + (low - 0xDC00)

/-- The character of a code point, if it has one. -/
def scalar? (n : Nat) : Option Char :=
  if isSurrogate n || n > 0x10FFFF then none else some (Char.ofNat n)

/-- Numbers of two bytes each; a byte that is left over is no number. -/
def units16 (order : ByteOrder) : Bytes → List (Option Nat)
  | a :: b :: rest =>
    some (if order = .big then a.toNat * 256 + b.toNat else b.toNat * 256 + a.toNat) ::
      units16 order rest
  | [_] => [none]
  | [] => []

def units32 (order : ByteOrder) : Bytes → List (Option Nat)
  | a :: b :: c :: d :: rest =>
    some (if order = .big then Bytes.toNat [a, b, c, d] else Bytes.toNat [d, c, b, a]) ::
      units32 order rest
  | [] => []
  | _ => [none]

/-- The characters of units. A high surrogate before the byte that is left over is one gap with
it. -/
def pairUp : List (Option Nat) → List (Option Char)
  | some high :: some low :: rest =>
    if isHighSurrogate high && isLowSurrogate low then scalar? (joinSurrogates high low) :: pairUp rest
    else scalar? high :: pairUp (some low :: rest)
  | [some n, none] => if isHighSurrogate n then [none] else [scalar? n, none]
  | some n :: rest => scalar? n :: pairUp rest
  | none :: rest => none :: pairUp rest
  | [] => []

def pieces (encoding : Encoding) (bytes : Bytes) : List (Option Char) :=
  match encoding with
  | utf8 => Utf8.pieces bytes
  | utf16 order => pairUp (units16 order bytes)
  | utf32 order => (units32 order bytes).map (·.bind scalar?)

def decodeLossy (encoding : Encoding) (bytes : Bytes) : List Char :=
  (encoding.pieces bytes).map (·.getD Utf8.replacement)

def decode? (encoding : Encoding) (bytes : Bytes) : Option (List Char) :=
  (encoding.pieces bytes).mapM id

/-! ## Code points -/

/-- The code point of a surrogate that is written as a character of three bytes. -/
def surrogate8? : Bytes → Option Nat
  | 0xED :: b :: c :: _ =>
    if 0xA0 ≤ b && b ≤ 0xBF && 0x80 ≤ c && c ≤ 0xBF then
      some (0xD000 + (b.toNat - 0x80) * 64 + (c.toNat - 0x80))
    else none
  | _ => none

/-- The code points of UTF-8 in which a surrogate may stand too; `done` is in reverse. -/
def codes8? : (fuel : Nat) → (done : List Nat) → Bytes → Option (List Nat)
  | 0, _, _ => none
  | _ + 1, done, [] => some done.reverse
  | fuel + 1, done, b :: rest =>
    match Utf8.next b rest with
    | (some c, rest) => codes8? fuel (c.toNat :: done) rest
    | (none, _) => (surrogate8? (b :: rest)).bind fun n => codes8? fuel (n :: done) (rest.drop 2)

/-- Units with pairs of surrogates put together. -/
def joinPairs : List Nat → List Nat
  | high :: low :: rest =>
    if isHighSurrogate high && isLowSurrogate low then joinSurrogates high low :: joinPairs rest
    else high :: joinPairs (low :: rest)
  | units => units

/-- The code points of a text in which surrogates without partner may stand. -/
def codes? (encoding : Encoding) (bytes : Bytes) : Option (List Nat) :=
  match encoding with
  | utf8 => codes8? (bytes.length + 1) [] bytes
  | utf16 order => ((units16 order bytes).mapM id).map joinPairs
  | utf32 order =>
    ((units32 order bytes).mapM id).bind fun codes =>
      if codes.all (· ≤ 0x10FFFF) then some codes else none

/-- The encoding that a mark at the start names, and the bytes after the mark. -/
def ofMark? : Bytes → Option (Encoding × Bytes)
  | 0x00 :: 0x00 :: 0xFE :: 0xFF :: rest => some (.utf32 .big, rest)
  | 0xFF :: 0xFE :: 0x00 :: 0x00 :: rest => some (.utf32 .little, rest)
  | 0xFE :: 0xFF :: rest => some (.utf16 .big, rest)
  | 0xFF :: 0xFE :: rest => some (.utf16 .little, rest)
  | 0xEF :: 0xBB :: 0xBF :: rest => some (.utf8, rest)
  | _ => none

/-- The encoding of a text that starts with two ASCII characters, told by where its zero bytes
are. -/
def ofZeros : Bytes → Encoding
  | [a, b] => if a = 0 then .utf16 .big else if b = 0 then .utf16 .little else .utf8
  | a :: b :: c :: d :: _ =>
    if a = 0 then (if b = 0 then .utf32 .big else .utf16 .big)
    else if b = 0 then (if c = 0 && d = 0 then .utf32 .little else .utf16 .little)
    else .utf8
  | _ => .utf8

/-- The encoding that a document is in and its bytes without a mark. -/
def detect (bytes : Bytes) : Encoding × Bytes :=
  (ofMark? bytes).getD (ofZeros bytes, bytes)

end Encoding

end Paygate
