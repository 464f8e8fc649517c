import Paygate.Charset.Gb2312
import Paygate.Charset.Japanese
import Paygate.Charset.KsX1001

/-!
# Charsets of ISO 2022

Bytes below 128 are read in the set of characters that was called last. An escape sequence calls a
set, in one of three places: the first is in use, the second after a shift, the third for one
character behind an escape of its own. Each charset has its list of sets. Other escape sequences
stand for themselves, character by character up to the letter that ends them.
-/

namespace Paygate.Charset.Iso2022

/-- A set of characters that can be called. -/
inductive CodedSet where
  | ascii
  | roman
  | kana
  | latin
  | greek
  | jis0208
  | jis0212
  | ksX1001
  | gb2312
  | firstPlane (edition : Japanese.Edition)
  | secondPlane
deriving DecidableEq, Repr

namespace CodedSet

/-- How many bytes a character has. -/
def width : CodedSet → Nat
  | ascii | roman | kana | latin | greek => 1
  | _ => 2

/-- The character of a code. The Latin and the Greek set have only characters of the third place. -/
def decode? (set : CodedSet) (code : Nat) : Option (List Char) :=
  match set with
  | ascii => some [Char.ofNat code]
  | roman => some [Japanese.roman code]
  | kana => (Japanese.kana? (code + 128)).map ([·])
  | latin | greek => none
  | jis0208 => (Charset.jis0208.find? code).map ([·])
  | jis0212 => (Charset.jis0212.find? code).map ([·])
  | ksX1001 => (Charset.ksX1001.find? code).map ([·])
  | gb2312 => (gb2312Table.find? code).map ([·])
  | firstPlane edition => (Japanese.firstPlane edition code).toOption
  | secondPlane => (Charset.jis0213Second.find? code).map ([·])

end CodedSet

/-- What an escape sequence names a set by: the letter at its end, and whether characters have two
bytes. -/
structure Mark where
  letter : Char
  double : Bool := false
deriving DecidableEq, Repr

def asciiMark : Mark := ⟨'B', false⟩

/-- A charset: its sets besides ASCII, and which of the places there are. -/
structure Plan where
  sets : List (Mark × CodedSet)
  hasShift : Bool := false
  hasThird : Bool := false
  /-- Whether an escape sequence may announce a revision of JIS X 0208. -/
  hasRevision : Bool := true

/-- The sets in the three places; whether the second is in use; whether an escape sequence is passed
over. -/
structure Places where
  first : Mark := asciiMark
  second : Mark := asciiMark
  third : Mark := asciiMark
  shifted : Bool := false
  passing : Bool := false
deriving DecidableEq, Repr

def escape : UInt8 := 27

/-- Whether a byte ends an escape sequence. -/
def endsEscape (b : UInt8) : Bool := 64 ≤ b && b ≤ 90

/-- Whether a byte behind an escape begins the call of a set. -/
def callsSet (b : UInt8) : Bool := [40, 41, 36, 46, 38].contains b

/-- The longest call of a set. -/
def callLimit : Nat := 16

/-- The length of the call of a set that begins with an escape: 0 if it has no end. `index` is the
place that is looked at, `rest` the bytes from there on; `none` says that bytes are missing. -/
def callLength (plan : Plan) : (fuel : Nat) → (index : Nat) → (rest : Bytes) → Option Nat
  | 0, _, _ => some 0
  | fuel + 1, index, rest =>
    if index ≥ callLimit then some 0
    else
      match rest with
      | [] => none
      | b :: after =>
        if endsEscape b then some (index + 1)
        else if plan.hasRevision && b = 38 && after.head? = some 64 then
          callLength plan fuel (index + 3) (after.drop 2)
        else callLength plan fuel (index + 1) after

/-- The place and the mark that the bytes of a call behind its escape name. -/
def called? (plan : Plan) (call : Bytes) : Option (Nat × Mark) :=
  match call.map byteChar with
  | ['$', c] => some (0, ⟨c, true⟩)
  | ['(', c] => some (0, ⟨c, false⟩)
  | [')', c] => some (1, ⟨c, false⟩)
  | ['.', c] => if plan.hasThird then some (2, ⟨c, false⟩) else none
  | ['$', '(', c] => some (0, ⟨c, true⟩)
  | ['$', ')', c] => some (1, ⟨c, true⟩)
  | ['&', '@', '\x1b', '$', 'B'] => if plan.hasRevision then some (0, ⟨'B', true⟩) else none
  | _ => none

def Plan.set? (plan : Plan) (mark : Mark) : Option CodedSet :=
  if mark = asciiMark then some .ascii else plan.sets.lookup mark

/-- Call a set. `rest` stands behind the escape. -/
def call (plan : Plan) (places : Places) (rest : Bytes) : Piece Places :=
  match callLength plan callLimit 1 rest with
  | none => .incomplete
  | some 0 => .illegal 1
  | some length =>
    match called? plan (rest.take (length - 1)) with
    | none => .illegal length
    | some (place, mark) =>
      if (plan.set? mark).isNone then .illegal length
      else
        .chars [] length
          (match place with
            | 0 => { places with first := mark }
            | 1 => { places with second := mark }
            | _ => { places with third := mark })

/-- The characters of the Greek set in the upper half. -/
def greek? (code : Nat) : Option Char :=
  if code < 0xA0 then some (Char.ofNat code)
  else if code < 0xC0 && (0x288F3BC9 : Nat).testBit (code - 0xA0) then some (Char.ofNat code)
  else if 0xB4 ≤ code && code ≤ 0xFE && (code ≥ 0xD4 || (0xBFFFFD77 : Nat).testBit (code - 0xB4)) then
    some (Char.ofNat (0x2D0 + code))
  else if code = 0xA1 then some (Char.ofNat 0x2018)
  else if code = 0xA2 then some (Char.ofNat 0x2019)
  else if code = 0xAF then some (Char.ofNat 0x2015)
  else none

/-- One character of the set in the third place, behind two bytes. -/
def third (places : Places) (b : UInt8) : Piece Places :=
  let n := b.toNat
  match places.third with
  | ⟨'A', false⟩ => orIllegal places 3 3 (if n < 128 then some (Char.ofNat (n + 128)) else none)
  | ⟨'F', false⟩ => orIllegal places 3 3 (greek? (if n < 128 then n + 128 else n - 128))
  | ⟨'B', false⟩ => orIllegal places 3 3 (if n < 128 then some (Char.ofNat n) else none)
  | _ => .fault .missingSet

/-- What begins with an escape; `rest` stands behind it. -/
def escaped (plan : Plan) (places : Places) (rest : Bytes) : Piece Places :=
  match rest with
  | [] => .incomplete
  | b :: after =>
    if callsSet b then call plan places rest
    else if plan.hasThird && b = 78 then
      match after with
      | [] => .incomplete
      | c :: _ => third places c
    else .chars ['\x1b'] 1 { places with passing := true }

/-- A byte in the set that is in use. -/
def inUse (plan : Plan) (places : Places) (a : UInt8) (rest : Bytes) : Piece Places :=
  let mark := if places.shifted then places.second else places.first
  match plan.set? mark with
  | none => .chars [byteChar a] 1 places
  | some set =>
    if set.width = 1 then
      match set.decode? a.toNat with
      | some text => .chars text 1 places
      | none => .illegal 1
    else
      match rest with
      | [] => .incomplete
      | b :: _ =>
        match set.decode? (a.toNat * 256 + b.toNat) with
        | some text => .chars text 2 places
        | none => .illegal 2

def piece (plan : Plan) (places : Places) : Bytes → Piece Places
  | [] => .incomplete
  | a :: rest =>
    if places.passing then
      .chars [byteChar a] 1 { places with passing := !endsEscape a }
    else if a = escape then escaped plan places rest
    else if a = 15 && plan.hasShift then .chars [] 1 { places with shifted := false }
    else if a = 14 && plan.hasShift then .chars [] 1 { places with shifted := true }
    else if a = 10 then .chars ['\n'] 1 { places with shifted := false }
    else if a < 32 then .chars [byteChar a] 1 places
    else if a ≥ 128 then .illegal 1
    else inUse plan places a rest

/-! ## The charsets -/

def romanMark : Mark × CodedSet := (⟨'J', false⟩, .roman)

def kanjiMark : Mark × CodedSet := (⟨'B', true⟩, .jis0208)

def olderKanjiMark : Mark × CodedSet := (⟨'@', true⟩, .jis0208)

def supplementMark : Mark × CodedSet := (⟨'D', true⟩, .jis0212)

def koreanMark : Mark × CodedSet := (⟨'C', true⟩, .ksX1001)

def korean : Plan := { sets := [koreanMark], hasShift := true, hasRevision := false }

def japanese : Plan := { sets := [kanjiMark, romanMark, olderKanjiMark] }

def japanese1 : Plan := { sets := [kanjiMark, supplementMark, romanMark, olderKanjiMark] }

def japanese2 : Plan where
  sets := [kanjiMark, supplementMark, koreanMark, (⟨'A', true⟩, .gb2312), romanMark, olderKanjiMark,
    (⟨'A', false⟩, .latin), (⟨'F', false⟩, .greek)]
  hasThird := true

def japanese3 : Plan where
  sets := [kanjiMark, (⟨'O', true⟩, .firstPlane .first), (⟨'P', true⟩, .secondPlane)]

def japanese2004 : Plan where
  sets := [kanjiMark, (⟨'Q', true⟩, .firstPlane .second), (⟨'P', true⟩, .secondPlane)]

def japaneseExtended : Plan where
  sets := [kanjiMark, supplementMark, romanMark, (⟨'I', false⟩, .kana), olderKanjiMark]

end Paygate.Charset.Iso2022
