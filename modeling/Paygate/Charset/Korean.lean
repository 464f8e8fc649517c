import Paygate.Charset.KsX1001
import Paygate.Charset.Piece

/-!
# Korean charsets

Syllables consist of a first consonant, a vowel and a last consonant or none. KS X 1001 has 2350 of
the 11172 syllables. One of its charsets writes the others in eight bytes, from their letters; one
has two bytes for each of them, in order; and one writes every syllable by the numbers of its
letters.
-/

namespace Paygate.Charset.Korean

/-- A syllable from the numbers of its letters. The last one is 0 if there is none. -/
def syllable (first vowel last : Nat) : Char := Char.ofNat (0xAC00 + first * 588 + vowel * 28 + last)

/-! ## Syllables from letters -/

/-- First consonants among the letters from 0xA1 on; 99 for a letter that is none. -/
def firstLetters : List Nat :=
  [0, 1, 99, 2, 99, 99, 3, 4, 5, 99, 99, 99, 99, 99, 99, 99, 6, 7, 8, 99, 9, 10, 11, 12, 13, 14,
   15, 16, 17, 18]

/-- Last consonants among the letters from 0xA1 on; 99 for a letter that is none. -/
def lastLetters : List Nat :=
  [1, 2, 3, 4, 5, 6, 7, 99, 8, 9, 10, 11, 12, 13, 14, 15, 16, 17, 99, 18, 19, 20, 21, 22, 99, 23,
   24, 25, 26, 27]

def letter? (letters : List Nat) (b : UInt8) : Option Nat :=
  if b < 0xA1 then none
  else (letters[b.toNat - 0xA1]?).bind fun n => if n = 99 then none else some n

def vowel? (b : UInt8) : Option Nat :=
  if 0xBF ≤ b && b ≤ 0xD3 then some (b.toNat - 0xBF) else none

/-- The byte before a letter, and the letter that stands for none. -/
def letterMark : UInt8 := 0xA4

def filler : UInt8 := 0xD4

/-- A syllable of three letters. -/
def composed? (first vowel last : UInt8) : Option Char := do
  let first ← letter? firstLetters first
  let vowel ← vowel? vowel
  let last ← if last = filler then some 0 else letter? lastLetters last
  pure (syllable first vowel last)

def eucPiece (_ : Unit) : Bytes → Piece Unit
  | a :: b :: rest =>
    if a = letterMark && b = filler then
      match rest with
      | m :: first :: n :: vowel :: o :: last :: _ =>
        if m = letterMark && n = letterMark && o = letterMark then
          orIllegal () 8 1 (composed? first vowel last)
        else .illegal 1
      | _ => .incomplete
    else pairPiece (highPair? ksX1001) () (a :: b :: rest)
  | bytes => pairPiece (highPair? ksX1001) () bytes

/-! ## Syllables in order -/

/-- The syllables of KS X 1001, in order. -/
def standardSyllables : List Nat :=
  (ksX1001.flatMap fun (_, run) => run.toList.map Char.toNat).filter fun n =>
    0xAC00 ≤ n && n ≤ 0xD7A3

/-- The code points from `next` on, `count` of them, without those of an increasing list. -/
def without : (count next : Nat) → List Nat → List Nat
  | 0, _, _ => []
  | count + 1, next, skipped =>
    match skipped with
    | n :: rest => if n = next then without count (next + 1) rest else next :: without count (next + 1) skipped
    | [] => next :: without count (next + 1) []

/-- The syllables that KS X 1001 lacks, in order. -/
def furtherSyllables : Array Nat := (without 11172 0xAC00 standardSyllables).toArray

/-- The place of a second byte: letters of either case, and all from 0x81 on. -/
def column? (trail : Nat) : Option Nat :=
  if 0x41 ≤ trail && trail ≤ 0x5A then some (trail - 0x41)
  else if 0x61 ≤ trail && trail ≤ 0x7A then some (trail - 0x61 + 26)
  else if 0x81 ≤ trail && trail ≤ 0xFE then some (trail - 0x81 + 52)
  else none

/-- The number of a further syllable: rows of 178 up to 0xA0, then rows of 84. -/
def furtherNumber? (lead trail : Nat) : Option Nat :=
  (column? trail).bind fun column =>
    if 0x81 ≤ lead && lead ≤ 0xA0 then some ((lead - 0x81) * 178 + column)
    else if 0xA1 ≤ lead && lead ≤ 0xC6 && column < 84 then
      some (32 * 178 + (lead - 0xA1) * 84 + column)
    else none

def unified? (lead trail : Nat) : Option Char :=
  (highPair? ksX1001 lead trail).or
    (((furtherNumber? lead trail).bind fun n => furtherSyllables[n]?).map Char.ofNat)

/-! ## Syllables from numbers -/

/-- A place for a letter: a letter with the code point of its own sign, no letter, or nothing. -/
inductive Slot where
  | letter (number sign : Nat)
  | empty
  | invalid

def slot (numbers signs : List Nat) (emptyAt n : Nat) : Slot :=
  if n = emptyAt then .empty
  else
    match numbers.findIdx? (· = n) with
    | some i => .letter i (signs.getD i 0)
    | none => .invalid

def firstSlot (n : Nat) : Slot :=
  slot ((List.range 19).map (· + 2))
    [0x3131, 0x3132, 0x3134, 0x3137, 0x3138, 0x3139, 0x3141, 0x3142, 0x3143, 0x3145, 0x3146, 0x3147,
     0x3148, 0x3149, 0x314A, 0x314B, 0x314C, 0x314D, 0x314E] 1 n

def vowelSlot (n : Nat) : Slot :=
  slot [3, 4, 5, 6, 7, 10, 11, 12, 13, 14, 15, 18, 19, 20, 21, 22, 23, 26, 27, 28, 29]
    ((List.range 21).map (· + 0x314F)) 2 n

def lastSlot (n : Nat) : Slot :=
  slot [2, 3, 4, 5, 6, 7, 8, 9, 10, 11, 12, 13, 14, 15, 16, 17, 19, 20, 21, 22, 23, 24, 25, 26, 27,
      28, 29]
    [0x3131, 0x3132, 0x3133, 0x3134, 0x3135, 0x3136, 0x3137, 0x3139, 0x313A, 0x313B, 0x313C, 0x313D,
     0x313E, 0x313F, 0x3140, 0x3141, 0x3142, 0x3144, 0x3145, 0x3146, 0x3147, 0x3148, 0x314A, 0x314B,
     0x314C, 0x314D, 0x314E] 1 n

/-- A syllable, or a letter that stands alone. -/
def assembled? : Slot → Slot → Slot → Option Char
  | .letter first _, .letter vowel _, .letter last _ => some (syllable first vowel (last + 1))
  | .letter first _, .letter vowel _, .empty => some (syllable first vowel 0)
  | .letter _ sign, .empty, .empty => some (Char.ofNat sign)
  | .empty, .letter _ sign, .empty => some (Char.ofNat sign)
  | .empty, .empty, .letter _ sign => some (Char.ofNat sign)
  | .empty, .empty, .empty => some (Char.ofNat 0x3000)
  | _, _, _ => none

/-- The row and cell of a sign of KS X 1001 that is no syllable. -/
def signCode? (lead trail : Nat) : Option Nat :=
  if lead = 0xDF || lead > 0xF9 || trail < 0x31 || (0x80 ≤ trail && trail < 0x91) ||
      trail % 128 = 0x7F || (lead = 0xDA && 0xA1 ≤ trail && trail ≤ 0xD3) then none
  else
    let row := if lead < 0xE0 then 2 * (lead - 0xD9) else 2 * lead - 0x197
    let cell := if trail < 0x91 then trail - 0x31 else trail - 0x43
    some ((row + (if cell < 94 then 0 else 1) + 0x21) * 256 + (cell % 94 + 0x21))

def johab? (lead trail : Nat) : Option Char :=
  if lead < 0xD8 then
    assembled? (firstSlot (lead / 4 % 32)) (vowelSlot (lead % 4 * 8 + trail / 32))
      (lastSlot (trail % 32))
  else if lead = 0xD8 then none
  else (signCode? lead trail).bind ksX1001.find?

end Paygate.Charset.Korean
