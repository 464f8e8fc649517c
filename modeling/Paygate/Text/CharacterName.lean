import Paygate.Bytes.Hex
import Paygate.Text.NameTable

/-!
# Names of characters

`ofName?` finds the character of a name. The names of syllables are put together from those of their
letters, and the names of ideographs end in their codes. All other names stand in tables, and for these
capital and small letters are the same.
-/

namespace Paygate.Text

namespace NameTable

/-- The abbreviated words in their order. -/
def wordRow : Array String := (words.toList.splitOnP Char.isWhitespace |>.map String.ofList).toArray

/-- The word that two small letters stand for. -/
def abbreviated (a b : Char) : String := wordRow.getD ((a.toNat - 97) * 26 + (b.toNat - 97)) ""

/-- The words that a text has; `done` and the letters of an unfinished word are in reverse. -/
def readWords : (done : List String) → (letters : List Char) → List Char → List String
  | done, [], [] => done.reverse
  | done, letters, [] => (String.ofList letters.reverse :: done).reverse
  | done, letters, [c] => readWords done (c :: letters) []
  | done, letters, a :: b :: rest =>
    if a = ' ' then readWords (String.ofList letters.reverse :: done) [] (b :: rest)
    else if a.isLower then readWords (abbreviated a b :: done) [] rest
    else readWords done (a :: letters) (b :: rest)

/-- The names of a table with their codes. `previous` is the name before. -/
def readNames : (code : Nat) → (previous : List String) → List (List Char) →
    List (List String × Nat)
  | _, _, [] => []
  | code, previous, [] :: rest => readNames code previous rest
  | code, previous, (mark :: text) :: rest =>
    if mark = '=' then readNames ((Hex.number? text).getD code) previous rest
    else
      let name := previous.take (mark.toNat - 48) ++ readWords [] [] text
      (name, code) :: readNames (code + 1) name rest

def read (table : String) : List (List String × Nat) :=
  readNames 0 [] (table.toList.splitOnP fun c => c = ';' || c = '\n')

end NameTable

/-- The letters of a syllable: those it can begin with, its vowels, and those it can end with. -/
def leadNames : List String :=
  ["G", "GG", "N", "D", "DD", "R", "M", "B", "BB", "S", "SS", "", "J", "JJ", "C", "K", "T", "P", "H"]

def vowelNames : List String :=
  ["A", "AE", "YA", "YAE", "EO", "E", "YEO", "YE", "O", "WA", "WAE", "OE", "YO", "U", "WEO", "WE", "WI",
   "YU", "EU", "YI", "I"]

def tailNames : List String :=
  ["", "G", "GG", "GS", "N", "NJ", "NH", "D", "L", "LG", "LM", "LB", "LS", "LT", "LP", "LH", "M", "B",
   "BS", "S", "SS", "NG", "J", "C", "K", "T", "P", "H"]

def isVowelLetter (c : Char) : Bool := "AEIOUWY".toList.contains c

/-- The code of the syllable whose letters have these names together. -/
def syllable? (name : List Char) : Option Nat := do
  let (lead, rest) := name.span (!isVowelLetter ·)
  let (vowel, tail) := rest.span isVowelLetter
  let lead ← leadNames.idxOf? (String.ofList lead)
  let vowel ← vowelNames.idxOf? (String.ofList vowel)
  let tail ← tailNames.idxOf? (String.ofList tail)
  pure (0xAC00 + (lead * 21 + vowel) * 28 + tail)

/-- The first and the last codes of the rows of ideographs. -/
def ideographs : List (Nat × Nat) :=
  [(0x3400, 0x4DBF), (0x4E00, 0x9FFF), (0x20000, 0x2A6DF), (0x2A700, 0x2B738), (0x2B740, 0x2B81D),
   (0x2B820, 0x2CEA1), (0x2CEB0, 0x2EBE0), (0x30000, 0x3134A)]

/-- The code that four or five capital hexadecimal digits write, if it is that of an ideograph. -/
def ideograph? (digits : List Char) : Option Nat :=
  if (digits.length = 4 || digits.length = 5) && digits.all (!·.isLower) then
    (Hex.number? digits).filter fun code => ideographs.any fun (first, last) => first ≤ code && code ≤ last
  else none

/-- A name and the first and the last codes of its characters. Behind the name stands the code. -/
def codedRows : List (String × Nat × Nat) :=
  [("CJK COMPATIBILITY IDEOGRAPH-", 0xF900, 0xFA6D), ("CJK COMPATIBILITY IDEOGRAPH-", 0xFA70, 0xFAD9),
   ("CJK COMPATIBILITY IDEOGRAPH-", 0x2F800, 0x2FA1D),
   ("KHITAN SMALL SCRIPT CHARACTER-", 0x18B00, 0x18CD5), ("NUSHU CHARACTER-", 0x1B170, 0x1B2FB)]

/-- A name, the number of its first character, and the first and the last codes. Behind the name stands the
number. -/
def countedRows : List (String × Nat × Nat × Nat) :=
  [("VS", 1, 0xFE00, 0xFE0F), ("VS", 17, 0xE0100, 0xE01EF)]

/-- The codes from the first to the last. -/
def codes (first last : Nat) : List Nat := (List.range (last + 1 - first)).map (first + ·)

/-- The code of a name in capital letters that stands in a row or in a table. -/
def listed? (name : String) : Option Nat :=
  let coded := codedRows.flatMap fun (start, first, last) =>
    (codes first last).map fun code =>
      (start ++ String.ofList ((Hex.padded 4 code).map Char.toUpper), code)
  let counted := countedRows.flatMap fun (start, number, first, last) =>
    (codes first last).map fun code => (start ++ toString (number + code - first), code)
  let words := (name.toList.splitOn ' ').map String.ofList
  ((coded ++ counted).lookup name).orElse fun _ =>
    (NameTable.read NameTable.names ++ NameTable.read NameTable.aliases).lookup words

/-- What stands behind `start` in a text, if it begins so. -/
def behind? (start : String) (text : List Char) : Option (List Char) :=
  if start.toList.isPrefixOf text then some (text.drop start.toList.length) else none

/-- The character of a name. -/
def ofName? (name : List Char) : Option Char :=
  let code? :=
    match behind? "HANGUL SYLLABLE " name, behind? "CJK UNIFIED IDEOGRAPH-" name with
    | some rest, _ => syllable? rest
    | none, some rest => ideograph? rest
    | none, none => listed? (String.ofList (name.map Char.toUpper))
  code?.map Char.ofNat

end Paygate.Text
