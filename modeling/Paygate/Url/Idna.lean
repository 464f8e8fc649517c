import Paygate.Text.Direction
import Paygate.Text.Joining
import Paygate.Text.Quoted
import Paygate.Url.HostLetter
import Paygate.Url.Punycode

/-!
# Hosts outside ASCII

A host is a list of labels between dots, for which ideographic and wide full stops may stand. A label
outside ASCII is written as `xn--` and its Punycode form if it is well formed: composed, with hyphens
only between other characters and not as its third and fourth character, without a mark at its start,
of letters of hosts alone but for a few characters that need a fitting context, and in one direction
of writing. Labels have at most 63 characters and hosts at most 253. `encode` gives the ASCII form of
a host and `decode` the form for readers.
-/

namespace Paygate.Idna

def isDot (c : Char) : Bool :=
  c = '.' || c.toNat = 0x3002 || c.toNat = 0xFF0E || c.toNat = 0xFF61

def labels (host : List Char) : List (List Char) := host.splitOnP isDot

/-! ## Characters that need a context -/

def greek : CharClass := ⟨[881, 995, 1011, 1072, 7462, 7467, 7936, 8204, 43877, 43878]⟩

def hebrew : CharClass := ⟨[1425, 1552, 64286, 65056]⟩

/-- Hiragana, Katakana and Han. -/
def japanese : List CharClass :=
  [⟨[12353, 12441, 12445, 12449, 110593, 110880, 110928, 110948]⟩,
   ⟨[12449, 12539, 12541, 12549, 12784, 13312, 110576, 110593, 110880, 110928, 110948, 110960]⟩,
   ⟨[12293, 12294, 12295, 12330, 13312, 40960, 64014, 64286, 94179, 94180, 94192, 94208, 131072]⟩]

/-- The combining class of the signs that take a vowel away. -/
def virama : Nat := 9

def isArabicDigit (c : Char) : Bool := 0x660 ≤ c.toNat && c.toNat ≤ 0x669

def isExtendedArabicDigit (c : Char) : Bool := 0x6F0 ≤ c.toNat && c.toNat ≤ 0x6F9

def isJoiner (c : Char) : Bool := c.toNat = 0x200C || c.toNat = 0x200D

/-- Whether a joiner may stand between the characters before it, the nearest first, and those after
it: behind a virama, or, if it keeps letters apart, between letters that would join. -/
def joinerFits (before : List Char) (c : Char) (after : List Char) : Bool :=
  (before.head?.map fun b => Text.combiningClass b == virama).getD false ||
    (c.toNat = 0x200C && Text.joins before after)

/-- Whether one of the other characters that need a context may stand between the characters before
it, the nearest first, and those after it. -/
def contextFits (before : List Char) (c : Char) (after : List Char) : Bool :=
  let anywhere (p : Char → Bool) : Bool := before.any p || after.any p
  if c.toNat = 0xB7 then before.head? = some 'l' && after.head? = some 'l'
  else if c.toNat = 0x375 then (after.head?.map greek.contains).getD false
  else if c.toNat = 0x5F3 || c.toNat = 0x5F4 then (before.head?.map hebrew.contains).getD false
  else if c.toNat = 0x30FB then
    anywhere fun d => d.toNat ≠ 0x30FB && japanese.any (·.contains d)
  else if isArabicDigit c then !anywhere isExtendedArabicDigit
  else if isExtendedArabicDigit c then !anywhere isArabicDigit
  else false

def needsContext (c : Char) : Bool :=
  c.toNat = 0xB7 || c.toNat = 0x375 || c.toNat = 0x5F3 || c.toNat = 0x5F4 || c.toNat = 0x30FB ||
    isArabicDigit c || isExtendedArabicDigit c

/-! ## Errors -/

/-- Why a host has no other form. Positions count from one. -/
inductive Error where
  | emptyHost
  | hostTooLong
  | emptyLabel
  | labelTooLong
  | emptyCode
  | hyphenAfterCode
  | badCode
  | notComposed
  | innerHyphens
  | outerHyphen
  | markFirst
  | joiner (code position : Nat) (label : List Char)
  | context (code position : Nat) (label : List Char)
  | letter (code position : Nat) (label : List Char)
  | direction (cause : Text.DirectionFault) (label : List Char)
deriving DecidableEq, Repr

/-- A code point as `U+` and at least four digits. -/
def shownCode (code : Nat) : String :=
  let digits := (Nat.toDigits 16 code).map Char.toUpper
  "U+" ++ String.ofList (List.replicate (4 - digits.length) '0' ++ digits)

def Error.message : Error → String
  | emptyHost => "Empty domain"
  | hostTooLong => "Domain too long"
  | emptyLabel => "Empty Label"
  | labelTooLong => "Label too long"
  | emptyCode => "Malformed A-label, no Punycode eligible content found"
  | hyphenAfterCode => "A-label must not end with a hyphen"
  | badCode => "Invalid A-label"
  | notComposed => "Label must be in Normalization Form C"
  | innerHyphens => "Label has disallowed hyphens in 3rd and 4th position"
  | outerHyphen => "Label must not start or end with a hyphen"
  | markFirst => "Label begins with an illegal combining character"
  | joiner code position label =>
    "Unknown codepoint adjacent to joiner " ++ shownCode code ++ " at position " ++
      toString position ++ " in " ++ Text.quoted (String.ofList label)
  | context code position label =>
    "Codepoint " ++ shownCode code ++ " not allowed at position " ++ toString position ++ " in " ++
      Text.quoted (String.ofList label)
  | letter code position label =>
    "Codepoint " ++ shownCode code ++ " at position " ++ toString position ++ " of " ++
      Text.quoted (String.ofList label) ++ " not allowed"
  | direction (.unknown position) label =>
    "Unknown directionality in label " ++ Text.quoted (String.ofList label) ++ " at position " ++
      toString position
  | direction .start label =>
    "First codepoint in label " ++ Text.quoted (String.ofList label) ++
      " must be directionality L, R or AL"
  | direction (.misplaced position toLeft) _ =>
    "Invalid direction for codepoint at position " ++ toString position ++
      (if toLeft then " in a right-to-left label" else " in a left-to-right label")
  | direction .mixedNumbers _ => "Can not mix numeral types in a right-to-left label"
  | direction .ending _ => "Label ends with illegal codepoint directionality"

/-! ## Labels -/

/-- The first character of a label that may not stand where it stands. -/
def letterError? (label before : List Char) : List Char → Option Error
  | [] => none
  | c :: rest =>
    let position := before.length + 1
    if Url.hostLetter.contains c then letterError? label (c :: before) rest
    else if isJoiner c then
      if joinerFits before c rest then letterError? label (c :: before) rest
      else some (.joiner c.toNat position label)
    else if needsContext c then
      if contextFits before c rest then letterError? label (c :: before) rest
      else some (.context c.toNat position label)
    else some (.letter c.toNat position label)

/-- The most characters that are looked at in a label. -/
def checkedLength : Nat := 254

/-- Why a label is not well formed, if it is not. -/
def labelError? (label : List Char) : Option Error :=
  if label.isEmpty then some .emptyLabel
  else if label.length > checkedLength then some .labelTooLong
  else if !Text.isComposed label then some .notComposed
  else if (label.drop 2).take 2 = ['-', '-'] then some .innerHyphens
  else if label.head? = some '-' || label.getLast? = some '-' then some .outerHyphen
  else if (label.head?.map Text.mark.contains).getD false then some .markFirst
  else
    (letterError? label [] label).orElse fun _ =>
      (Text.directionFault? label).map (.direction · label)

def checked (label : List Char) : Except Error (List Char) :=
  match labelError? label with
  | some e => .error e
  | none => .ok label

def isAscii (label : List Char) : Bool := label.all (·.toNat < 128)

/-- What the ASCII form of a label outside ASCII starts with. -/
def codeMark : List Char := "xn--".toList

/-- The form of a label for readers. -/
def decodeLabel (label : List Char) : Except Error (List Char) :=
  if isAscii label && codeMark.isPrefixOf label then
    let code := label.drop codeMark.length
    if code.isEmpty then .error .emptyCode
    else if code.getLast? = some '-' then .error .hyphenAfterCode
    else
      match Punycode.decode? code with
      | none => .error .badCode
      | some plain =>
        if Punycode.encode plain = code then checked plain else .error .badCode
  else checked label

/-- The longest ASCII form of a label. -/
def labelLimit : Nat := 63

/-- The ASCII form of a label. -/
def encodeLabel (label : List Char) : Except Error (List Char) := do
  let written ←
    if isAscii label then (decodeLabel label).map fun _ => label
    else (checked label).map fun label => codeMark ++ Punycode.encode label
  if written.length ≤ labelLimit then pure written else .error .labelTooLong

/-! ## Hosts -/

/-- The longest ASCII form of a host, without a dot at its end. -/
def hostLimit : Nat := 253

/-- A host with every label in another form. One dot may stand at its end. -/
def mapLabels (form : List Char → Except Error (List Char)) (host : List Char) :
    Except Error (List Char) :=
  if host.length > hostLimit + 1 then .error .hostTooLong
  else
    let parts := labels host
    if parts = [[]] then .error .emptyHost
    else
      let dotted := parts.getLast? = some []
      ((if dotted then parts.dropLast else parts).mapM form).map fun written =>
        List.intercalate ['.'] written ++ (if dotted then ['.'] else [])

/-- The ASCII form of a host in lower case. -/
def encode (host : List Char) : Except Error (List Char) := do
  let written ← mapLabels encodeLabel host
  let limit := if written.getLast? = some '.' then hostLimit + 1 else hostLimit
  if written.length ≤ limit then pure written else .error .hostTooLong

/-- The form of a host for readers. -/
def decode (host : List Char) : Except Error (List Char) := mapLabels decodeLabel host

end Paygate.Idna
