import Paygate.Text.CharClass

/-!
# Blank characters

`blank` holds the characters that count as space around a number: the Unicode white space and the
four information separators. `whiteSpace` is the Unicode property alone.
-/

namespace Paygate.Text

def blank : CharClass :=
  ⟨[9, 14, 28, 33, 133, 134, 160, 161, 5760, 5761, 8192, 8203, 8232, 8234, 8239, 8240, 8287, 8288,
   12288, 12289]⟩

def whiteSpace : CharClass :=
  ⟨[9, 14, 32, 33, 133, 134, 160, 161, 5760, 5761, 8192, 8203, 8232, 8234, 8239, 8240, 8287, 8288,
   12288, 12289]⟩

/-- A text without the characters of a class at either end. -/
def trim (cls : CharClass) (cs : List Char) : List Char :=
  ((cs.dropWhile cls.contains).reverse.dropWhile cls.contains).reverse

/-- A text without the characters of a class at its end. -/
def trimRight (cls : CharClass) (cs : List Char) : List Char :=
  (cs.reverse.dropWhile cls.contains).reverse

/-- A text without any `c` at its end. -/
def trimEnd (c : Char) (cs : List Char) : List Char :=
  (cs.reverse.dropWhile (· == c)).reverse

end Paygate.Text
