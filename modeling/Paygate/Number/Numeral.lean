/-!
# Decimal numerals

Natural numbers as runs of ASCII digits. A reader of untrusted text bounds the length of a run
before it converts it: `read?` refuses more than `digitLimit` digits, leading zeros included.
-/

namespace Paygate.Numeral

/-- The value of an ASCII digit. -/
def digitValue (c : Char) : Nat := c.toNat - 48

/-- The number that a run of digits writes. -/
def ofDigits (digits : List Char) : Nat := digits.foldl (fun n c => 10 * n + digitValue c) 0

/-- The longest run of digits that is converted. -/
def digitLimit : Nat := 4300

/-- The number that a run of digits writes, unless the run is too long. -/
def read? (digits : List Char) : Option Nat :=
  if digits.length ≤ digitLimit then some (ofDigits digits) else none

/-- A nonempty run of ASCII digits. -/
def isRun (cs : List Char) : Bool := !cs.isEmpty && cs.all Char.isDigit

/-- The leading digits of a text and what follows them. -/
def span (cs : List Char) : List Char × List Char := cs.span Char.isDigit

end Paygate.Numeral
