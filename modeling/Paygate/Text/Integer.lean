import Paygate.Number.Numeral
import Paygate.Text.Blank
import Paygate.Text.Digit

/-!
# Lenient integers

A whole number as people type it: blanks around it, a sign, digits of any script, and single
underscores between digits. It has no more digits than a numeral may have.
-/

namespace Paygate.Text

/-- The values of digits with single underscores between them. -/
def digitValues : List Char → Option (List Nat)
  | [] => none
  | [c] => (digitValue? c).map ([·])
  | c :: '_' :: rest => do
    let v ← digitValue? c
    let vs ← digitValues rest
    pure (v :: vs)
  | c :: rest => do
    let v ← digitValue? c
    let vs ← digitValues rest
    pure (v :: vs)

def readUnsigned? (cs : List Char) : Option Nat :=
  (digitValues cs).bind fun values =>
    if values.length ≤ Numeral.digitLimit then some (values.foldl (fun n v => 10 * n + v) 0) else none

def readInteger? (cs : List Char) : Option Int :=
  match trim blank cs with
  | '-' :: rest => (readUnsigned? rest).map fun n => -(n : Int)
  | '+' :: rest => (readUnsigned? rest).map Int.ofNat
  | rest => (readUnsigned? rest).map Int.ofNat

end Paygate.Text
