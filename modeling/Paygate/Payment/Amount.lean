import Paygate.Number.Numeral

/-!
# Amounts

An amount is written as ASCII digits, optionally with a point and one to seven more digits. It is
counted in stroops, of which ten million make one unit; an amount that is sent is at least one
stroop and at most `2 ^ 63 - 1`.
-/

namespace Paygate

/-- A number of stroops that can be sent. -/
abbrev Stroops := { n : Nat // 0 < n ∧ n ≤ 9223372036854775807 }

namespace Amount

inductive Error where
  | unreadable
  | outOfRange
deriving DecidableEq, Repr

/-- The digits before and after the point. -/
def parts? (text : List Char) : Option (List Char × List Char) :=
  match Numeral.span text with
  | ([], _) => none
  | (whole, []) => some (whole, [])
  | (whole, '.' :: digits) =>
    if Numeral.isRun digits && decide (digits.length ≤ 7) then some (whole, digits) else none
  | _ => none

/-- The number of stroops that the digits before and after the point write: the point is moved
behind seven places, of which the missing ones are zeros. -/
def count (whole digits : List Char) : Nat :=
  Numeral.ofDigits (whole ++ digits ++ List.replicate (7 - digits.length) '0')

def parse (text : String) : Except Error Stroops :=
  match parts? text.toList with
  | none => .error .unreadable
  | some (whole, digits) =>
    if h : 0 < count whole digits ∧ count whole digits ≤ 9223372036854775807 then .ok ⟨count whole digits, h⟩
    else .error .outOfRange

end Amount

end Paygate
