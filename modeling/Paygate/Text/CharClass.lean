/-!
# Classes of characters

A class is the list of code points at which membership changes, in increasing order: a character
is in the class if an odd number of them is at most its code point.
-/

namespace Paygate

structure CharClass where
  changes : List Nat

namespace CharClass

def changesUpTo : (changes : List Nat) → (code : Nat) → Bool
  | [], _ => false
  | n :: changes, code => if n ≤ code then !changesUpTo changes code else false

def contains (cls : CharClass) (c : Char) : Bool := changesUpTo cls.changes c.toNat

end CharClass

end Paygate
