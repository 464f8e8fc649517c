import Paygate.Compression.Bits

/-!
# Prefix codes

A prefix code is given by the length of each symbol's code: shorter codes come first, and codes of
one length are in the order of the symbols. A code is complete if every sequence of bits starts with
the code of some symbol. `Code.read` reads the code of one symbol.
-/

namespace Paygate.Compression

/-- A prefix code as a tree: a bit chooses a side, a leaf is a symbol. -/
inductive Code where
  | unused
  | symbol (value : Nat)
  | branch (zero one : Code)
deriving DecidableEq, Repr

namespace Code

/-- Put a symbol at the end of a path. -/
def insert (value : Nat) : (path : List Bool) → Code → Code
  | [], _ => symbol value
  | bit :: path, branch zero one =>
    if bit then branch zero (insert value path one) else branch (insert value path zero) one
  | bit :: path, _ =>
    if bit then branch unused (insert value path unused) else branch (insert value path unused) unused

/-- A number as bits, the highest first. -/
def pathOf (length number : Nat) : List Bool :=
  ((List.range length).map number.testBit).reverse

/-- Insert symbols with their lengths, shorter ones first; `next` is the code that is free at the
length of the symbol before. -/
def insertAll : (length next : Nat) → List (Nat × Nat) → Code → Code
  | _, _, [], code => code
  | length, next, (symbolLength, value) :: rest, code =>
    let next := next <<< (symbolLength - length)
    insertAll symbolLength (next + 1) rest (code.insert value (pathOf symbolLength next))

/-- The symbols that have a code, with its length, in the order of their codes. -/
def ordered (lengths : List Nat) : List (Nat × Nat) :=
  let used := lengths.zipIdx.filter fun (length, _) => length ≠ 0
  used.mergeSort fun a b => a.1 ≤ b.1

/-- The code of the given lengths. A code without symbols has two unused sides. -/
def ofLengths (lengths : List Nat) : Code :=
  match ordered lengths with
  | [] => branch unused unused
  | symbols => insertAll 0 0 symbols unused

/-- Read one symbol; `none` is a code that no symbol has. -/
def read : Code → Bits → Step Bits (Option Nat)
  | unused, bits => .done none bits
  | symbol value, bits => .done (some value) bits
  | branch _ _, [] => .ended
  | branch zero one, bit :: bits => if bit then read one bits else read zero bits

end Code

/-- The share of all sequences of `width` bits that codes of the given lengths take. -/
def codeShare (width : Nat) (lengths : List Nat) : Nat :=
  lengths.foldl (fun share length => share + if length = 0 then 0 else 1 <<< (width - length)) 0

/-- The longest code of a symbol. -/
def codeWidth : Nat := 15

/-- Whether there are codes of the given lengths and every sequence starts with one of them. -/
def isComplete (lengths : List Nat) : Bool := codeShare codeWidth lengths == 1 <<< codeWidth

def isUnused (lengths : List Nat) : Bool := lengths.all (· == 0)

/-- Whether all that is used is one code of one bit. -/
def isSingle (lengths : List Nat) : Bool := lengths.filter (· ≠ 0) == [1]

end Paygate.Compression
