import Paygate.Text.Str

/-!
# Punycode

A text is written in ASCII as its ASCII characters, a hyphen, and one number for each further
character, in the order of code points: how far it lies from the one before, counted in places of
insertion. The numbers have digits `a` to `z` and `0` to `9`, whose weights adapt to the numbers
before.
-/

namespace Paygate.Punycode

def digit (d : Nat) : Char := if d < 26 then Char.ofNat (97 + d) else Char.ofNat (22 + d)

def digitValue? (c : Char) : Option Nat :=
  if 'a' ≤ c ∧ c ≤ 'z' then some (c.toNat - 97)
  else if '0' ≤ c ∧ c ≤ '9' then some (c.toNat - 22)
  else none

/-- The threshold of the digit at a place. -/
def threshold (place bias : Nat) : Nat := min 26 (max 1 (place - bias))

theorem one_le_threshold (place bias : Nat) : 1 ≤ threshold place bias := by
  unfold threshold; omega

/-- Divide by 35 until 455 is not exceeded, and count the places. -/
def shrink (delta place : Nat) : Nat × Nat :=
  if 455 < delta then shrink (delta / 35) (place + 36) else (delta, place)
termination_by delta
decreasing_by exact Nat.div_lt_self (by omega) (by omega)

/-- The bias after a number; `count` characters are there then. -/
def adapt (delta count : Nat) (first : Bool) : Nat :=
  let delta := if first then delta / 700 else delta / 2
  let (delta, place) := shrink (delta + delta / count) 0
  place + 36 * delta / (delta + 38)

/-! ## Writing -/

/-- The digits of a number from a place on. -/
def writeNumber (bias place n : Nat) : List Char :=
  let t := threshold place bias
  if h : n < t then [digit n]
  else digit (t + (n - t) % (36 - t)) :: writeNumber bias (place + 36) ((n - t) / (36 - t))
termination_by n
decreasing_by
  have ht := one_le_threshold place bias
  exact Nat.lt_of_le_of_lt (Nat.div_le_self ..) (by omega)

structure Writing where
  delta : Nat := 0
  bias : Nat := 72
  /-- How many characters are written. -/
  count : Nat
  /-- The digits in reverse. -/
  done : List Char := []

/-- Pass a character of the text while those of one code point are written. -/
def Writing.pass (basic code : Nat) (w : Writing) (c : Char) : Writing :=
  if c.toNat < code then { w with delta := w.delta + 1 }
  else if c.toNat = code then
    { delta := 0, bias := adapt w.delta (w.count + 1) (w.count == basic), count := w.count + 1
      done := (writeNumber w.bias 36 w.delta).reverse ++ w.done }
  else w

/-- Write the characters of the code points that are left. -/
def writeCodes (cs : List Char) (basic : Nat) : (codes : List Nat) → (from_ : Nat) → Writing → Writing
  | [], _, w => w
  | code :: codes, from_, w =>
    let w := { w with delta := w.delta + (code - from_) * (w.count + 1) }
    let w := cs.foldl (Writing.pass basic code) w
    writeCodes cs basic codes (code + 1) { w with delta := w.delta + 1 }

def encode (cs : List Char) : List Char :=
  let basic := cs.filter fun c => c.toNat < 128
  let codes := (((cs.filter fun c => 128 ≤ c.toNat).map Char.toNat).mergeSort).eraseDups
  let w := writeCodes cs basic.length codes 128 { count := basic.length }
  (if basic.isEmpty then [] else basic ++ ['-']) ++ w.done.reverse

/-! ## Reading -/

/-- A number from a place on, and the rest of the digits. -/
def readNumber (bias : Nat) : (place weight value : Nat) → List Char → Option (Nat × List Char)
  | _, _, _, [] => none
  | place, weight, value, c :: rest => do
    let d ← digitValue? c
    let value := value + d * weight
    let t := threshold place bias
    if d < t then pure (value, rest)
    else readNumber bias (place + 36) (weight * (36 - t)) value rest

/-- Insert the code points of the numbers that are left, at most `fuel` of them, and tell whether all
of them are code points. `place` is where the next one could stand at the earliest. A number past the
last code point is taken for a question mark. -/
def insertPrefix : (fuel : Nat) → (text : List Point) → (code place bias : Nat) → (first : Bool) →
    List Char → List Point × Bool
  | 0, text, _, _, _, _, _ => (text, false)
  | _ + 1, text, _, _, _, _, [] => (text, true)
  | fuel + 1, text, code, place, bias, first, digits =>
    match readNumber bias 36 1 0 digits with
    | none => (text, false)
    | some (delta, rest) =>
      let place := place + delta
      let size := text.length + 1
      let code := code + place / size
      let place := place % size
      let fits := code < 0x110000
      let code := if fits then code else '?'.toNat
      let (text, complete) :=
        insertPrefix fuel (text.take place ++ .ofCode code :: text.drop place) code (place + 1)
          (adapt delta size first) false rest
      (text, complete && fits)

/-- The characters that a text in ASCII stands for, if all its numbers are those of characters. -/
def decode? (cs : List Char) : Option (List Char) :=
  let digits := if cs.contains '-' then (cs.reverse.takeWhile (· ≠ '-')).reverse else cs
  let basic := cs.take (cs.length - digits.length - 1)
  let (text, complete) := insertPrefix (digits.length + 1) (basic.map .char) 128 0 72 true digits
  if complete then text.mapM Point.char? else none

end Paygate.Punycode
