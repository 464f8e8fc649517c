import Paygate.Bytes.Basic

/-!
# Reading UTF-8

`next` reads one character, or finds a piece that is not UTF-8: the longest start of a character
that cannot be completed, or one byte that starts none. A strict reader fails on such a piece, a
lenient one puts U+FFFD in its place.
-/

namespace Paygate.Utf8

/-- The replacement character. -/
def replacement : Char := Char.ofNat 0xFFFD

/-- The bytes that must follow, the first of them between `low` and `high`. -/
def trail : (count : Nat) → (low high : UInt8) → (code : Nat) → Bytes → Option Char × Bytes
  | 0, _, _, code, rest => (some (Char.ofNat code), rest)
  | _ + 1, _, _, _, [] => (none, [])
  | count + 1, low, high, code, b :: rest =>
    if low ≤ b ∧ b ≤ high then trail count 0x80 0xBF (code * 64 + (b.toNat - 0x80)) rest
    else (none, b :: rest)

/-- One character that starts with `b`, or `none` for a piece that is not UTF-8, and what is left. -/
def next (b : UInt8) (rest : Bytes) : Option Char × Bytes :=
  if b < 0x80 then (some (Char.ofNat b.toNat), rest)
  else if b < 0xC2 then (none, rest)
  else if b < 0xE0 then trail 1 0x80 0xBF (b.toNat - 0xC0) rest
  else if b = 0xE0 then trail 2 0xA0 0xBF 0 rest
  else if b = 0xED then trail 2 0x80 0x9F 0xD rest
  else if b < 0xF0 then trail 2 0x80 0xBF (b.toNat - 0xE0) rest
  else if b = 0xF0 then trail 3 0x90 0xBF 0 rest
  else if b < 0xF4 then trail 3 0x80 0xBF (b.toNat - 0xF0) rest
  else if b = 0xF4 then trail 3 0x80 0x8F 4 rest
  else (none, rest)

theorem length_trail_le (count : Nat) (low high : UInt8) (code : Nat) (rest : Bytes) :
    (trail count low high code rest).2.length ≤ rest.length := by
  induction rest generalizing count low high code with
  | nil => cases count <;> simp [trail]
  | cons b rest ih =>
    cases count with
    | zero => simp [trail]
    | succ count =>
      rw [trail]
      split
      · exact Nat.le_trans (ih ..) (Nat.le_succ _)
      · exact Nat.le_refl _

theorem length_next_le (b : UInt8) (rest : Bytes) : (next b rest).2.length ≤ rest.length := by
  unfold next
  repeat' split
  all_goals first | exact Nat.le_refl _ | exact length_trail_le ..

/-- The pieces of a byte string in order, a piece that is not UTF-8 as `none`. -/
def pieces (bytes : Bytes) : List (Option Char) := go bytes []
where
  go : Bytes → List (Option Char) → List (Option Char)
    | [], done => done.reverse
    | b :: rest, done => go (next b rest).2 ((next b rest).1 :: done)
  termination_by bytes => bytes.length
  decreasing_by exact Nat.lt_succ_of_le (length_next_le b rest)

def decodeLossy (bytes : Bytes) : List Char := (pieces bytes).map (·.getD replacement)

def decode? (bytes : Bytes) : Option (List Char) := (pieces bytes).mapM id

end Paygate.Utf8
