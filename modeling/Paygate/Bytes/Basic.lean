/-!
# Byte strings

A byte string is a list of bytes. Numbers are written into a fixed number of bytes, most
significant byte first (`ofNat`) or last (`ofNatLE`), and read back by `toNat` and `toNatLE`.
A number that needs more bytes than it is given keeps its low bytes.
-/

namespace Paygate

abbrev Bytes := List UInt8

/-- Thirty-two bytes: a key or a hash. -/
abbrev Bytes32 := { bytes : Bytes // bytes.length = 32 }

namespace Bytes

/-- The low `width` bytes of `n`, most significant first. -/
def ofNat : (width : Nat) → (n : Nat) → Bytes
  | 0, _ => []
  | width + 1, n => ofNat width (n / 256) ++ [UInt8.ofNat n]

/-- The number that the bytes write, most significant first. -/
def toNat (bytes : Bytes) : Nat := bytes.foldl (fun n b => n * 256 + b.toNat) 0

/-- The low `width` bytes of `n`, least significant first. -/
def ofNatLE : (width : Nat) → (n : Nat) → Bytes
  | 0, _ => []
  | width + 1, n => UInt8.ofNat n :: ofNatLE width (n / 256)

/-- The number that the bytes write, least significant first. -/
def toNatLE (bytes : Bytes) : Nat := bytes.foldr (fun b n => b.toNat + 256 * n) 0

/-- The UTF-8 bytes of a text. -/
def ofString (s : String) : Bytes := s.toUTF8.toList

@[simp] theorem length_ofNat (width n : Nat) : (ofNat width n).length = width := by
  induction width generalizing n with
  | zero => rfl
  | succ width ih => simp [ofNat, ih]

@[simp] theorem length_ofNatLE (width n : Nat) : (ofNatLE width n).length = width := by
  induction width generalizing n with
  | zero => rfl
  | succ width ih => simp [ofNatLE, ih]

theorem toNat_append_singleton (bytes : Bytes) (b : UInt8) :
    toNat (bytes ++ [b]) = toNat bytes * 256 + b.toNat := by
  simp [toNat]

theorem toNat_ofNat (width n : Nat) : toNat (ofNat width n) = n % Nat.pow 256 width := by
  induction width generalizing n with
  | zero => simp [ofNat, toNat, Nat.mod_one]
  | succ width ih =>
    have pow : Nat.pow 256 (width + 1) = 256 * Nat.pow 256 width := Nat.pow_succ'
    rw [ofNat, toNat_append_singleton, ih, UInt8.toNat_ofNat', pow, Nat.mod_mul]
    omega

theorem toNatLE_ofNatLE (width n : Nat) : toNatLE (ofNatLE width n) = n % Nat.pow 256 width := by
  induction width generalizing n with
  | zero => simp [ofNatLE, toNatLE, Nat.mod_one]
  | succ width ih =>
    have pow : Nat.pow 256 (width + 1) = 256 * Nat.pow 256 width := Nat.pow_succ'
    have unfolded : toNatLE (ofNatLE (width + 1) n) =
        (UInt8.ofNat n).toNat + 256 * toNatLE (ofNatLE width (n / 256)) := rfl
    rw [unfolded, ih, UInt8.toNat_ofNat', pow, Nat.mod_mul]

end Bytes

end Paygate
