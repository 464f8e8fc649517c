import Mathlib.Data.Nat.Bitwise
import Paygate.Crypto.Crc16
import Paygate.Proofs.Bytes.Bits

/-!
# Checksums bit by bit

A checksum takes in its message one bit after the other, and the checksum of a difference is the
difference of the checksums. So whether two messages with their checksums can be mistaken for each other
depends only on where they differ.

* `shift_xor`, `eq_zero_of_shift`: a shift is linear, and loses nothing.
* `ofBits`, `checksum_eq`: the checksum of bytes is taken over their bits.
* `ofBits_xor`: the checksum of a difference.
* `Sealed`, `Sealed.xor`: bits that end in their checksum, and the difference of two such.
-/

namespace Paygate.Crc16

/-! ## One shift -/

/-- The bit that the next shift moves out. -/
def high (crc : UInt16) : Bool := crc.toNat.testBit 15

theorem shift_eq (crc : UInt16) : shift crc = (crc <<< 1) ^^^ (if high crc then 0x1021 else 0) := by
  have hand : (crc &&& 0x8000).toNat = (high crc).toNat * 2 ^ 15 := by
    rw [UInt16.toNat_and]
    exact Nat.and_two_pow _ 15
  unfold shift
  cases hhigh : high crc
  · have hzero : crc &&& 0x8000 = 0 := by
      rw [← UInt16.toNat_inj, hand, hhigh]
      rfl
    rw [if_pos hzero, if_neg Bool.false_ne_true, UInt16.xor_zero]
  · have hone : crc &&& 0x8000 ≠ 0 := by
      rw [ne_eq, ← UInt16.toNat_inj, hand, hhigh]
      decide
    rw [if_neg hone, if_pos rfl]

theorem high_xor (a b : UInt16) : high (a ^^^ b) = (high a ^^ high b) := by
  rw [high, UInt16.toNat_xor, Nat.testBit_xor]
  rfl

/-- A shift is linear. -/
theorem shift_xor (a b : UInt16) : shift (a ^^^ b) = shift a ^^^ shift b := by
  have hreduce : (if high (a ^^^ b) then (0x1021 : UInt16) else 0) =
      (if high a then 0x1021 else 0) ^^^ (if high b then 0x1021 else 0) := by
    rw [high_xor]
    cases high a <;> cases high b <;> rfl
  rw [shift_eq, shift_eq, shift_eq, UInt16.shiftLeft_xor, hreduce]
  ac_rfl

/-- A shift loses nothing: what is added when a one falls out is odd. -/
theorem eq_zero_of_shift {crc : UInt16} (h : shift crc = 0) : crc = 0 := by
  rw [shift_eq, UInt16.xor_eq_zero_iff] at h
  have hvalue := congrArg UInt16.toNat h
  have hleft : (crc <<< 1).toNat = crc.toNat * 2 % 65536 := by
    rw [UInt16.toNat_shiftLeft, Nat.shiftLeft_eq]
    rfl
  have hlt := crc.toNat_lt
  have hhigh : high crc = decide (crc.toNat / 32768 % 2 = 1) := by
    rw [high, Nat.testBit_eq_decide_div_mod_eq]
  rw [hleft] at hvalue
  rw [← UInt16.toNat_inj]
  split at hvalue
  · have hodd : crc.toNat * 2 % 65536 = 0x1021 := hvalue
    omega
  · rename_i hclear
    have hzero : crc.toNat * 2 % 65536 = 0 := hvalue
    rw [hhigh, decide_eq_true_eq] at hclear
    show crc.toNat = 0
    omega

/-! ## A message of bits -/

/-- Take in one bit. -/
def shiftIn (crc : UInt16) (bit : Bool) : UInt16 := shift (crc ^^^ if bit then 0x8000 else 0)

/-- The checksum after these bits, from the one before them. -/
def ofBits (crc : UInt16) (bits : List Bool) : UInt16 := bits.foldl shiftIn crc

theorem ofBits_append (crc : UInt16) (xs ys : List Bool) :
    ofBits crc (xs ++ ys) = ofBits (ofBits crc xs) ys := List.foldl_append

theorem shiftIn_xor (a b : UInt16) (x y : Bool) :
    shiftIn (a ^^^ b) (x ^^ y) = shiftIn a x ^^^ shiftIn b y := by
  have hbit : (if x ^^ y then (0x8000 : UInt16) else 0) =
      (if x then 0x8000 else 0) ^^^ (if y then 0x8000 else 0) := by
    cases x <;> cases y <;> rfl
  have hadded : a ^^^ b ^^^ (if x ^^ y then (0x8000 : UInt16) else 0) =
      (a ^^^ if x then 0x8000 else 0) ^^^ (b ^^^ if y then 0x8000 else 0) := by
    rw [hbit]
    ac_rfl
  rw [shiftIn, hadded, shift_xor]
  rfl

/-- The checksum of a difference is the difference of the checksums. -/
theorem ofBits_xor (a b : UInt16) {xs ys : List Bool} (h : xs.length = ys.length) :
    ofBits (a ^^^ b) (List.zipWith xor xs ys) = ofBits a xs ^^^ ofBits b ys := by
  induction xs generalizing a b ys with
  | nil =>
    obtain rfl := List.length_eq_zero_iff.mp h.symm
    rfl
  | cons x xs ih =>
    cases ys with
    | nil => cases h
    | cons y ys =>
      have hrest := ih (shiftIn a x) (shiftIn b y) (Nat.succ.inj h)
      rw [← shiftIn_xor] at hrest
      exact hrest

theorem zeros_xor (xs : List Bool) : List.zipWith xor (List.replicate xs.length false) xs = xs := by
  induction xs with
  | nil => rfl
  | cons x xs ih =>
    rw [List.length_cons, List.replicate_succ, List.zipWith_cons_cons, ih, Bool.false_xor]

/-- Zeros in front of a message do not count. -/
@[simp] theorem ofBits_zeros (n : Nat) : ofBits 0 (List.replicate n false) = 0 := by
  induction n with
  | zero => rfl
  | succ n ih => exact ih

/-- Zeros behind a message lose nothing. -/
theorem eq_zero_of_ofBits_zeros {crc : UInt16} {n : Nat} (h : ofBits crc (List.replicate n false) = 0) :
    crc = 0 := by
  induction n generalizing crc with
  | zero => exact h
  | succ n ih =>
    have hshift : shiftIn crc false = 0 := ih h
    rw [shiftIn, if_neg Bool.false_ne_true, UInt16.xor_zero] at hshift
    exact eq_zero_of_shift hshift

/-- What is there before a message is shifted out of it. -/
theorem ofBits_eq (crc : UInt16) (bits : List Bool) :
    ofBits crc bits = ofBits crc (List.replicate bits.length false) ^^^ ofBits 0 bits := by
  rw [← ofBits_xor _ _ List.length_replicate, zeros_xor, UInt16.xor_zero]

/-- A byte is taken in bit by bit. -/
theorem step_eq (crc : UInt16) (b : UInt8) : step crc b = ofBits crc (Bits.ofNat 8 b.toNat) := by
  have hshifts : ∀ crc, Nat.repeat shift 8 crc = ofBits crc (List.replicate 8 false) := by
    intro crc
    simp [Nat.repeat, ofBits, shiftIn, List.replicate]
  have hbyte : ∀ n < 256, ofBits ((UInt8.ofNat n).toUInt16 <<< 8) (List.replicate 8 false) =
      ofBits 0 (Bits.ofNat 8 n) := by
    decide +kernel
  have hzeros : (List.replicate 8 false).length = (List.replicate 8 false).length := rfl
  have hsplit := ofBits_xor crc (b.toUInt16 <<< 8) hzeros
  have hlast := hbyte b.toNat b.toNat_lt
  rw [UInt8.ofNat_toNat] at hlast
  rw [step, hshifts, ofBits_eq crc (Bits.ofNat 8 b.toNat), Bits.length_ofNat, ← hlast]
  exact hsplit

/-- The checksum of bytes is taken over their bits. -/
theorem checksum_eq (bytes : Bytes) : checksum bytes = ofBits 0 bytes.bits := by
  have hfold : ∀ crc, bytes.foldl step crc = ofBits crc bytes.bits := by
    induction bytes with
    | nil => exact fun _ => rfl
    | cons b bytes ih =>
      intro crc
      rw [List.foldl_cons, ih, Bytes.bits_cons, ofBits_append, step_eq]
  exact hfold 0

/-! ## Messages with their checksum -/

/-- The bits of a checksum as they stand behind its message, low byte first. -/
def checkBits (crc : UInt16) : List Bool := Bytes.bits (Bytes.ofNatLE 2 crc.toNat)

@[simp] theorem length_checkBits (crc : UInt16) : (checkBits crc).length = 16 := by
  rw [checkBits, Bytes.length_bits, Bytes.length_ofNatLE]

theorem checkBits_xor (a b : UInt16) :
    checkBits (a ^^^ b) = List.zipWith xor (checkBits a) (checkBits b) := by
  rw [checkBits, UInt16.toNat_xor]
  exact Bytes.bits_ofNatLE_xor 2 _ _

theorem eq_zero_of_checkBits {crc : UInt16} (h : checkBits crc = List.replicate 16 false) : crc = 0 := by
  have hbytes : Bytes.ofNatLE 2 crc.toNat = Bytes.ofNatLE 2 0 := Bytes.eq_of_bits h
  have hvalue := congrArg Bytes.toNatLE hbytes
  rw [Bytes.toNatLE_ofNatLE, Bytes.toNatLE_ofNatLE] at hvalue
  have hlt := crc.toNat_lt
  rw [← UInt16.toNat_inj]
  exact (Nat.mod_eq_of_lt hlt).symm.trans hvalue

/-- Bits that end in the checksum of what stands before it. -/
def Sealed (bits : List Bool) : Prop := ∃ message, bits = message ++ checkBits (ofBits 0 message)

/-- The difference of two messages with their checksums is a message with its checksum. -/
theorem Sealed.xor {xs ys : List Bool} (hxs : Sealed xs) (hys : Sealed ys) (h : xs.length = ys.length) :
    Sealed (List.zipWith Bool.xor xs ys) := by
  obtain ⟨message, rfl⟩ := hxs
  obtain ⟨message', rfl⟩ := hys
  have hlength : message.length = message'.length := by simpa using h
  refine ⟨List.zipWith Bool.xor message message', ?_⟩
  rw [List.zipWith_append hlength, ← checkBits_xor, ← ofBits_xor _ _ hlength, UInt16.xor_zero]

theorem sealed_iff {bits : List Bool} : Sealed bits ↔ 16 ≤ bits.length ∧
    bits.drop (bits.length - 16) = checkBits (ofBits 0 (bits.take (bits.length - 16))) := by
  constructor
  · rintro ⟨message, rfl⟩
    simp
  · rintro ⟨-, hcheck⟩
    refine ⟨bits.take (bits.length - 16), ?_⟩
    rw [← hcheck, List.take_append_drop]

instance : DecidablePred Sealed := fun _ => decidable_of_iff' _ sealed_iff

/-- Zeros in front do not count. -/
theorem Sealed.of_zeros_append {n : Nat} {bits : List Bool} (hlength : 16 ≤ bits.length)
    (h : Sealed (List.replicate n false ++ bits)) : Sealed bits := by
  obtain ⟨message, hsealed⟩ := h
  have hlong : n ≤ message.length := by
    have htotal := congrArg List.length hsealed
    simp only [List.length_append, List.length_replicate, length_checkBits] at htotal
    omega
  obtain ⟨rest, rfl⟩ : List.replicate n false <+: message :=
    List.prefix_of_prefix_length_le ⟨bits, hsealed⟩ (List.prefix_append _ _) (by simpa using hlong)
  rw [List.append_assoc, List.append_cancel_left_eq, ofBits_append, ofBits_zeros] at hsealed
  exact ⟨rest, hsealed⟩

/-- A message whose checksum is zero. -/
theorem Sealed.ofBits_eq_zero {message : List Bool} (h : Sealed (message ++ List.replicate 16 false)) :
    ofBits 0 message = 0 := by
  obtain ⟨message', hsealed⟩ := h
  obtain ⟨rfl, hcheck⟩ := List.append_inj' hsealed (by simp)
  exact eq_zero_of_checkBits hcheck.symm

end Paygate.Crc16
