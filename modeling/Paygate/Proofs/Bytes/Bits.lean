import Mathlib.Data.List.Basic
import Paygate.Proofs.StrKey

/-!
# Bits of bytes and of texts

The digits of base 32 are five bits each. A text is read as bytes if and only if it is made of such digits
and their bits are those of the bytes, followed by fewer than five zeros.

* `Bits.ofNat_append`, `Bits.ofNat_xor`: the bits of a number that is put together, and of a difference.
* `Bytes.bits`, `Base32.bits`: the bits of bytes and of digits.
* `Base32.decode?_eq_some_iff_bits`: reading, bit by bit.
-/

namespace Paygate

/-! ## Numbers -/

namespace Bits

/-- The low `width` bits of `n`, most significant first. -/
def ofNat : (width n : Nat) → List Bool
  | 0, _ => []
  | width + 1, n => ofNat width (n / 2) ++ [n.testBit 0]

@[simp] theorem length_ofNat (width n : Nat) : (ofNat width n).length = width := by
  induction width generalizing n with
  | zero => rfl
  | succ width ih => simp [ofNat, ih]

@[simp] theorem ofNat_zero (width : Nat) : ofNat width 0 = List.replicate width false := by
  induction width with
  | zero => rfl
  | succ width ih =>
    rw [ofNat, Nat.zero_div, ih, Nat.zero_testBit, List.replicate_succ']

/-- The bits of a number whose low bits are those of another. -/
theorem ofNat_append (width low n : Nat) {r : Nat} (hr : r < 2 ^ low) :
    ofNat (width + low) (n * 2 ^ low + r) = ofNat width n ++ ofNat low r := by
  induction low generalizing r with
  | zero =>
    obtain rfl : r = 0 := by simpa using hr
    simp [ofNat]
  | succ low ih =>
    have hdiv : (n * 2 ^ (low + 1) + r) / 2 = n * 2 ^ low + r / 2 := by
      rw [Nat.pow_succ, ← Nat.mul_assoc]
      omega
    have hbit : (n * 2 ^ (low + 1) + r).testBit 0 = r.testBit 0 := by
      have hmod : (n * 2 ^ (low + 1) + r) % 2 = r % 2 := by
        rw [Nat.pow_succ, ← Nat.mul_assoc]
        omega
      rw [Nat.testBit_zero, Nat.testBit_zero, hmod]
    have hhalf : r / 2 < 2 ^ low := by
      rw [Nat.pow_succ] at hr
      omega
    rw [← Nat.add_assoc, ofNat, hdiv, ih hhalf, hbit, ofNat, List.append_assoc]

/-- The bits of a difference are the differences of the bits. -/
theorem ofNat_xor (width m n : Nat) :
    ofNat width (m ^^^ n) = List.zipWith xor (ofNat width m) (ofNat width n) := by
  induction width generalizing m n with
  | zero => rfl
  | succ width ih =>
    rw [ofNat, ofNat, ofNat, Nat.xor_div_two, ih, Nat.testBit_xor,
      List.zipWith_append (by rw [length_ofNat, length_ofNat])]
    rfl

theorem ofNat_injective {width m n : Nat} (hm : m < 2 ^ width) (hn : n < 2 ^ width)
    (h : ofNat width m = ofNat width n) : m = n := by
  induction width generalizing m n with
  | zero => omega
  | succ width ih =>
    rw [Nat.pow_succ] at hm hn
    obtain ⟨hhigh, hlow⟩ := List.append_inj' h rfl
    have hhalf := ih (by omega) (by omega) hhigh
    rw [List.singleton_inj, Nat.testBit_zero, Nat.testBit_zero, decide_eq_decide] at hlow
    omega

end Bits

/-! ## Bytes -/

namespace Bytes

/-- The bits of bytes, one byte after the other. -/
def bits (bytes : Bytes) : List Bool := bytes.flatMap fun b => Bits.ofNat 8 b.toNat

theorem bits_cons (b : UInt8) (bytes : Bytes) : bits (b :: bytes) = Bits.ofNat 8 b.toNat ++ bits bytes :=
  List.flatMap_cons

theorem bits_append (xs ys : Bytes) : bits (xs ++ ys) = bits xs ++ bits ys := List.flatMap_append

/-- They are the bits of the number that the bytes write. -/
theorem bits_eq (bytes : Bytes) : bits bytes = Bits.ofNat (8 * bytes.length) (toNat bytes) := by
  induction bytes using List.reverseRecOn with
  | nil => rfl
  | append_singleton bytes b ih =>
    have hlast : bits [b] = Bits.ofNat 8 b.toNat := List.append_nil _
    rw [bits_append, ih, hlast, toNat_append_singleton, List.length_append, List.length_singleton,
      Nat.mul_add]
    exact (Bits.ofNat_append _ 8 _ b.toNat_lt).symm

@[simp] theorem length_bits (bytes : Bytes) : (bits bytes).length = 8 * bytes.length := by
  rw [bits_eq, Bits.length_ofNat]

/-- Bytes are known by their bits. -/
theorem eq_of_bits {xs ys : Bytes} (h : bits xs = bits ys) : xs = ys := by
  have hlength : xs.length = ys.length := by
    have hbits := congrArg List.length h
    rw [length_bits, length_bits] at hbits
    omega
  have hpow : ∀ k, 256 ^ k = 2 ^ (8 * k) := fun k => (Nat.pow_mul 2 8 k).symm
  rw [bits_eq, bits_eq, hlength] at h
  have hvalue := Bits.ofNat_injective (hpow _ ▸ hlength ▸ toNat_lt xs) (hpow _ ▸ toNat_lt ys) h
  rw [← ofNat_toNat xs, ← ofNat_toNat ys, hlength, hvalue]

/-- The bits of a difference that is written low byte first. -/
theorem bits_ofNatLE_xor (width m n : Nat) : bits (ofNatLE width (m ^^^ n)) =
    List.zipWith xor (bits (ofNatLE width m)) (bits (ofNatLE width n)) := by
  induction width generalizing m n with
  | zero => rfl
  | succ width ih =>
    have hhigh : (m ^^^ n) / 256 = m / 256 ^^^ n / 256 := Nat.xor_div_two_pow (n := 8)
    have hlow : (UInt8.ofNat (m ^^^ n)).toNat = (UInt8.ofNat m).toNat ^^^ (UInt8.ofNat n).toNat := by
      rw [UInt8.toNat_ofNat', UInt8.toNat_ofNat', UInt8.toNat_ofNat', Nat.xor_mod_two_pow]
    rw [ofNatLE, ofNatLE, ofNatLE, bits_cons, bits_cons, bits_cons, hhigh, ih, hlow, Bits.ofNat_xor,
      List.zipWith_append (by rw [Bits.length_ofNat, Bits.length_ofNat])]

end Bytes

/-! ## Digits of base 32 -/

namespace Base32

variable {cs cs' : List Char} {bytes : Bytes}

/-- The bits of digits, five each. -/
def bits (cs : List Char) : List Bool := cs.flatMap fun c => Bits.ofNat 5 ((value? c).getD 0)

@[simp] theorem length_bits (cs : List Char) : (bits cs).length = 5 * cs.length := by
  induction cs with
  | nil => rfl
  | cons c cs ih =>
    rw [bits, List.flatMap_cons, List.length_append, Bits.length_ofNat]
    rw [bits] at ih
    rw [ih, List.length_cons]
    omega

theorem bits_append (xs ys : List Char) : bits (xs ++ ys) = bits xs ++ bits ys := List.flatMap_append

theorem bits_cons (c : Char) (cs : List Char) :
    bits (c :: cs) = Bits.ofNat 5 ((value? c).getD 0) ++ bits cs := List.flatMap_cons

/-- Some digits of a number have the low bits of the number. -/
theorem bits_digits (count n : Nat) : bits (digits count n) = Bits.ofNat (5 * count) n := by
  induction count generalizing n with
  | zero => rfl
  | succ count ih =>
    have hlt : n % 32 < 2 ^ 5 := Nat.mod_lt n (by decide)
    have hlast : bits [digit (n % 32)] = Bits.ofNat 5 (n % 32) := by
      rw [bits_cons, value?_digit hlt]
      exact List.append_nil _
    have hnumber : n / 32 * 2 ^ 5 + n % 32 = n := Nat.div_add_mod' n 32
    have hsplit := Bits.ofNat_append (5 * count) 5 (n / 32) hlt
    rw [hnumber] at hsplit
    rw [digits, bits_append, ih, hlast, Nat.mul_succ, hsplit]

/-- A text of bytes has their bits, and zeros until the last digit is full. -/
theorem bits_encode (bytes : Bytes) : ∃ spare < 5,
    bits (encode bytes) = bytes.bits ++ List.replicate spare false := by
  have hspare : 5 * digitCount bytes.length - 8 * bytes.length < 5 := by
    unfold digitCount
    omega
  have hbits : 5 * digitCount bytes.length =
      8 * bytes.length + (5 * digitCount bytes.length - 8 * bytes.length) := by
    unfold digitCount
    omega
  refine ⟨_, hspare, ?_⟩
  have hsplit := Bits.ofNat_append (8 * bytes.length) (5 * digitCount bytes.length - 8 * bytes.length)
    (Bytes.toNat bytes) (Nat.two_pow_pos _)
  rw [← hbits, Nat.add_zero, Bits.ofNat_zero] at hsplit
  rw [encode, bits_digits, Nat.shiftLeft_eq, hsplit, Bytes.bits_eq]

theorem value?_eq_of_bits {c c' : Char} (hc : (value? c).isSome) (hc' : (value? c').isSome)
    (h : Bits.ofNat 5 ((value? c).getD 0) = Bits.ofNat 5 ((value? c').getD 0)) : c = c' := by
  obtain ⟨v, hv⟩ := Option.isSome_iff_exists.mp hc
  obtain ⟨v', hv'⟩ := Option.isSome_iff_exists.mp hc'
  obtain ⟨hlt, hdigit⟩ := digit_of_value? hv
  obtain ⟨hlt', hdigit'⟩ := digit_of_value? hv'
  rw [hv, hv', Option.getD_some, Option.getD_some] at h
  rw [← hdigit, ← hdigit', Bits.ofNat_injective hlt hlt' h]

/-- Digits are known by their bits. -/
theorem eq_of_bits (hcs : ∀ c ∈ cs, (value? c).isSome) (hcs' : ∀ c ∈ cs', (value? c).isSome)
    (h : bits cs = bits cs') : cs = cs' := by
  have hlength : cs.length = cs'.length := by
    have hbits := congrArg List.length h
    rw [length_bits, length_bits] at hbits
    omega
  induction cs generalizing cs' with
  | nil => exact (List.length_eq_zero_iff.mp hlength.symm).symm
  | cons c cs ih =>
    cases cs' with
    | nil => cases hlength
    | cons c' cs' =>
      rw [bits_cons, bits_cons] at h
      obtain ⟨hfirst, hrest⟩ := List.append_inj h (by rw [Bits.length_ofNat, Bits.length_ofNat])
      rw [List.forall_mem_cons] at hcs hcs'
      rw [value?_eq_of_bits hcs.1 hcs'.1 hfirst,
        ih hcs.2 hcs'.2 hrest (Nat.succ.inj hlength)]

/-- A text is read as bytes if and only if it is made of digits with the bits of these bytes and fewer
than five zeros behind them. -/
theorem decode?_eq_some_iff_bits : decode? cs = some bytes ↔ (∀ c ∈ cs, (value? c).isSome) ∧
    ∃ spare < 5, bits cs = bytes.bits ++ List.replicate spare false := by
  have hdigits : ∀ c ∈ encode bytes, (value? c).isSome := fun c => value?_of_mem_digits
  obtain ⟨spare, hspare, hbits⟩ := bits_encode bytes
  constructor
  · intro h
    obtain rfl := encode_of_decode? h
    exact ⟨hdigits, spare, hspare, hbits⟩
  · rintro ⟨halphabet, spare', hspare', hbits'⟩
    have hlength := congrArg List.length hbits
    have hlength' := congrArg List.length hbits'
    simp only [length_bits, List.length_append, Bytes.length_bits, List.length_replicate]
      at hlength hlength'
    -- the length of a text is a multiple of five bits, so there is one number of zeros that fits
    obtain rfl : spare' = spare := by omega
    obtain rfl := eq_of_bits halphabet hdigits (hbits'.trans hbits.symm)
    exact decode?_encode bytes

end Base32

end Paygate
