import Paygate.Proofs.Crypto.Crc16
import Paygate.Proofs.Payment.Keys

/-!
# Typing errors in keys

A key in which one character is replaced, or two neighbours are swapped, is never another key of its kind.
The bits in which two keys differ end in their own checksum. The few patterns of five or ten bits in which a
mistyped key differs do not: within the message their checksum is not zero, and shifting it further loses
nothing; within the last five digits, where the message and its checksum meet, each pattern is tried.

* `Typo`: the two kinds of error.
* `Pattern`, `Pattern.not_sealed`: bits that change together are noticed wherever they stand.
* `StrKey.Spells.not_spells_of_typo`: so no key is mistyped as another one.
* `typo_rejected`: both validators reject what is mistyped.
-/

namespace Paygate

/-- What is typed is what was meant but for one character, or but for two neighbours that are swapped. -/
inductive Typo : (meant typed : List Char) → Prop
  | replaced (before after : List Char) {c d : Char} (ne : d ≠ c) :
      Typo (before ++ c :: after) (before ++ d :: after)
  | swapped (before after : List Char) {c d : Char} (ne : c ≠ d) :
      Typo (before ++ c :: d :: after) (before ++ d :: c :: after)

open Crc16 (Sealed ofBits)

/-! ## Patterns of changed bits -/

/-- Bits that a checksum notices: as part of a message, and within the last five digits of a key, where
the message ends and its checksum stands. -/
structure Pattern (bits : List Bool) : Prop where
  length : bits.length ≤ 10
  message : ofBits 0 bits ≠ 0
  last : ∀ after < 4, ¬ Sealed (List.replicate (25 - bits.length - 5 * after) false ++
    (bits ++ List.replicate (5 * after) false))

/-- The bits that change with one digit, and with two neighbours that are swapped. -/
theorem pattern_of_digit {d : Nat} (hd : d < 32) (hne : d ≠ 0) :
    Pattern (Bits.ofNat 5 d) ∧ Pattern (Bits.ofNat 5 d ++ Bits.ofNat 5 d) := by
  have hmessage : ∀ d < 32, d ≠ 0 → ofBits 0 (Bits.ofNat 5 d) ≠ 0 ∧
      ofBits 0 (Bits.ofNat 5 d ++ Bits.ofNat 5 d) ≠ 0 := by
    decide +kernel
  have hone : ∀ d < 32, d ≠ 0 → ∀ after < 4, ¬ Sealed (List.replicate (25 - 5 - 5 * after) false ++
      (Bits.ofNat 5 d ++ List.replicate (5 * after) false)) := by
    decide +kernel
  have htwo : ∀ d < 32, d ≠ 0 → ∀ after < 4, ¬ Sealed (List.replicate (25 - 10 - 5 * after) false ++
      ((Bits.ofNat 5 d ++ Bits.ofNat 5 d) ++ List.replicate (5 * after) false)) := by
    decide +kernel
  obtain ⟨hsingle, hdouble⟩ := hmessage d hd hne
  have hlength : (Bits.ofNat 5 d).length = 5 := Bits.length_ofNat 5 d
  constructor
  · exact ⟨by omega, hsingle, by rw [hlength]; exact hone d hd hne⟩
  · have hlength' : (Bits.ofNat 5 d ++ Bits.ofNat 5 d).length = 10 := by
      rw [List.length_append, hlength]
    exact ⟨by omega, hdouble, by rw [hlength']; exact htwo d hd hne⟩

/-- Among the 280 bits of a key such bits are noticed wherever they stand. -/
theorem Pattern.not_sealed {bits : List Bool} (h : Pattern bits) {before after : Nat}
    (hlength : before + bits.length + 5 * after = 280) :
    ¬ Sealed (List.replicate before false ++ (bits ++ List.replicate (5 * after) false)) := by
  intro hsealed
  have hbits := h.length
  by_cases hafter : 4 ≤ after
  · -- all of it stands in the message
    have hsplit : 5 * after = (5 * after - 16) + 16 := by omega
    rw [hsplit, List.replicate_add, ← List.append_assoc, ← List.append_assoc] at hsealed
    have hzero := hsealed.ofBits_eq_zero
    rw [Crc16.ofBits_append, Crc16.ofBits_append, Crc16.ofBits_zeros] at hzero
    exact h.message (Crc16.eq_zero_of_ofBits_zeros hzero)
  · -- some of it stands in the last five digits
    have hsplit : before = 255 + (25 - bits.length - 5 * after) := by omega
    rw [hsplit, List.replicate_add, List.append_assoc] at hsealed
    refine h.last after (by omega) (hsealed.of_zeros_append ?_)
    simp only [List.length_append, List.length_replicate]
    omega

/-! ## Keys -/

namespace StrKey

variable {kind : KeyKind} {key key' : Bytes32} {text text' : String}

/-- The bits of a key end in their checksum. -/
theorem Spells.sealed (h : Spells kind key text) : Sealed (Base32.bits text.toList) := by
  refine ⟨Bytes.bits (kind.version :: key.1), ?_⟩
  rw [h.bits, Bytes.bits_append, ← Crc16.checksum_eq]
  rfl

/-- So do the bits in which two keys differ. -/
theorem Spells.sealed_xor (h : Spells kind key text) (h' : Spells kind key' text') :
    Sealed (List.zipWith xor (Base32.bits text.toList) (Base32.bits text'.toList)) := by
  refine h.sealed.xor h'.sealed ?_
  rw [Base32.length_bits, Base32.length_bits, h.length, h'.length]

end StrKey

namespace Base32

variable {before after cs ds : List Char}

theorem xor_self (xs : List Bool) : List.zipWith xor xs xs = List.replicate xs.length false := by
  induction xs with
  | nil => rfl
  | cons x xs ih =>
    rw [List.zipWith_cons_cons, ih, Bool.xor_self, List.length_cons, List.replicate_succ]

/-- Texts that differ in one place only differ in the bits of that place only. -/
theorem bits_xor (h : cs.length = ds.length) :
    List.zipWith xor (bits (before ++ cs ++ after)) (bits (before ++ ds ++ after)) =
      List.replicate (5 * before.length) false ++
        (List.zipWith xor (bits cs) (bits ds) ++ List.replicate (5 * after.length) false) := by
  have hlength : (bits cs).length = (bits ds).length := by rw [length_bits, length_bits, h]
  simp only [bits_append, List.append_assoc]
  rw [List.zipWith_append rfl, List.zipWith_append hlength, xor_self, xor_self, length_bits, length_bits]

/-- Two digits differ by the bits of a number that is not zero. -/
theorem exists_xor {c d : Char} (hc : (value? c).isSome) (hd : (value? d).isSome) (hne : c ≠ d) :
    ∃ n < 32, n ≠ 0 ∧ List.zipWith xor (bits [c]) (bits [d]) = Bits.ofNat 5 n ∧
      List.zipWith xor (bits [d]) (bits [c]) = Bits.ofNat 5 n := by
  obtain ⟨v, hv⟩ := Option.isSome_iff_exists.mp hc
  obtain ⟨w, hw⟩ := Option.isSome_iff_exists.mp hd
  obtain ⟨hvlt, hvdigit⟩ := digit_of_value? hv
  obtain ⟨hwlt, hwdigit⟩ := digit_of_value? hw
  refine ⟨v ^^^ w, Nat.xor_lt_two_pow (n := 5) hvlt hwlt, ?_, ?_, ?_⟩
  · intro hzero
    rw [Nat.xor_eq_zero_iff] at hzero
    exact hne (by rw [← hvdigit, ← hwdigit, hzero])
  · simp only [bits_cons, hv, hw, Option.getD_some, Bits.ofNat_xor]
    exact congrArg₂ _ (List.append_nil _) (List.append_nil _)
  · simp only [bits_cons, hv, hw, Option.getD_some, Nat.xor_comm v w, Bits.ofNat_xor]
    exact congrArg₂ _ (List.append_nil _) (List.append_nil _)

/-- So do two neighbours that are swapped, twice. -/
theorem exists_xor_swapped {c d : Char} (hc : (value? c).isSome) (hd : (value? d).isSome) (hne : c ≠ d) :
    ∃ n < 32, n ≠ 0 ∧
      List.zipWith xor (bits [c, d]) (bits [d, c]) = Bits.ofNat 5 n ++ Bits.ofNat 5 n := by
  obtain ⟨n, hn, hpos, hxor, hxor'⟩ := exists_xor hc hd hne
  have hpair : ∀ x y, bits [x, y] = bits [x] ++ bits [y] := fun x y => bits_append [x] [y]
  refine ⟨n, hn, hpos, ?_⟩
  rw [hpair, hpair, List.zipWith_append (by rw [length_bits, length_bits]; rfl), hxor, hxor']

end Base32

namespace StrKey

variable {kind : KeyKind} {key : Bytes32} {text typed : String}

/-- No key is mistyped as another one of its kind. -/
theorem Spells.not_spells_of_typo (h : Spells kind key text) (typo : Typo text.toList typed.toList)
    (key' : Bytes32) : ¬ Spells kind key' typed := by
  intro h'
  have hsealed := h.sealed_xor h'
  have hlength := h.length
  have halphabet : ∀ c ∈ text.toList, (Base32.value? c).isSome = true := fun c hc =>
    isSome_value?_iff.mpr (h.alphabet c hc)
  have halphabet' : ∀ c ∈ typed.toList, (Base32.value? c).isSome = true := fun c hc =>
    isSome_value?_iff.mpr (h'.alphabet c hc)
  generalize text.toList = meant at typo hsealed hlength halphabet
  generalize typed.toList = written at typo hsealed halphabet'
  cases typo with
  | @replaced before after c d ne =>
    obtain ⟨n, hn, hpos, hxor, -⟩ :=
      Base32.exists_xor (halphabet c (by simp)) (halphabet' d (by simp)) ne.symm
    have hone : [c].length = [d].length := rfl
    rw [List.append_cons, List.append_cons before d, Base32.bits_xor hone, hxor] at hsealed
    refine (pattern_of_digit hn hpos).1.not_sealed ?_ hsealed
    simp only [List.length_append, List.length_cons] at hlength
    rw [Bits.length_ofNat]
    omega
  | @swapped before after c d ne =>
    obtain ⟨n, hn, hpos, hxor⟩ :=
      Base32.exists_xor_swapped (halphabet c (by simp)) (halphabet d (by simp)) ne
    have hpair : ∀ x y, before ++ x :: y :: after = before ++ [x, y] ++ after := by simp
    have htwo : [c, d].length = [d, c].length := rfl
    rw [hpair, hpair, Base32.bits_xor htwo, hxor] at hsealed
    refine (pattern_of_digit hn hpos).2.not_sealed ?_ hsealed
    simp only [List.length_append, List.length_cons] at hlength
    rw [List.length_append, Bits.length_ofNat]
    omega

end StrKey

/-- What is mistyped for an account key is no account key, and what is mistyped for a seed is no seed. -/
theorem typo_rejected {meant typed : String} (typo : Typo meant.toList typed.toList) :
    (∀ error id, AccountId.validate (.text meant) error = .ok id →
      ∀ error', AccountId.validate (.text typed) error' = .error (.payment error')) ∧
    (∀ signed, PaymentRequest.signer (.text meant) = .ok signed →
      PaymentRequest.signer (.text typed) = .error (.payment .invalidSource)) := by
  constructor
  · intro error id h error'
    obtain ⟨⟨⟩, key, hspells, -⟩ := AccountId.validate_eq_ok_iff.mp h
    refine AccountId.validate_eq_error_iff.mpr ?_
    rintro ⟨key', hspells', -⟩
    exact hspells.not_spells_of_typo typo key' hspells'
  · rintro ⟨seed, account⟩ h
    obtain ⟨⟨⟩, key, ⟨hspells, -⟩, -⟩ := PaymentRequest.signer_eq_ok_iff.mp h
    refine PaymentRequest.signer_eq_error_iff.mpr ?_
    rintro ⟨key', hspells', -⟩
    exact hspells.not_spells_of_typo typo key' hspells'

namespace Mistyped

def key : String := "GD5LVHC767F4JKBIDBJAQS4YWS3QXSGPRXRX2HOM36DANJDRTBN3WD7V"

/-- The account key with another last character. -/
def replaced : String := "GD5LVHC767F4JKBIDBJAQS4YWS3QXSGPRXRX2HOM36DANJDRTBN3WD7W"

def seed : String := "SAS2MY2CMPA3D5X4I2L2ATRLTECOUSYEFKE26WO4SPWB6XKEQSFCMWS6"

/-- The seed with its second and third characters swapped. -/
def swapped : String := "SSA2MY2CMPA3D5X4I2L2ATRLTECOUSYEFKE26WO4SPWB6XKEQSFCMWS6"

theorem typo_replaced : Typo key.toList replaced.toList := by
  have hkey : key.toList = key.toList.take 55 ++ 'V' :: [] := by decide +kernel
  have hreplaced : replaced.toList = key.toList.take 55 ++ 'W' :: [] := by decide +kernel
  rw [hkey, hreplaced]
  exact .replaced _ _ (by decide)

theorem typo_swapped : Typo seed.toList swapped.toList := by
  have hseed : seed.toList = ['S'] ++ 'A' :: 'S' :: seed.toList.drop 3 := by decide +kernel
  have hswapped : swapped.toList = ['S'] ++ 'S' :: 'A' :: seed.toList.drop 3 := by decide +kernel
  rw [hseed, hswapped]
  exact .swapped _ _ (by decide)

end Mistyped

open Mistyped in
/-- An account key with another last character, and a seed with two neighbours swapped. -/
theorem mistyped_rejected : Typo key.toList replaced.toList ∧
    AccountId.validate (.text key) .invalidIssuer = .ok key ∧
    AccountId.validate (.text replaced) .invalidIssuer = .error (.payment .invalidIssuer) ∧
    Typo seed.toList swapped.toList ∧ StrKey.isValid .seed seed = true ∧
    PaymentRequest.signer (.text swapped) = .error (.payment .invalidSource) := by
  have hvalid : StrKey.isValid .account key = true := by decide +kernel
  have hkey : AccountId.validate (.text key) .invalidIssuer = .ok key := AccountId.validate_of_valid hvalid _
  have hseed : StrKey.isValid .seed seed = true := by decide +kernel
  obtain ⟨signed, hsigned⟩ := PaymentRequest.exists_signer hseed
  exact ⟨typo_replaced, hkey, (typo_rejected typo_replaced).1 _ _ hkey _, typo_swapped, hseed,
    (typo_rejected typo_swapped).2 _ hsigned⟩

end Paygate
