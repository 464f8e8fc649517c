import Mathlib.Algebra.Group.Nat.Defs
import Mathlib.Data.List.Induction
import Paygate.StrKey

/-!
# Key texts are canonical

A text of base 32 is the only one for its bytes, and so is a key text for its payload.

* `Base32.encode_of_decode?`: writing gives back the text that was read.
* `Base32.decode?_encode`: reading gives back the bytes that were written.
* `StrKey.encode_of_decode?`: a key text is the one that its payload is written as.
-/

namespace Paygate

namespace Bytes

theorem toNat_lt (bytes : Bytes) : toNat bytes < 256 ^ bytes.length := by
  induction bytes using List.reverseRecOn with
  | nil => simp [toNat]
  | append_singleton bytes b ih =>
    have hb := b.toNat_lt
    rw [toNat_append_singleton, List.length_append, List.length_singleton, Nat.pow_succ]
    omega

/-- The bytes that a number writes are those that it was read from. -/
theorem ofNat_toNat (bytes : Bytes) : ofNat bytes.length (toNat bytes) = bytes := by
  induction bytes using List.reverseRecOn with
  | nil => rfl
  | append_singleton bytes b ih =>
    have hb := b.toNat_lt
    have hdiv : (toNat bytes * 256 + b.toNat) / 256 = toNat bytes := by omega
    have hlast : UInt8.ofNat (toNat bytes * 256 + b.toNat) = b := by
      rw [← UInt8.toNat_inj, UInt8.toNat_ofNat']
      omega
    rw [toNat_append_singleton, List.length_append, List.length_singleton, ofNat, hdiv, hlast, ih]

end Bytes

namespace Base32

theorem digit_of_value? {c : Char} {v : Nat} (h : value? c = some v) : v < 32 ∧ digit v = c := by
  unfold value? at h
  split at h
  · rename_i hrange
    cases h
    have hlow : 65 ≤ c.toNat := hrange.1
    have hhigh : c.toNat ≤ 90 := hrange.2
    have heq : 65 + (c.toNat - 65) = c.toNat := by omega
    refine ⟨by omega, ?_⟩
    rw [digit, if_pos (by omega), heq, Char.ofNat_toNat]
  · split at h
    · rename_i hrange
      cases h
      have hlow : 50 ≤ c.toNat := hrange.1
      have hhigh : c.toNat ≤ 55 := hrange.2
      have heq : 24 + (c.toNat - 24) = c.toNat := by omega
      refine ⟨by omega, ?_⟩
      rw [digit, if_neg (by omega), heq, Char.ofNat_toNat]
    · cases h

theorem number?_append (cs : List Char) (c : Char) :
    number? (cs ++ [c]) = (number? cs).bind fun n => (value? c).map (32 * n + ·) := by
  simp [number?]

/-- The digits of the number that a text writes are the text. -/
theorem digits_of_number? {cs : List Char} {n : Nat} (h : number? cs = some n) :
    n < 32 ^ cs.length ∧ digits cs.length n = cs := by
  induction cs using List.reverseRecOn generalizing n with
  | nil =>
    cases h
    exact ⟨Nat.one_pos, rfl⟩
  | append_singleton cs c ih =>
    rw [number?_append] at h
    obtain ⟨m, hm, hlast⟩ := Option.bind_eq_some_iff.mp h
    obtain ⟨v, hv, rfl⟩ := Option.map_eq_some_iff.mp hlast
    obtain ⟨hlt, hdigits⟩ := ih hm
    obtain ⟨hsmall, hdigit⟩ := digit_of_value? hv
    have hdiv : (32 * m + v) / 32 = m := by omega
    have hmod : (32 * m + v) % 32 = v := by omega
    rw [List.length_append, List.length_singleton]
    refine ⟨?_, by rw [digits, hdiv, hmod, hdigits, hdigit]⟩
    rw [Nat.pow_succ]
    omega

/-- Writing gives back the text that was read. -/
theorem encode_of_decode? {cs : List Char} {bytes : Bytes} (h : decode? cs = some bytes) :
    encode bytes = cs := by
  unfold decode? at h
  simp only at h
  split at h
  · cases h
  · rename_i n hn
    generalize hspare : 5 * cs.length % 8 = spare at h
    split at h <;> cases h
    rename_i hzero
    obtain ⟨hlt, hdigits⟩ := digits_of_number? hn
    have hcount : digitCount (5 * cs.length / 8) = cs.length := by
      unfold digitCount
      omega
    have hshift : 5 * cs.length - 8 * (5 * cs.length / 8) = spare := by omega
    have hpow : 2 ^ spare * 256 ^ (5 * cs.length / 8) = 32 ^ cs.length := by
      have hbits : spare + 8 * (5 * cs.length / 8) = 5 * cs.length := by omega
      calc
        _ = 2 ^ spare * (2 ^ 8) ^ (5 * cs.length / 8) := rfl
        _ = 2 ^ (5 * cs.length) := by rw [← Nat.pow_mul, ← Nat.pow_add, hbits]
        _ = (2 ^ 5) ^ cs.length := Nat.pow_mul 2 5 cs.length
        _ = 32 ^ cs.length := rfl
    have hfits : n >>> spare < Nat.pow 256 (5 * cs.length / 8) := by
      rw [Nat.shiftRight_eq_div_pow]
      exact Nat.div_lt_of_lt_mul (hpow ▸ hlt)
    have hback : n >>> spare <<< spare = n := by
      rw [Nat.shiftRight_eq_div_pow, Nat.shiftLeft_eq]
      rw [Nat.one_shiftLeft] at hzero
      exact Nat.div_mul_cancel (Nat.dvd_of_mod_eq_zero hzero.2)
    simp only [encode, Bytes.length_ofNat, hcount, hshift, Bytes.toNat_ofNat]
    rw [Nat.mod_eq_of_lt hfits, hback, hdigits]

theorem value?_digit {n : Nat} (h : n < 32) : value? (digit n) = some n := by
  have hall : ∀ n < 32, value? (digit n) = some n := by decide
  exact hall n h

theorem length_digits (count n : Nat) : (digits count n).length = count := by
  induction count generalizing n with
  | zero => rfl
  | succ count ih => rw [digits, List.length_append, ih, List.length_singleton]

/-- The number that some digits of `n` write. -/
theorem number?_digits (count n : Nat) : number? (digits count n) = some (n % 32 ^ count) := by
  induction count generalizing n with
  | zero =>
    rw [Nat.pow_zero, Nat.mod_one]
    rfl
  | succ count ih =>
    have hlast : value? (digit (n % 32)) = some (n % 32) := value?_digit (Nat.mod_lt n (by omega))
    have hmod : 32 * (n / 32 % 32 ^ count) + n % 32 = n % 32 ^ (count + 1) := by
      rw [Nat.pow_succ', Nat.mod_mul]
      omega
    rw [digits, number?_append, ih, hlast, ← hmod]
    rfl

/-- Reading gives back the bytes that were written. -/
theorem decode?_encode (bytes : Bytes) : decode? (encode bytes) = some bytes := by
  generalize hcount : digitCount bytes.length = count
  generalize hshift : 5 * count - 8 * bytes.length = shift
  have hbits : 5 * count = 8 * bytes.length + shift ∧ shift < 5 := by
    unfold digitCount at hcount
    omega
  have hfits : Bytes.toNat bytes <<< shift < 32 ^ count := by
    rw [Nat.shiftLeft_eq]
    calc
      _ < 256 ^ bytes.length * 2 ^ shift :=
        Nat.mul_lt_mul_of_pos_right (Bytes.toNat_lt bytes) (Nat.two_pow_pos shift)
      _ = (2 ^ 8) ^ bytes.length * 2 ^ shift := rfl
      _ = 2 ^ (5 * count) := by rw [← Nat.pow_mul, ← Nat.pow_add, hbits.1]
      _ = (2 ^ 5) ^ count := Nat.pow_mul 2 5 count
      _ = 32 ^ count := rfl
  have hspare : 5 * count % 8 = shift := by omega
  have hwidth : 5 * count / 8 = bytes.length := by omega
  have hzero : Bytes.toNat bytes <<< shift % (1 <<< shift) = 0 := by
    rw [Nat.shiftLeft_eq, Nat.one_shiftLeft, Nat.mul_mod_left]
  have hback : Bytes.toNat bytes <<< shift >>> shift = Bytes.toNat bytes :=
    Nat.shiftLeft_shiftRight _ _
  simp only [encode, decode?, hcount, hshift, number?_digits, length_digits, Nat.mod_eq_of_lt hfits,
    hspare, hwidth, hzero, hbits.2, hback, and_self, if_true, Bytes.ofNat_toNat]

end Base32

namespace StrKey

/-- A key text is the one that its payload is written as. -/
theorem encode_of_decode? {kind : KeyKind} {text : String} {payload : Payload kind}
    (h : decode? kind text = some payload) : encode kind payload.1 = text := by
  unfold decode? at h
  split at h
  · rename_i version rest hread
    split at h
    · simp only [Option.ite_none_right_eq_some, Option.some.injEq] at h
      obtain ⟨⟨rfl, hcheck⟩, rfl⟩ := h
      have hbody : kind.version :: rest.take kind.payloadLength ++
          check (kind.version :: rest.take kind.payloadLength) = kind.version :: rest := by
        rw [← hcheck, List.cons_append, List.take_append_drop]
      rw [encode, hbody, Base32.encode_of_decode? hread, String.ofList_toList]
    · cases h
  · cases h

end StrKey

end Paygate
