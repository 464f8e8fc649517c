import Paygate.Bytes.Basic

/-!
# ASCII characters

* `forall_ascii`: what is so for the first 128 numbers.
* `toNat_of_isAlphanum`: where letters and digits stand among the characters.
* `utf8EncodeChar_eq_singleton`: an ASCII character is written as one byte.
-/

namespace Paygate.Ascii

variable {c : Char}

/-- What is so for the characters of the first 128 numbers is so for every ASCII character. -/
theorem forall_ascii {P : Char → Prop} (h : ∀ n < 128, P (Char.ofNat n)) (hc : c.toNat < 128) : P c := by
  have hof := h c.toNat hc
  rwa [Char.ofNat_toNat] at hof

/-- A letter or a digit stands in one of three rows. -/
theorem toNat_of_isAlphanum (h : c.isAlphanum = true) :
    (65 ≤ c.toNat ∧ c.toNat ≤ 90) ∨ (97 ≤ c.toNat ∧ c.toNat ≤ 122) ∨
      (48 ≤ c.toNat ∧ c.toNat ≤ 57) := by
  have hrows : (decide (c.val ≥ 'A'.val ∧ c.val ≤ 'Z'.val) ||
      (decide (c.val ≥ 'a'.val) && decide (c.val ≤ 'z'.val)) ||
      (decide (c.val ≥ '0'.val) && decide (c.val ≤ '9'.val))) = true := h
  simp only [Bool.or_eq_true, Bool.and_eq_true, decide_eq_true_eq, ge_iff_le,
    UInt32.le_iff_toNat_le] at hrows
  rw [or_assoc] at hrows
  exact hrows

theorem utf8EncodeChar_eq_singleton (h : c.toNat < 128) :
    String.utf8EncodeChar c = [UInt8.ofNat c.toNat] := by
  have hc : c.val.toNat = c.toNat := rfl
  simp only [String.utf8EncodeChar, hc]
  rw [if_pos (Nat.le_of_lt_succ h)]

end Paygate.Ascii
