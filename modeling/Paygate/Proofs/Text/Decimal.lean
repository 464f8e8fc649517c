import Mathlib.Data.List.Basic
import Mathlib.Tactic.Common

/-!
# Decimal texts of whole numbers

* `toList_toString_int`: a sign, if there is one, and digits.
* `head_toDigits_ne`: only the digits of zero start with a zero.
* `toString_int_ne_empty`, `mem_toString_int`: there are digits, and but for the sign nothing else.
-/

namespace Paygate.Text

/-- A minus for negative numbers, and the digits of the number without its sign. -/
theorem toList_toString_int (n : Int) :
    (toString n).toList = (if n < 0 then ['-'] else []) ++ Nat.toDigits 10 n.natAbs := by
  cases n with
  | ofNat n => exact Nat.toList_repr
  | negSucc n =>
    show ("-" ++ Nat.repr (n + 1)).toList = _
    rw [String.toList_append, Nat.toList_repr, if_pos (Int.negSucc_lt_zero n)]
    rfl

/-- The first digit of a number that is not zero is not zero. -/
theorem head_toDigits_ne {n : Nat} (h : n ≠ 0) : (Nat.toDigits 10 n).head? ≠ some '0' := by
  induction n using Nat.strongRecOn with
  | ind n ih =>
    rw [Nat.toDigits_eq_if (by omega)]
    split
    · rename_i hsmall
      have hall : ∀ d < 10, d ≠ 0 → d.digitChar ≠ '0' := by decide
      simpa using hall n hsmall h
    · rename_i hlarge
      rw [List.head?_append_of_ne_nil _ Nat.toDigits_ne_nil]
      exact ih _ (Nat.div_lt_self (by omega) (by omega)) (by omega)

theorem toString_int_ne_empty (n : Int) : toString n ≠ "" := by
  intro h
  have hlist := toList_toString_int n
  rw [h] at hlist
  exact Nat.toDigits_ne_nil (List.append_eq_nil_iff.mp hlist.symm).2

theorem mem_toString_int {n : Int} {c : Char} (h : c ∈ (toString n).toList) :
    c = '-' ∨ c.isDigit = true := by
  rw [toList_toString_int, List.mem_append] at h
  rcases h with hsign | hdigit
  · split at hsign
    · exact .inl (List.mem_singleton.mp hsign)
    · cases hsign
  · exact .inr (Nat.isDigit_of_mem_toDigits (by omega) (by omega) hdigit)

end Paygate.Text
