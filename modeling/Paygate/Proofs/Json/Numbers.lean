import Paygate.Json.Reader
import Paygate.Proofs.Payment.Amount
import Paygate.Proofs.Text.Decimal

/-!
# Whole numbers in documents

* `readPlain?_decimal`: the decimal text of a whole number is read as that number, exactly, as long as it
  has no more digits than are converted.
-/

namespace Paygate.Json

/-- A number ends in front of this text. -/
def EndsNumber (rest : List Char) : Prop :=
  ∀ c, rest.head? = some c → c.isDigit = false ∧ c ≠ '.' ∧ c ≠ 'e' ∧ c ≠ 'E'

/-- No word starts with a digit, also behind a sign. -/
theorem findSome?_words {d : Char} {cs : List Char} (hd : d.isDigit = true) :
    (words.findSome? fun (word, json) => (dropWord? word (d :: cs)).map (json, ·)) = none ∧
      (words.findSome? fun (word, json) => (dropWord? word ('-' :: d :: cs)).map (json, ·)) = none := by
  have hne : ∀ w : Char, w.isDigit = false → w ≠ d := by
    rintro w hw rfl
    rw [hd] at hw
    cases hw
  have hwords : words = [(['n', 'u', 'l', 'l'], .null), (['t', 'r', 'u', 'e'], .bool true),
      (['f', 'a', 'l', 's', 'e'], .bool false), (['N', 'a', 'N'], .float .nan),
      (['I', 'n', 'f', 'i', 'n', 'i', 't', 'y'], .float (.infinite false)),
      (['-', 'I', 'n', 'f', 'i', 'n', 'i', 't', 'y'], .float (.infinite true))] := rfl
  rw [hwords]
  constructor
  · simp [dropWord?, hne]
  · simp [dropWord?, hne]

theorem exponent?_of_ends {rest : List Char} (h : EndsNumber rest) : exponent? rest = none := by
  cases rest with
  | nil => rfl
  | cons c rest =>
    obtain ⟨-, -, he, hE⟩ := h c rfl
    simp [exponent?, he, hE]

theorem fraction_of_ends {rest : List Char} (h : EndsNumber rest) : fraction rest = ([], rest) := by
  unfold fraction
  split
  · exact absurd rfl (h '.' rfl).2.1
  · rfl

/-- The digits of a number are read as the number. -/
theorem readUnsigned?_toDigits (negative : Bool) {n : Nat} (hlimit : n < 10 ^ Numeral.digitLimit)
    {rest : List Char} (hrest : EndsNumber rest) :
    readUnsigned? negative (Nat.toDigits 10 n ++ rest) =
      some (.int (if negative then -n else n), rest) := by
  have hdigits : (Nat.toDigits 10 n).all Char.isDigit = true :=
    List.all_eq_true.mpr fun c => Nat.isDigit_of_mem_toDigits (by omega) (by omega)
  have hread : Numeral.read? (Nat.toDigits 10 n) = some n := by
    have hlength : (Nat.toDigits 10 n).length ≤ Numeral.digitLimit :=
      (Nat.length_toDigits_le_iff (by omega) (by decide)).mpr hlimit
    rw [Numeral.read?, if_pos hlength]
    exact congrArg some Nat.ofDigitChars_ten_toDigits
  have hspan := Numeral.span_append hdigits fun c hc => (hrest c hc).1
  obtain ⟨d, ds, hcons⟩ := List.exists_cons_of_ne_nil (Nat.toDigits_ne_nil (n := n) (b := 10))
  rw [hcons] at hread hspan ⊢
  -- a zero in front is a number of its own, so only zero may be written with one
  by_cases hzero : n = 0
  · subst hzero
    obtain ⟨rfl, rfl⟩ : '0' = d ∧ [] = ds := List.cons.inj hcons
    simp [readUnsigned?, wholePart, fraction_of_ends hrest, exponent?_of_ends hrest, hread]
  · have hne : d ≠ '0' := by
      rintro rfl
      exact Text.head_toDigits_ne hzero (by rw [hcons]; rfl)
    rw [List.cons_append] at hspan ⊢
    simp [readUnsigned?, wholePart, hne, hspan, fraction_of_ends hrest, exponent?_of_ends hrest, hread]

/-- A whole number is read exactly, if it does not have too many digits. -/
theorem readPlain?_decimal {n : Int} (hlimit : n.natAbs < 10 ^ Numeral.digitLimit) {rest : List Char}
    (hrest : EndsNumber rest) : readPlain? ((toString n).toList ++ rest) = some (.int n, rest) := by
  obtain ⟨d, ds, hdigits⟩ := List.exists_cons_of_ne_nil (Nat.toDigits_ne_nil (n := n.natAbs) (b := 10))
  have hd : d.isDigit = true :=
    Nat.isDigit_of_mem_toDigits (n := n.natAbs) (by omega : 0 < 10) (by omega) (by simp [hdigits])
  have hminus : d ≠ '-' := by
    rintro rfl
    cases hd
  have hread := fun negative => readUnsigned?_toDigits negative hlimit hrest
  rw [hdigits] at hread
  rw [Text.toList_toString_int, hdigits]
  split
  · rename_i hnegative
    have hvalue : -(n.natAbs : Int) = n := by omega
    simp only [List.cons_append, List.nil_append] at hread ⊢
    simp only [readPlain?, (findSome?_words hd).2, hread, if_true, hvalue]
  · rename_i hnegative
    have hvalue : (n.natAbs : Int) = n := by omega
    simp only [List.cons_append, List.nil_append] at hread ⊢
    simp only [readPlain?, (findSome?_words hd).1]
    split
    · rename_i heq
      exact absurd (List.cons.inj heq).1 hminus
    · rw [hread, if_neg (by decide), hvalue]

end Paygate.Json
