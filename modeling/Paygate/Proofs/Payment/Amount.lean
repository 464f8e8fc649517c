import Mathlib.Data.Rat.Defs
import Mathlib.Algebra.Order.Field.Rat
import Mathlib.Tactic.FieldSimp
import Mathlib.Tactic.Ring
import Paygate.Payment.Amount
import Paygate.Payment.Field
import Paygate.Proofs.Text.Splitting

/-!
# The number that an amount writes

* `Amount.Denotes`: the decimal number of a text.
* `Amount.denotes_of_parse`: an amount that is accepted is its number times ten million, exactly.
* `Amount.parse_eq_ok_iff`: it is accepted if and only if its number can be sent.
-/

namespace Paygate

namespace Numeral

theorem ofDigits_append (xs ys : List Char) :
    ofDigits (xs ++ ys) = ofDigits xs * 10 ^ ys.length + ofDigits ys := by
  have hfold : ∀ n, ys.foldl (fun n c => 10 * n + digitValue c) n = n * 10 ^ ys.length + ofDigits ys := by
    induction ys with
    | nil => simp [ofDigits]
    | cons y ys ih =>
      intro n
      simp only [ofDigits, List.foldl_cons, List.length_cons]
      rw [ih, ih (10 * 0 + digitValue y)]
      ring
  rw [ofDigits, List.foldl_append, hfold]
  rfl

theorem ofDigits_zeros (n : Nat) : ofDigits (List.replicate n '0') = 0 := by
  induction n with
  | zero => rfl
  | succ n ih =>
    rw [List.replicate_succ', ofDigits_append, ih]
    rfl

/-- The leading digits of a text are digits, and the text goes on with what follows them. -/
theorem span_eq {cs digits rest : List Char} (h : span cs = (digits, rest)) :
    cs = digits ++ rest ∧ digits.all Char.isDigit = true := by
  rw [span, List.span_eq_takeWhile_dropWhile] at h
  obtain ⟨rfl, rfl⟩ := Prod.mk.inj h
  exact ⟨List.takeWhile_append_dropWhile.symm, List.all_takeWhile⟩

/-- The leading digits of digits and a text that starts with none. -/
theorem span_append {digits rest : List Char} (h : digits.all Char.isDigit = true)
    (hrest : ∀ c, rest.head? = some c → c.isDigit = false) :
    span (digits ++ rest) = (digits, rest) :=
  Text.span_append (List.all_eq_true.mp h) hrest

theorem isRun_iff {cs : List Char} : isRun cs = true ↔ cs ≠ [] ∧ cs.all Char.isDigit = true := by
  simp [isRun]

end Numeral

namespace Amount

/-- The number that an amount writes: digits, perhaps followed by a point and one to seven more. -/
inductive Denotes : (amount : Field) → (value : ℚ) → Prop
  | whole {text : String} {digits : List Char} (text_eq : text.toList = digits)
      (run : Numeral.isRun digits = true) : Denotes (.text text) (Numeral.ofDigits digits)
  | fraction {text : String} {digits places : List Char} (text_eq : text.toList = digits ++ '.' :: places)
      (run : Numeral.isRun digits = true) (placesRun : Numeral.isRun places = true)
      (short : places.length ≤ 7) :
      Denotes (.text text) (Numeral.ofDigits digits + Numeral.ofDigits places / 10 ^ places.length)

theorem count_eq {digits places : List Char} (h : places.length ≤ 7) :
    (count digits places : ℚ) =
      (Numeral.ofDigits digits + Numeral.ofDigits places / 10 ^ places.length) * 10 ^ 7 := by
  have hcount : count digits places = Numeral.ofDigits digits * 10 ^ 7 +
      Numeral.ofDigits places * 10 ^ (7 - places.length) := by
    have hlength : places.length + (7 - places.length) = 7 := by omega
    rw [count, Numeral.ofDigits_append, Numeral.ofDigits_append, Numeral.ofDigits_zeros,
      List.length_replicate, Nat.add_zero, Nat.add_mul, Nat.mul_assoc, ← pow_add, hlength]
  have hpow : (10 : ℚ) ^ 7 = 10 ^ places.length * 10 ^ (7 - places.length) := by
    rw [← pow_add, Nat.add_sub_cancel' h]
  rw [hcount]
  push_cast
  rw [add_mul]
  congr 1
  rw [hpow]
  field_simp

/-- The digits before and after the point are those of the text. -/
theorem parts?_eq_some {cs digits places : List Char} (h : parts? cs = some (digits, places)) :
    Numeral.isRun digits = true ∧ places.length ≤ 7 ∧
      ((cs = digits ∧ places = []) ∨ (cs = digits ++ '.' :: places ∧ Numeral.isRun places = true)) := by
  have hrun : ∀ {rest : List Char}, Numeral.span cs = (digits, rest) → digits ≠ [] →
      cs = digits ++ rest ∧ Numeral.isRun digits = true := by
    intro rest hspan hne
    obtain ⟨htext, hdigits⟩ := Numeral.span_eq hspan
    exact ⟨htext, by simp [Numeral.isRun, hdigits, hne]⟩
  unfold parts? at h
  split at h
  · cases h
  · rename_i hne hspan
    cases h
    obtain ⟨htext, hdigits⟩ := hrun hspan hne
    exact ⟨hdigits, Nat.zero_le 7, .inl ⟨by simpa using htext, rfl⟩⟩
  · rename_i hne hspan
    split at h
    · rename_i hplaces
      cases h
      simp only [Bool.and_eq_true, decide_eq_true_eq] at hplaces
      obtain ⟨htext, hdigits⟩ := hrun hspan hne
      exact ⟨hdigits, hplaces.2, .inr ⟨htext, hplaces.1⟩⟩
    · cases h
  · cases h

/-- An amount that is accepted is its number times ten million, exactly. -/
theorem denotes_of_parse {text : String} {amount : Stroops} (h : parse text = .ok amount) :
    ∃ value, Denotes (.text text) value ∧ (amount.1 : ℚ) = value * 10 ^ 7 := by
  unfold parse at h
  split at h
  · cases h
  · rename_i digits places hparts
    split at h <;> cases h
    obtain ⟨hrun, hlength, ⟨htext, rfl⟩ | ⟨htext, hplaces⟩⟩ := parts?_eq_some hparts
    · refine ⟨_, .whole htext hrun, ?_⟩
      have hzero : Numeral.ofDigits [] = 0 := rfl
      rw [count_eq hlength, hzero, Nat.cast_zero, zero_div, add_zero]
    · exact ⟨_, .fraction htext hrun hplaces hlength, count_eq hlength⟩

/-- The digits around the point of a text that writes an amount. -/
theorem parts?_of_denotes {text : String} {value : ℚ} (h : Denotes (.text text) value) :
    ∃ digits places, parts? text.toList = some (digits, places) ∧
      (count digits places : ℚ) = value * 10 ^ 7 := by
  cases h with
  | whole text_eq run =>
    obtain ⟨hne, hdigits⟩ := Numeral.isRun_iff.mp run
    refine ⟨text.toList, [], ?_, ?_⟩
    · have hspan : Numeral.span (_ ++ []) = (_, []) := Numeral.span_append hdigits (by simp)
      rw [← text_eq, List.append_nil] at hspan
      obtain ⟨c, cs, hcons⟩ := List.exists_cons_of_ne_nil (text_eq ▸ hne)
      rw [hcons] at hspan ⊢
      simp only [parts?, hspan]
    · have hzero : Numeral.ofDigits [] = 0 := rfl
      rw [count_eq (show ([] : List Char).length ≤ 7 from Nat.zero_le 7), hzero, text_eq]
      simp
  | @fraction _ digits places text_eq run placesRun short =>
    obtain ⟨hne, hdigits⟩ := Numeral.isRun_iff.mp run
    refine ⟨digits, places, ?_, count_eq short⟩
    have hspan : Numeral.span (digits ++ '.' :: places) = (digits, '.' :: places) :=
      Numeral.span_append hdigits (by rintro c ⟨⟩; rfl)
    obtain ⟨c, cs, rfl⟩ := List.exists_cons_of_ne_nil hne
    rw [text_eq]
    simp only [parts?, hspan, placesRun, short, decide_true, Bool.and_self, if_true]

/-- A text writes one number at most. -/
theorem Denotes.unique {amount : Field} {value value' : ℚ} (h : Denotes amount value)
    (h' : Denotes amount value') : value = value' := by
  match amount with
  | .upload => cases h
  | .text (.broken _) => cases h
  | .text (.whole text) =>
    obtain ⟨digits, places, hparts, hcount⟩ := parts?_of_denotes h
    obtain ⟨digits', places', hparts', hcount'⟩ := parts?_of_denotes h'
    obtain ⟨rfl, rfl⟩ := Prod.mk.inj (Option.some.inj (hparts.symm.trans hparts'))
    exact mul_right_cancel₀ (by norm_num) (hcount.symm.trans hcount')

/-- The number of an amount that can be sent: at least one stroop, and no more than 63 bits of them. -/
def Sendable (text : Str) (value : ℚ) : Prop :=
  Denotes (.text text) value ∧ 1 ≤ value * 10 ^ 7 ∧ value * 10 ^ 7 ≤ 2 ^ 63 - 1

/-- An amount is accepted if and only if it writes a number that can be sent. -/
theorem parse_eq_ok_iff {text : String} {amount : Stroops} :
    parse text = .ok amount ↔ ∃ value, Sendable text value ∧ (amount.1 : ℚ) = value * 10 ^ 7 := by
  constructor
  · intro h
    obtain ⟨value, hdenotes, heq⟩ := denotes_of_parse h
    refine ⟨value, ⟨hdenotes, ?_, ?_⟩, heq⟩
    · rw [← heq]
      exact_mod_cast amount.2.1
    · rw [← heq]
      have hle : ((amount.1 : ℕ) : ℚ) ≤ (9223372036854775807 : ℕ) := Nat.cast_le.mpr amount.2.2
      exact hle.trans (by norm_num)
  · rintro ⟨value, ⟨hdenotes, hleast, hgreatest⟩, heq⟩
    obtain ⟨digits, places, hparts, hcount⟩ := parts?_of_denotes hdenotes
    have hsame : count digits places = amount.1 := by
      have hcast := hcount.trans heq.symm
      exact_mod_cast hcast
    have hrange : 0 < count digits places ∧ count digits places ≤ 9223372036854775807 :=
      hsame ▸ amount.2
    simp only [parse, hparts]
    rw [dif_pos hrange]
    exact congrArg Except.ok (Subtype.ext hsame)

/-- A number that can be sent is a number of stroops. -/
theorem Sendable.exists_parse {text : String} {value : ℚ} (h : Sendable text value) :
    ∃ amount, parse text = .ok amount ∧ (amount.1 : ℚ) = value * 10 ^ 7 := by
  obtain ⟨hdenotes, hleast, hgreatest⟩ := h
  obtain ⟨digits, places, hparts, hcount⟩ := parts?_of_denotes hdenotes
  rw [← hcount] at hleast hgreatest
  have hpos : 0 < count digits places := by exact_mod_cast hleast
  have hle : count digits places ≤ 9223372036854775807 := by
    have hcast : ((count digits places : ℕ) : ℚ) ≤ (9223372036854775807 : ℕ) :=
      hgreatest.trans (by norm_num)
    exact_mod_cast hcast
  refine ⟨⟨_, hpos, hle⟩, ?_, hcount⟩
  exact parse_eq_ok_iff.mpr ⟨value, ⟨hdenotes, hcount ▸ hleast, hcount ▸ hgreatest⟩, hcount⟩

end Amount

end Paygate
