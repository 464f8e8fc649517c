import Paygate.Url.Percent
import Paygate.Proofs.Text.Ascii
import Paygate.Proofs.Text.Utf8

/-!
# Form encoding reads back what it writes

* `formDecode_formEncode`: a name or value is read as it was.
* `readPairs_formPairs`: so are any number of pairs.
-/

namespace Paygate.Percent

/-! ## Escapes -/

theorem value?_upperDigit {n : Nat} (h : n < 16) : Hex.value? (Hex.upperDigit n) = some n := by
  have hall : ∀ n < 16, Hex.value? (Hex.upperDigit n) = some n := by decide
  exact hall n h

/-- No digit of an escape means anything else. -/
theorem upperDigit_ne {n : Nat} (h : n < 16) : Hex.upperDigit n ≠ '+' ∧ Hex.upperDigit n ≠ '&' ∧
    Hex.upperDigit n ≠ '=' := by
  have hall : ∀ n < 16, Hex.upperDigit n ≠ '+' ∧ Hex.upperDigit n ≠ '&' ∧ Hex.upperDigit n ≠ '=' := by
    decide
  exact hall n h

theorem byte?_upperDigit (b : UInt8) :
    byte? (Hex.upperDigit (b.toNat / 16)) (Hex.upperDigit (b.toNat % 16)) = some b := by
  have hb := b.toNat_lt
  have hsum : 16 * (b.toNat / 16) + b.toNat % 16 = b.toNat := by omega
  rw [byte?, value?_upperDigit (by omega), value?_upperDigit (by omega)]
  calc
    _ = some (UInt8.ofNat (16 * (b.toNat / 16) + b.toNat % 16)) := rfl
    _ = some b := by rw [hsum, UInt8.ofNat_toNat]

/-- An escape is read as its byte. -/
theorem decodeInto_encodeByte (pending : Bytes) (done : List Char) (b : UInt8) (rest : List Char) :
    decodeInto pending done (encodeByte b ++ rest) = decodeInto (b :: pending) done rest := by
  simp only [encodeByte, List.cons_append, List.nil_append]
  rw [decodeInto, byte?_upperDigit]

theorem decodeInto_encodeBytes (pending : Bytes) (done : List Char) (bytes : Bytes)
    (rest : List Char) :
    decodeInto pending done (bytes.flatMap encodeByte ++ rest) =
      decodeInto (bytes.reverse ++ pending) done rest := by
  induction bytes generalizing pending with
  | nil => rfl
  | cons b bytes ih =>
    rw [List.flatMap_cons, List.append_assoc, decodeInto_encodeByte, ih, List.reverse_cons,
      List.append_assoc, List.singleton_append]

/-- An ASCII character that starts no escape is read as itself. -/
theorem decodeInto_ascii (pending : Bytes) (done : List Char) {c : Char} (hascii : c.toNat < 128)
    (hne : c ≠ '%') (rest : List Char) :
    decodeInto pending done (c :: rest) = decodeInto (UInt8.ofNat c.toNat :: pending) done rest := by
  rw [decodeInto, if_pos hascii]
  exact fun _ _ _ h => absurd h hne

/-! ## Names and values -/

/-- The text with its `+` signs read as spaces. -/
def spaced (cs : List Char) : List Char := cs.map fun c => if c = '+' then ' ' else c

theorem unreserved_props {c : Char} (h : isUnreserved c = true) :
    c.toNat < 128 ∧ c ≠ '%' ∧ c ≠ '+' ∧ c ≠ '&' ∧ c ≠ '=' := by
  refine ⟨?_, ?_, ?_, ?_, ?_⟩
  · simp only [isUnreserved, Bool.or_eq_true, decide_eq_true_eq] at h
    obtain (((h | rfl) | rfl) | rfl) | rfl := h
    · have hrows := Ascii.toNat_of_isAlphanum h
      omega
    all_goals decide
  all_goals
    rintro rfl
    cases h

theorem encodeChar_eq (c : Char) : encodeChar c = (String.utf8EncodeChar c).flatMap encodeByte := by
  rw [encodeChar, Bytes.ofString_eq, String.toList_singleton, List.flatMap_singleton]

/-- An escape is a percent sign and digits. -/
theorem mem_encodeChar {c d : Char} (h : d ∈ encodeChar c) :
    d = '%' ∨ ∃ n < 16, d = Hex.upperDigit n := by
  rw [encodeChar_eq, List.mem_flatMap] at h
  obtain ⟨b, -, hd⟩ := h
  have hb := b.toNat_lt
  simp only [encodeByte, List.mem_cons, List.not_mem_nil, or_false] at hd
  obtain rfl | rfl | rfl := hd
  · exact .inl rfl
  · exact .inr ⟨_, by omega, rfl⟩
  · exact .inr ⟨_, by omega, rfl⟩

theorem spaced_encodeByte (b : UInt8) : spaced (encodeByte b) = encodeByte b := by
  have hb := b.toNat_lt
  have hhi := (upperDigit_ne (show b.toNat / 16 < 16 by omega)).1
  have hlo := (upperDigit_ne (show b.toNat % 16 < 16 by omega)).1
  simp [spaced, encodeByte, hhi, hlo]

theorem spaced_encodeBytes (bytes : Bytes) :
    spaced (bytes.flatMap encodeByte) = bytes.flatMap encodeByte := by
  induction bytes with
  | nil => rfl
  | cons b bytes ih =>
    have happend : ∀ xs ys, spaced (xs ++ ys) = spaced xs ++ spaced ys := fun xs ys =>
      List.map_append
    rw [List.flatMap_cons, happend, spaced_encodeByte, ih]

/-- What is written for a character is read as its bytes. -/
theorem decodeInto_formChar (pending : Bytes) (done : List Char) (c : Char) (rest : List Char) :
    decodeInto pending done (spaced (formChar c) ++ rest) =
      decodeInto ((String.utf8EncodeChar c).reverse ++ pending) done rest := by
  unfold formChar
  split
  · rename_i h
    obtain ⟨hascii, hpercent, hplus, -⟩ := unreserved_props h
    rw [Ascii.utf8EncodeChar_eq_singleton hascii]
    simpa [spaced, hplus] using decodeInto_ascii pending done hascii hpercent rest
  · split
    · rename_i h
      subst h
      exact decodeInto_ascii pending done (by decide) (by decide) rest
    · rw [encodeChar_eq, spaced_encodeBytes, decodeInto_encodeBytes]

theorem decodeInto_formEncode (pending : Bytes) (cs : List Char) :
    decodeInto pending [] (spaced (cs.flatMap formChar)) =
      Utf8.decodeLossy (pending.reverse ++ cs.flatMap String.utf8EncodeChar) := by
  induction cs generalizing pending with
  | nil => simp [spaced, decodeInto]
  | cons c cs ih =>
    have happend : spaced ((c :: cs).flatMap formChar) =
        spaced (formChar c) ++ spaced (cs.flatMap formChar) := by
      rw [List.flatMap_cons]
      exact List.map_append
    rw [happend, decodeInto_formChar, ih]
    simp

/-- A name or value is read as it was. -/
theorem formDecode_formEncode (s : String) : formDecode (formEncode s) = s := by
  have hread := decodeInto_formEncode [] s.toList
  rw [List.reverse_nil, List.nil_append, ← Bytes.ofString_eq, Utf8.decodeLossy_ofString] at hread
  rw [formDecode, decode, formEncode]
  exact (congrArg String.ofList hread).trans String.ofList_toList

/-! ## Pairs -/

theorem not_mem_encodeByte (b : UInt8) : '&' ∉ encodeByte b ∧ '=' ∉ encodeByte b := by
  have hb := b.toNat_lt
  have hhi := (upperDigit_ne (show b.toNat / 16 < 16 by omega)).2
  have hlo := (upperDigit_ne (show b.toNat % 16 < 16 by omega)).2
  simp [encodeByte, hhi.1.symm, hhi.2.symm, hlo.1.symm, hlo.2.symm]

/-- Nothing that is written for a name or value divides pairs, or a name from a value. -/
theorem not_mem_formEncode (s : String) : '&' ∉ formEncode s ∧ '=' ∉ formEncode s := by
  have hchar : ∀ c, '&' ∉ formChar c ∧ '=' ∉ formChar c := by
    intro c
    unfold formChar
    split
    · rename_i h
      obtain ⟨-, -, -, hand, heq⟩ := unreserved_props h
      simp [hand.symm, heq.symm]
    · split
      · simp
      · rw [encodeChar_eq]
        simp [not_mem_encodeByte]
  simp [formEncode, hchar]

theorem readPair_formPair (pair : String × String) : readPair (formPair pair) = pair := by
  have hname : ∀ c ∈ formEncode pair.1, decide (c ≠ '=') = true := by
    intro c hc
    simp only [decide_eq_true_eq]
    rintro rfl
    exact (not_mem_formEncode pair.1).2 hc
  rw [readPair, formPair, List.takeWhile_append_of_pos hname, List.dropWhile_append_of_pos hname]
  simp [formDecode_formEncode]

/-- Pairs are read as they were. -/
theorem readPairs_formPairs (pairs : List (String × String)) :
    readPairs (formPairs pairs) = pairs := by
  have hpiece : ∀ pair, '&' ∉ formPair pair := by
    intro pair
    simp [formPair, (not_mem_formEncode pair.1).1, (not_mem_formEncode pair.2).1]
  have hne : ∀ pair, (formPair pair).isEmpty = false := by
    intro pair
    simp [formPair]
  induction pairs with
  | nil => rfl
  | cons pair rest ih =>
    cases rest with
    | nil =>
      rw [formPairs, readPairs, List.splitOn_eq_singleton (hpiece pair)]
      simp [hne, readPair_formPair]
    | cons next rest =>
      rw [readPairs] at ih ⊢
      rw [formPairs, List.splitOn_append_cons_self_of_not_mem (hpiece pair), List.filter_cons]
      simp only [hne, Bool.not_false, if_true, List.map_cons, readPair_formPair, ih]
      exact fun h => by cases h

end Paygate.Percent
