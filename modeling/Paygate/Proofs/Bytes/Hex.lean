import Mathlib.Tactic.SplitIfs
import Paygate.Bytes.Hex
import Paygate.Proofs.Text.Ascii

/-!
# What hexadecimal texts are read as

* `IsDigit`: the characters that are digits.
* `decode?_eq_some_iff`: bytes are read from exactly the texts of digits that are, in lower case, what
  the bytes are written as.
* `length_of_decode?`: two digits for each byte.
* `decode?_encode`: what is written is read back.
-/

namespace Paygate.Hex

/-- The characters that are digits, in either case. -/
def IsDigit (c : Char) : Prop :=
  ('0' ≤ c ∧ c ≤ '9') ∨ ('a' ≤ c ∧ c ≤ 'f') ∨ ('A' ≤ c ∧ c ≤ 'F')

variable {c : Char} {cs : List Char} {bytes : Bytes} {v : Nat}

theorem IsDigit.exists_value? (h : IsDigit c) : ∃ v, value? c = some v := by
  unfold value?
  split_ifs with hdecimal hlower hupper
  · exact ⟨_, rfl⟩
  · exact ⟨_, rfl⟩
  · exact ⟨_, rfl⟩
  · exact absurd h (by simp [IsDigit, hdecimal, hlower, hupper])

theorem isDigit_of_value? (h : value? c = some v) : IsDigit c := by
  unfold value? at h
  split_ifs at h with hdecimal hlower hupper
  · exact .inl hdecimal
  · exact .inr (.inl hlower)
  · exact .inr (.inr hupper)

theorem IsDigit.toNat_lt (h : IsDigit c) : c.toNat < 128 := by
  have hbound : ∀ d : Char, c ≤ d → d.toNat < 128 → c.toNat < 128 := fun d hle hd =>
    Nat.lt_of_le_of_lt hle hd
  rcases h with ⟨-, h⟩ | ⟨-, h⟩ | ⟨-, h⟩
  · exact hbound _ h (by decide)
  · exact hbound _ h (by decide)
  · exact hbound _ h (by decide)

/-- A digit is written in lower case for the value that it is read as. -/
theorem digit_of_value? (h : value? c = some v) : v < 16 ∧ digit v = c.toLower := by
  have hall : ∀ n < 128, ∀ v ∈ value? (Char.ofNat n), v < 16 ∧ digit v = (Char.ofNat n).toLower := by
    decide +kernel
  exact Ascii.forall_ascii (P := fun c => ∀ v ∈ value? c, v < 16 ∧ digit v = c.toLower) hall
    (isDigit_of_value? h).toNat_lt v h

theorem value?_digit (h : v < 16) : value? (digit v) = some v := by
  have hall : ∀ n < 16, value? (digit n) = some n := by decide
  exact hall v h

/-- A digit is read as the value that is written as it. -/
theorem IsDigit.value?_eq (h : IsDigit c) (hv : v < 16) (hdigit : digit v = c.toLower) :
    value? c = some v := by
  obtain ⟨w, hw⟩ := h.exists_value?
  obtain ⟨hlt, hlower⟩ := digit_of_value? hw
  have hsame : some w = some v := by
    rw [← value?_digit hlt, ← value?_digit hv, hlower, hdigit]
  exact hw.trans hsame

theorem halves_lt (b : UInt8) : b.toNat / 16 < 16 ∧ b.toNat % 16 < 16 := by
  have hb := b.toNat_lt
  omega

theorem encodeChars_cons (b : UInt8) (bytes : Bytes) :
    encodeChars (b :: bytes) = digit (b.toNat / 16) :: digit (b.toNat % 16) :: encodeChars bytes := rfl

theorem length_encodeChars (bytes : Bytes) : (encodeChars bytes).length = 2 * bytes.length := by
  induction bytes with
  | nil => rfl
  | cons b bytes ih =>
    rw [encodeChars_cons, List.length_cons, List.length_cons, List.length_cons, ih]
    omega

theorem encodeChars_of_decodeChars? (h : decodeChars? cs = some bytes) :
    (∀ c ∈ cs, IsDigit c) ∧ encodeChars bytes = cs.map Char.toLower := by
  fun_induction decodeChars? cs generalizing bytes with
  | case1 =>
    cases h
    exact ⟨List.forall_mem_nil _, rfl⟩
  | case2 => cases h
  | case3 hi lo rest ih =>
    obtain ⟨v, hv, h⟩ := Option.bind_eq_some_iff.mp h
    obtain ⟨w, hw, h⟩ := Option.bind_eq_some_iff.mp h
    obtain ⟨bytes, hbytes, h⟩ := Option.bind_eq_some_iff.mp h
    cases h
    obtain ⟨hdigits, hwritten⟩ := ih hbytes
    obtain ⟨hvlt, hvdigit⟩ := digit_of_value? hv
    obtain ⟨hwlt, hwdigit⟩ := digit_of_value? hw
    refine ⟨List.forall_mem_cons.mpr ⟨isDigit_of_value? hv,
      List.forall_mem_cons.mpr ⟨isDigit_of_value? hw, hdigits⟩⟩, ?_⟩
    have hbyte : (UInt8.ofNat (16 * v + w)).toNat = 16 * v + w :=
      UInt8.toNat_ofNat_of_lt' (show 16 * v + w < 256 by omega)
    have hhigh : (16 * v + w) / 16 = v := by omega
    have hlow : (16 * v + w) % 16 = w := by omega
    rw [encodeChars_cons, hbyte, hhigh, hlow, hvdigit, hwdigit, hwritten, List.map_cons, List.map_cons]

/-- Two digits are read as the byte that they are the halves of. -/
theorem decodeChars?_pair {hi lo : Char} {b : UInt8} (hhi : value? hi = some (b.toNat / 16))
    (hlo : value? lo = some (b.toNat % 16)) :
    decodeChars? (hi :: lo :: cs) = (decodeChars? cs).map (b :: ·) := by
  have hbyte : UInt8.ofNat (16 * (b.toNat / 16) + b.toNat % 16) = b := by
    rw [Nat.div_add_mod, UInt8.ofNat_toNat]
  rw [decodeChars?, hhi, hlo]
  simp only [bind, Option.bind, hbyte]
  cases decodeChars? cs <;> rfl

theorem decodeChars?_of_encodeChars (hdigits : ∀ c ∈ cs, IsDigit c)
    (hwritten : encodeChars bytes = cs.map Char.toLower) : decodeChars? cs = some bytes := by
  induction bytes generalizing cs with
  | nil =>
    obtain rfl := List.map_eq_nil_iff.mp hwritten.symm
    rfl
  | cons b bytes ih =>
    obtain ⟨hi, rest, rfl, hhi, hrest⟩ := List.map_eq_cons_iff.mp hwritten.symm
    obtain ⟨lo, rest, rfl, hlo, hrest⟩ := List.map_eq_cons_iff.mp hrest
    rw [List.forall_mem_cons, List.forall_mem_cons] at hdigits
    obtain ⟨hhiDigit, hloDigit, hdigits⟩ := hdigits
    obtain ⟨hhigh, hlow⟩ := halves_lt b
    rw [decodeChars?_pair (hhiDigit.value?_eq hhigh hhi.symm) (hloDigit.value?_eq hlow hlo.symm),
      ih hdigits hrest.symm]
    rfl

/-- Bytes are read from exactly the texts of digits that are, in lower case, what the bytes are written
as. -/
theorem decode?_eq_some_iff {text : String} : decode? text = some bytes ↔
    (∀ c ∈ text.toList, IsDigit c) ∧ encode bytes = text.toLower := by
  have hlower : encode bytes = text.toLower ↔ encodeChars bytes = text.toList.map Char.toLower := by
    have hmap : text.toLower = text.map Char.toLower := rfl
    rw [hmap, ← String.toList_inj, String.toList_map, encode, String.toList_ofList]
  rw [hlower]
  exact ⟨encodeChars_of_decodeChars?, fun h => decodeChars?_of_encodeChars h.1 h.2⟩

theorem length_of_decode? {text : String} (h : decode? text = some bytes) :
    text.length = 2 * bytes.length := by
  have hlength := congrArg List.length (encodeChars_of_decodeChars? h).2
  rw [length_encodeChars, List.length_map, String.length_toList] at hlength
  exact hlength.symm

/-- Reading gives back the bytes that were written. -/
theorem decode?_encode (bytes : Bytes) : decode? (encode bytes) = some bytes := by
  rw [decode?, encode, String.toList_ofList]
  induction bytes with
  | nil => rfl
  | cons b bytes ih =>
    obtain ⟨hhigh, hlow⟩ := halves_lt b
    rw [encodeChars_cons, decodeChars?_pair (value?_digit hhigh) (value?_digit hlow), ih]
    rfl

end Paygate.Hex
