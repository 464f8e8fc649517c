import Mathlib.Data.List.Infix
import Mathlib.Logic.Function.Basic
import Paygate.Payment.Request
import Paygate.Proofs.Text.Decimal

/-!
# The names of legs

The two names of a leg hold its index as a decimal text. So the names of different indexes differ, no
code is named like an issuer, and a name that spells its index in another way belongs to no leg.

* `Form.codeNameOf_injective`, `Form.issuerNameOf_injective`, `Form.codeNameOf_ne_issuerNameOf`: names
  are told apart, whatever stands in the place of the index.
* `Form.legNames`: the names that a path with a number of legs is read from.
* `Form.codeNameOf_mem_legNames_iff`, `Form.issuerNameOf_mem_legNames_iff`: which names these are.
-/

namespace Paygate

theorem Text.toString_injective {m n : Nat} (h : toString m = toString n) : m = n := by
  have hdigits : Nat.toDigits 10 m = Nat.toDigits 10 n := String.ofList_injective h
  calc
    m = Nat.ofDigitChars 10 (Nat.toDigits 10 m) 0 := Nat.ofDigitChars_ten_toDigits.symm
    _ = n := by rw [hdigits, Nat.ofDigitChars_ten_toDigits]

namespace Form

/-- The name of a code with this text in the place of its index. -/
def codeNameOf (index : String) : String := "path[" ++ index ++ "][asset_code]"

/-- The name of an issuer with this text in the place of its index. -/
def issuerNameOf (index : String) : String := "path[" ++ index ++ "][asset_issuer]"

variable {index other : String} {i n : Nat}

/-! ## Names apart -/

theorem codeNameOf_injective (h : codeNameOf index = codeNameOf other) : index = other := by
  have hchars := congrArg String.toList h
  simp only [codeNameOf, String.toList_append, List.append_cancel_right_eq,
    List.append_cancel_left_eq] at hchars
  exact String.toList_injective hchars

theorem issuerNameOf_injective (h : issuerNameOf index = issuerNameOf other) : index = other := by
  have hchars := congrArg String.toList h
  simp only [issuerNameOf, String.toList_append, List.append_cancel_right_eq,
    List.append_cancel_left_eq] at hchars
  exact String.toList_injective hchars

theorem codeName_injective : Function.Injective codeName :=
  fun _ _ h => Text.toString_injective (codeNameOf_injective h)

theorem issuerName_injective : Function.Injective issuerName :=
  fun _ _ h => Text.toString_injective (issuerNameOf_injective h)

/-- The names of codes and of issuers differ at their ends. -/
theorem codeNameOf_ne_issuerNameOf (index other : String) : codeNameOf index ≠ issuerNameOf other := by
  intro h
  have hcode : "][asset_code]".toList <:+ (codeNameOf index).toList := by
    rw [codeNameOf, String.toList_append]
    exact List.suffix_append _ _
  have hissuer : "][asset_issuer]".toList <:+ (codeNameOf index).toList := by
    rw [h, issuerNameOf, String.toList_append]
    exact List.suffix_append _ _
  have hsuffix := List.suffix_of_suffix_length_le hcode hissuer (by decide)
  revert hsuffix
  decide

/-! ## Spellings -/

/-- The text is not how an index is written: it has a character that is no digit, or zeros in front. -/
def Misspells (index : String) : Prop :=
  (∃ c ∈ index.toList, c.isDigit = false) ∨ ∃ rest, rest ≠ [] ∧ index.toList = '0' :: rest

theorem Misspells.ne_toString (h : Misspells index) (i : Nat) : index ≠ toString i := by
  rintro rfl
  have htext : (toString i).toList = Nat.toDigits 10 i := Nat.toList_repr
  rw [Misspells, htext] at h
  rcases h with ⟨c, hc, hdigit⟩ | ⟨rest, hrest, hzero⟩
  · rw [Nat.isDigit_of_mem_toDigits (by omega) (by omega) hc] at hdigit
    cases hdigit
  · by_cases hi : i = 0
    · subst hi
      cases hzero
      exact hrest rfl
    · exact Text.head_toDigits_ne hi (by rw [hzero]; rfl)

/-! ## The names of a path -/

/-- The names of the codes of `n` legs. -/
def codeNames (n : Nat) : List String := (List.range n).map codeName

/-- The names that a path of `n` legs is read from: the codes of its legs, the code that would come
next, and the issuers of its legs. -/
def legNames (n : Nat) : List String := codeNames (n + 1) ++ (List.range n).map issuerName

theorem codeName_mem_legNames (h : i ≤ n) : codeName i ∈ legNames n :=
  List.mem_append_left _ (List.mem_map_of_mem (List.mem_range.mpr (by omega)))

theorem issuerName_mem_legNames (h : i < n) : issuerName i ∈ legNames n :=
  List.mem_append_right _ (List.mem_map_of_mem (List.mem_range.mpr h))

theorem codeNameOf_mem_legNames_iff : codeNameOf index ∈ legNames n ↔ ∃ i ≤ n, index = toString i := by
  constructor
  · intro h
    rcases List.mem_append.mp h with hcode | hissuer
    · obtain ⟨i, hi, hname⟩ := List.mem_map.mp hcode
      exact ⟨i, Nat.le_of_lt_succ (List.mem_range.mp hi), (codeNameOf_injective hname).symm⟩
    · obtain ⟨i, -, hname⟩ := List.mem_map.mp hissuer
      exact absurd hname.symm (codeNameOf_ne_issuerNameOf _ _)
  · rintro ⟨i, hi, rfl⟩
    exact codeName_mem_legNames hi

theorem issuerNameOf_mem_legNames_iff : issuerNameOf index ∈ legNames n ↔ ∃ i < n, index = toString i := by
  constructor
  · intro h
    rcases List.mem_append.mp h with hcode | hissuer
    · obtain ⟨i, -, hname⟩ := List.mem_map.mp hcode
      exact absurd hname (codeNameOf_ne_issuerNameOf _ _)
    · obtain ⟨i, hi, hname⟩ := List.mem_map.mp hissuer
      exact ⟨i, List.mem_range.mp hi, (issuerNameOf_injective hname).symm⟩
  · rintro ⟨i, hi, rfl⟩
    exact issuerName_mem_legNames hi

theorem codeName_mem_legNames_iff : codeName i ∈ legNames n ↔ i ≤ n := by
  refine ⟨fun h => ?_, codeName_mem_legNames⟩
  obtain ⟨j, hj, hindex⟩ := codeNameOf_mem_legNames_iff.mp h
  rwa [Text.toString_injective hindex]

theorem issuerName_mem_legNames_iff : issuerName i ∈ legNames n ↔ i < n := by
  refine ⟨fun h => ?_, issuerName_mem_legNames⟩
  obtain ⟨j, hj, hindex⟩ := issuerNameOf_mem_legNames_iff.mp h
  rwa [Text.toString_injective hindex]

/-- A name that misspells its index is the name of no leg. -/
theorem Misspells.not_mem_legNames (h : Misspells index) (n : Nat) :
    codeNameOf index ∉ legNames n ∧ issuerNameOf index ∉ legNames n := by
  rw [codeNameOf_mem_legNames_iff, issuerNameOf_mem_legNames_iff]
  exact ⟨fun ⟨i, _, hindex⟩ => h.ne_toString i hindex, fun ⟨i, _, hindex⟩ => h.ne_toString i hindex⟩

end Form

end Paygate
