import Paygate.Federation.Address
import Paygate.Proofs.Text.Splitting

/-!
# What a federation address is

* `Address.Divides`, `Address.exists_divides`: the last `*` of a text divides it in two.
* `Address.parse_eq_none_iff`: a text without `*` is no federation address.
* `Address.parse_of_divides`, `Address.parse_eq_some_iff`: any other is one, unless a part is empty.
-/

namespace Paygate.Federation.Address

theorem split?_eq_none_iff {points : List Point} : split? points = none ↔ Point.char '*' ∉ points := by
  simp [split?]

theorem split?_append {name domain : List Point} (hdomain : Point.char '*' ∉ domain) :
    split? (name ++ .char '*' :: domain) = some (name, domain) := by
  have hlast := Text.span_reverse_last name hdomain
  rw [List.span_eq_takeWhile_dropWhile, Prod.mk.injEq] at hlast
  unfold split?
  rw [if_pos (by simp), hlast.1, hlast.2]
  simp

theorem split?_eq_some_iff {points name domain : List Point} :
    split? points = some (name, domain) ↔
      points = name ++ .char '*' :: domain ∧ Point.char '*' ∉ domain := by
  constructor
  · intro h
    have hstar : Point.char '*' ∈ points := by
      by_contra hnone
      cases h.symm.trans (split?_eq_none_iff.mpr hnone)
    obtain ⟨name', domain', rfl, hdomain⟩ := Text.exists_last hstar
    rw [split?_append hdomain] at h
    cases h
    exact ⟨rfl, hdomain⟩
  · rintro ⟨rfl, hdomain⟩
    exact split?_append hdomain

/-- A text divides into a name and a domain at its last `*`. -/
def Divides (text name domain : Str) : Prop :=
  text = name ++ .whole "*" ++ domain ∧ Point.char '*' ∉ domain.points

variable {text name domain : Str}

theorem divides_iff : Divides text name domain ↔ split? text.points = some (name.points, domain.points) := by
  rw [split?_eq_some_iff, Divides, ← Str.points_inj]
  simp

theorem Divides.ne_empty (h : Divides text name domain) : text ≠ "" := by
  rw [ne_eq, ← Str.points_eq_nil, h.1]
  simp

theorem exists_divides (h : Point.char '*' ∈ text.points) : ∃ name domain, Divides text name domain := by
  obtain ⟨name, domain, hsplit⟩ := Text.exists_last h
  refine ⟨.ofPoints name, .ofPoints domain, divides_iff.mpr ?_⟩
  rw [split?_eq_some_iff, Str.points_ofPoints, Str.points_ofPoints]
  exact hsplit

theorem parse_of_divides (h : Divides text name domain) :
    parse text = if name = "" ∨ domain = "" then .error (.malformedAddress text)
      else .ok (some ⟨name, domain⟩) := by
  unfold parse
  rw [divides_iff.mp h]
  simp

theorem parse_eq_none_iff : parse text = .ok none ↔ Point.char '*' ∉ text.points := by
  constructor
  · intro h hstar
    obtain ⟨name, domain, hdivides⟩ := exists_divides hstar
    rw [parse_of_divides hdivides] at h
    split at h <;> cases h
  · intro h
    rw [parse, split?_eq_none_iff.mpr h]

/-- Name and domain are what stands before and after the last `*`, and neither is empty. -/
theorem parse_eq_some_iff :
    parse text = .ok (some ⟨name, domain⟩) ↔ Divides text name domain ∧ name ≠ "" ∧ domain ≠ "" := by
  constructor
  · intro h
    have hstar : Point.char '*' ∈ text.points := by
      by_contra hnone
      cases h.symm.trans (parse_eq_none_iff.mpr hnone)
    obtain ⟨name', domain', hdivides⟩ := exists_divides hstar
    rw [parse_of_divides hdivides] at h
    split at h <;> cases h
    rename_i hempty
    exact ⟨hdivides, not_or.mp hempty⟩
  · rintro ⟨hdivides, hempty⟩
    rw [parse_of_divides hdivides, if_neg (not_or.mpr hempty)]

example : parse "a*b*example.com" = .ok (some ⟨"a*b", "example.com"⟩) := by decide +kernel

end Paygate.Federation.Address
