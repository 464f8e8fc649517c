import Paygate.Proofs.Federation.Lookup

/-!
# Where a federation address divides

A text with a `*` divides in one way only, at its last one. It is an address if neither part is empty, and
malformed otherwise. However many `*` the name has, the domain has none, and it is the one that a lookup
asks first.

* `Address.Divides.unique`: a text divides in one way only.
* `Address.Writes`: the address that a text writes, if it writes one.
* `Address.parse_eq_error_iff`: which texts are malformed.
* `lookup_domain`: whom a lookup asks first.
* `Address.divided_exactly`: all of it.
-/

namespace Paygate.Federation

open Http (Goes Network)

namespace Address

variable {text name domain : Str} {address address' : Address}

/-- A text divides in one way only. -/
theorem Divides.unique {name' domain' : Str} (h : Divides text name domain)
    (h' : Divides text name' domain') : name = name' ∧ domain = domain' := by
  have hsplit := (divides_iff.mp h).symm.trans (divides_iff.mp h')
  obtain ⟨hname, hdomain⟩ := Prod.mk.inj (Option.some.inj hsplit)
  exact ⟨Str.points_injective hname, Str.points_injective hdomain⟩

/-- The text is the name and the domain of the address with a `*` between them. -/
structure Writes (text : Str) (address : Address) : Prop where
  text_eq : text = address.name ++ .whole "*" ++ address.domain
  name_ne : address.name ≠ ""
  domain_ne : address.domain ≠ ""
  domain_free : Point.char '*' ∉ address.domain.points

theorem Writes.divides (h : Writes text address) : Divides text address.name address.domain :=
  ⟨h.text_eq, h.domain_free⟩

theorem Writes.unique (h : Writes text address) (h' : Writes text address') : address = address' := by
  obtain ⟨hname, hdomain⟩ := h.divides.unique h'.divides
  cases address
  cases address'
  rw [Address.mk.injEq]
  exact ⟨hname, hdomain⟩

theorem parse_eq_some_iff_writes : parse text = .ok (some address) ↔ Writes text address := by
  rw [parse_eq_some_iff]
  constructor
  · intro h
    obtain ⟨⟨htext, hfree⟩, hname, hdomain⟩ := h
    exact ⟨htext, hname, hdomain, hfree⟩
  · intro h
    exact ⟨h.divides, h.name_ne, h.domain_ne⟩

/-- The malformed texts are those with a `*` that write no address. -/
theorem parse_eq_error_iff {e : Error} : parse text = .error e ↔
    e = .malformedAddress text ∧ Point.char '*' ∈ text.points ∧ ∀ address, ¬ Writes text address := by
  constructor
  · intro h
    have hstar : Point.char '*' ∈ text.points := by
      by_contra hplain
      cases h.symm.trans (parse_eq_none_iff.mpr hplain)
    have hnone : ∀ address, ¬ Writes text address := by
      intro address hwrites
      cases h.symm.trans (parse_eq_some_iff_writes.mpr hwrites)
    obtain ⟨name, domain, hdivides⟩ := exists_divides hstar
    rw [parse_of_divides hdivides] at h
    split at h
    · exact ⟨(Except.error.inj h).symm, hstar, hnone⟩
    · cases h
  · rintro ⟨rfl, hstar, hnone⟩
    cases hparse : parse text with
    | ok found =>
      cases found with
      | none => exact absurd hstar (parse_eq_none_iff.mp hparse)
      | some address => exact absurd (parse_eq_some_iff_writes.mp hparse) (hnone address)
    | error e =>
      obtain ⟨name, domain, hdivides⟩ := exists_divides hstar
      rw [parse_of_divides hdivides] at hparse
      split at hparse <;> cases hparse
      rfl

end Address

/-- The first request of a lookup, if there is one, asks the domain of the address. -/
theorem lookup_domain (scheme : String) (text : Str) (network : Network) :
    ∃ requests, network.Sends requests (resolve scheme text network).2 ∧
      ∀ request ∈ requests.head?, ∃ address url, Address.Writes text address ∧
        Goes (tomlUrl scheme address.domain) [] url ∧ request = .ask url := by
  by_cases hfound : ∃ address, Address.parse text = .ok (some address)
  · obtain ⟨address, hparse⟩ := hfound
    obtain ⟨requests, hlookup⟩ : ∃ requests, Lookup scheme text address.domain network requests :=
      exists_lookup hparse
    refine ⟨requests, hlookup.sends, fun request hfirst => ?_⟩
    obtain ⟨url, hgoes, rfl⟩ := hlookup.asked.head? hfirst
    exact ⟨address, url, Address.parse_eq_some_iff_writes.mp hparse, hgoes, rfl⟩
  · have hsame : (resolve scheme text network).2 = network := resolve_world_of_local (not_exists.mp hfound)
    rw [hsame]
    exact ⟨[], .refl network, nofun⟩

namespace Address

/-- What every text is read as.

* It is no federation address if and only if it has no `*`.
* It is read as an address if and only if it writes that address, and it writes one at most.
* It is malformed in every other case.
* The first request of a lookup, if there is one, goes to the domain of the address that the text writes. -/
theorem divided_exactly (text : Str) :
    (parse text = .ok none ↔ Point.char '*' ∉ text.points) ∧
    (∀ address, parse text = .ok (some address) ↔ Writes text address) ∧
    (∀ address address', Writes text address → Writes text address' → address = address') ∧
    (∀ e, parse text = .error e ↔
      e = .malformedAddress text ∧ Point.char '*' ∈ text.points ∧ ∀ address, ¬ Writes text address) ∧
    ∀ (scheme : String) (network : Network),
      ∃ requests, network.Sends requests (resolve scheme text network).2 ∧
      ∀ request ∈ requests.head?, ∃ address url, Writes text address ∧
        Goes (tomlUrl scheme address.domain) [] url ∧ request = .ask url :=
  ⟨parse_eq_none_iff, fun _ => parse_eq_some_iff_writes, fun _ _ => Writes.unique,
    fun _ => parse_eq_error_iff, fun scheme network => lookup_domain scheme text network⟩

end Address

end Paygate.Federation
