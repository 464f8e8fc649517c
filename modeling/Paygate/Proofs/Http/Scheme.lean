import Paygate.Proofs.Http.Target

/-!
# Schemes in lower case

The scheme of a URL is brought into lower case when the URL is read, and whatever is done to it
afterwards keeps it so.

* `Url.Made.no_capital`: the scheme of a URL that is put together.
* `Http.scheme_of_target`: so the URL of every request has such a scheme.
-/

namespace Paygate

/-- No capital letter is left in a text in lower case. -/
theorem toLower_ne_S (c : Char) : c.toLower ≠ 'S' := by
  intro h
  unfold Char.toLower at h
  split at h
  · rename_i hupper
    have hval : c.val.toNat + 32 = 83 := by
      have hval := congrArg (fun c : Char => c.val.toNat) h
      have hle : c.val.toNat ≤ 90 := hupper.2
      have hadd : (c.val + ('a'.val - 'A'.val)).toNat = (c.val.toNat + 32) % 4294967296 := rfl
      rw [Nat.mod_eq_of_lt (by omega)] at hadd
      exact hadd.symm.trans hval
    have hge : 65 ≤ c.val.toNat := hupper.1
    omega
  · rename_i hupper
    subst h
    exact hupper (by decide)

theorem Url.Made.no_capital {parts : Url.Parts} {url : Url} (h : Made parts url) :
    'S' ∉ url.scheme.toList := by
  rw [h.scheme, List.mem_map]
  rintro ⟨c, -, hc⟩
  exact toLower_ne_S c hc

namespace Http

theorem scheme_of_target {address : Str} {parameters : List (String × Str)} {url : Url}
    (h : target address parameters = .ok url) : 'S' ∉ url.scheme.toList := by
  obtain ⟨_, parsed, rooted, -, hparsed, hrooted, hlast⟩ := target_cases h
  split at hlast
  · subst hlast
    unfold Url.rooted at hrooted
    split at hrooted
    · cases hrooted
      exact (Url.made_of_parse hparsed).no_capital
    · exact (Url.made_of_rebuild hrooted).no_capital
  · obtain ⟨pairs, -, hquery⟩ := hlast
    exact (Url.made_of_rebuild hquery).no_capital

end Http

end Paygate
