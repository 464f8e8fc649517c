import Paygate.Federation.Resolver
import Paygate.Proofs.Federation.Record
import Paygate.Proofs.Http.Exchanges

/-!
# What the resolver sends and returns

* `resolver_asks`: the resolver only asks, it posts nothing.
* `resolve_whole`: the memo fields of its records are both given and not empty, or both absent.
* `make_of_resolver`: so each of them makes a destination.
-/

namespace Paygate.Federation

open Http (Network)

/-! ## Requests -/

theorem askServer_world (server address : Str) (network : Network) :
    (askServer server address network).2 = (network.get server (query address)).2 := by
  unfold askServer
  split <;> simp_all

theorem findServer_world (scheme : String) (domain : Str) (network : Network) :
    (findServer scheme domain network).2 = (network.get (tomlUrl scheme domain) []).2 := by
  unfold findServer
  dsimp only
  split <;> simp_all

theorem resolve_asks (scheme : String) (address : Str) (network : Network) :
    Network.Asks network (resolve scheme address network).2 := by
  unfold resolve
  split
  · exact .refl network
  · split
    · exact .refl network
    · exact .refl network
    · rename_i parts _
      have hfound := network.get_asks (tomlUrl scheme parts.domain) []
      rw [← Network.get, ← findServer_world] at hfound
      split
      · rename_i hserver
        rwa [hserver] at hfound
      · rename_i server after hserver
        rw [hserver] at hfound
        have hasked := after.get_asks server (query address)
        rw [← Network.get, ← askServer_world] at hasked
        exact hfound.trans hasked

/-- The resolver only asks. -/
theorem resolver_asks (scheme : String) (address : Field) (network : Network) :
    Network.Asks network (resolver scheme address network).world := by
  cases address with
  | upload => exact .refl network
  | text address =>
    have hasks := resolve_asks scheme address network
    unfold resolver
    dsimp only
    split <;> simp_all

/-! ## Records -/

section

variable {record : FederationRecord}

theorem recordOf_whole {server : Str} {response : Http.Response} (h : recordOf server response = .ok record) :
    record.Whole := by
  unfold recordOf at h
  split at h
  · split at h
    · cases h
    · cases h
    · exact (FederationRecord.ofJson_eq_ok_iff.mp h).1.isWhole
  · cases h

theorem resolve_whole {scheme : String} {address : Str} {network : Network}
    (h : (resolve scheme address network).1 = .ok record) : record.Whole := by
  unfold resolve at h
  split at h
  · cases h
  · split at h
    · cases h
    · cases h
      exact .inl ⟨rfl, rfl⟩
    · split at h
      · cases h
      · unfold askServer at h
        split at h
        · cases h
        · exact recordOf_whole h

theorem resolver_whole {scheme : String} {address : Field} {network : Network}
    (h : (resolver scheme address network).value = .ok record) : record.Whole := by
  cases address with
  | upload => cases h
  | text address =>
    unfold resolver at h
    dsimp only at h
    split at h
    · rename_i hresolve
      cases h
      exact resolve_whole (congrArg Prod.fst hresolve)
    · cases h
    · cases h

/-- A record whose memo fields come together makes a destination. -/
theorem make_of_paired (h : record.Paired) (account : String) :
    ∃ destination, Destination.make account record.memoType record.memo = .ok destination := by
  unfold FederationRecord.Paired at h
  unfold Destination.make
  split
  · exact ⟨_, rfl⟩
  · exact ⟨_, rfl⟩
  · cases hkind : record.memoType <;> cases hvalue : record.memo <;> simp_all

/-- A record of the resolver makes a destination. -/
theorem make_of_resolver {scheme : String} {address : Field} {network : Network}
    (h : (resolver scheme address network).value = .ok record) (account : String) :
    ∃ destination, Destination.make account record.memoType record.memo = .ok destination :=
  make_of_paired (resolver_whole h).paired account

end

end Paygate.Federation
