import Paygate.Proofs.Payment.Keys
import Paygate.Proofs.Pipeline.Keys
import Paygate.Proofs.Pipeline.Memo

/-!
# Account keys and seeds are never taken for each other

* `Kept`: what an accepted seed is read as, and where it is never let through.
* `keys_canonical`: account keys and seeds are accepted in their one spelling, and no text is both.
-/

namespace Paygate

open StrKey (Spells AccountKey publicKey)

/-- A seed stands for the account of its public key, and passes for no account key: not as the account
that it signs for, not as a destination, and not as an issuer, neither in a request nor in the builder. -/
structure Kept (seed account : String) : Prop where
  derived : ∃ key : Bytes32, StrKey.decode? .seed seed = some key ∧
    StrKey.decode? .account account = some (publicKey key)
  accepted : ∀ error, AccountId.validate (.text account) error = .ok account
  rejected : ∀ error, AccountId.validate (.text seed) error = .error (.payment error)
  account_ne : account ≠ seed
  destination_ne : ∀ {ω : Type} (c : Collaborators ω) (address : Field) (w : ω) (destination : Destination),
    ((Pipeline.resolveDestination c address).run { world := w }).1 = .ok destination →
      destination.account ≠ seed
  issuer_ne : ∀ (request : PaymentRequest) (asset : IssuedAsset),
    request.asset = .ok (.issued asset) → asset.issuer ≠ .text seed
  built_issuer_ne : ∀ (asset : IssuedAsset) (built : Ledger.Asset),
    Builder.asset (.issued asset) = .ok built → asset.issuer ≠ .text seed

theorem Builder.accountKey_of_issuer {value : Field} {key : Bytes32} (h : issuer value = .ok key) :
    ∃ text : String, value = .text text ∧ AccountKey text := by
  unfold issuer at h
  split at h
  · cases h
  · cases h
  · rename_i text
    refine ⟨text, rfl, ?_⟩
    unfold accountKey at h
    split at h
    · rename_i payload hdecode
      exact StrKey.accountKey_of_isValid (Option.isSome_iff_exists.mpr ⟨payload, hdecode⟩)
    · cases h

theorem StrKey.AccountKey.ne_seed {text seed : String} (h : AccountKey text)
    (hseed : StrKey.isValid .seed seed = true) : text ≠ seed := by
  rintro rfl
  cases h.not_seed.symm.trans hseed

theorem kept_of_signer {raw : Str} {seed account : String}
    (h : PaymentRequest.signer (.text raw) = .ok (seed, account)) : Kept seed account := by
  obtain ⟨rfl, key, ⟨hseed, haccount⟩, -⟩ := PaymentRequest.signer_eq_ok_iff.mp h
  have hdecode : StrKey.decode? .seed seed = some key :=
    (StrKey.decode?_eq_some_iff_spells rfl).mpr hseed
  have hdecode' : StrKey.decode? .account account = some (publicKey key) :=
    (StrKey.decode?_eq_some_iff_spells rfl).mpr haccount
  have hvalid : StrKey.isValid .seed seed = true := Option.isSome_iff_exists.mpr ⟨_, hdecode⟩
  have hne : ∀ {text}, AccountKey text → text ≠ seed := fun hkey => hkey.ne_seed hvalid
  exact {
    derived := ⟨key, hdecode, hdecode'⟩
    accepted := fun _ => AccountId.validate_eq_ok_iff.mpr
      ⟨rfl, _, haccount, fun _ hother => hother.unique haccount⟩
    rejected := fun _ => AccountId.validate_eq_error_iff.mpr fun hspelled =>
      hne (StrKey.accountKey_of_isValid ((StrKey.isValid_iff rfl).mpr hspelled)) rfl
    account_ne := hne (PaymentRequest.signer_key h)
    destination_ne := fun c address w destination hrun => hne (Pipeline.resolves_of_run hrun).key
    issuer_ne := fun request asset hasset => by
      obtain ⟨key, hissuer, hkey⟩ := PaymentRequest.asset_vetted hasset
      rw [hissuer]
      exact fun heq => hne hkey (Str.whole.inj (Field.text.inj heq))
    built_issuer_ne := fun asset built hbuilt => by
      obtain ⟨_, -, hbuilt⟩ := bind_eq_ok.mp hbuilt
      obtain ⟨_, hissuer, -⟩ := bind_eq_ok.mp hbuilt
      obtain ⟨text, htext, hkey⟩ := Builder.accountKey_of_issuer hissuer
      rw [htext]
      exact fun heq => hne hkey (Str.whole.inj (Field.text.inj heq)) }

/-- A text is accepted as an account key, as it stands, if and only if it spells a key with the version
byte of accounts, and as a seed if and only if it spells one with that of seeds; it spells only one then.
Every 32 bytes are spelled in both ways, and no text is accepted as both. -/
theorem keys_canonical :
    (∀ raw error id, AccountId.validate (.text raw) error = .ok id ↔
      raw = id ∧ ∃! key : Bytes32, Spells .account key id) ∧
    (∀ raw seed account, PaymentRequest.signer (.text raw) = .ok (seed, account) ↔ raw = seed ∧
      ∃! key : Bytes32, Spells .seed key seed ∧ Spells .account (publicKey key) account) ∧
    (∀ key : Bytes32,
      (∃ raw, Spells .account key raw ∧ ∀ error, AccountId.validate (.text raw) error = .ok raw) ∧
      ∃ raw account, Spells .seed key raw ∧ PaymentRequest.signer (.text raw) = .ok (raw, account)) ∧
    (∀ raw error id, AccountId.validate (.text raw) error = .ok id →
      PaymentRequest.signer (.text raw) = .error (.payment .invalidSource)) ∧
    (∀ raw seed account, PaymentRequest.signer (.text raw) = .ok (seed, account) → Kept seed account) := by
  refine ⟨fun _ _ _ => AccountId.validate_eq_ok_iff, fun _ _ _ => PaymentRequest.signer_eq_ok_iff, ?_, ?_,
    fun _ _ _ => kept_of_signer⟩
  · intro key
    have haccount : Spells .account key (StrKey.encode .account key.1) := StrKey.spells_iff.mpr rfl
    have hseed : Spells .seed key (StrKey.encode .seed key.1) := StrKey.spells_iff.mpr rfl
    have hpublic : Spells .account (publicKey key) (StrKey.accountOfSeed key.1) := StrKey.spells_iff.mpr rfl
    exact ⟨⟨_, haccount, fun _ => AccountId.validate_eq_ok_iff.mpr
        ⟨rfl, key, haccount, fun _ hother => hother.unique haccount⟩⟩,
      _, _, hseed, PaymentRequest.signer_eq_ok_iff.mpr
        ⟨rfl, key, ⟨hseed, hpublic⟩, fun _ hother => hother.1.unique hseed⟩⟩
  · intro raw error id h
    obtain ⟨rfl, hspelled⟩ := AccountId.validate_eq_ok_iff.mp h
    have hkey : AccountKey id := StrKey.accountKey_of_isValid ((StrKey.isValid_iff rfl).mpr hspelled)
    exact PaymentRequest.signer_eq_error_iff.mpr fun hseed =>
      hkey.ne_seed ((StrKey.isValid_iff rfl).mpr hseed) rfl

end Paygate
