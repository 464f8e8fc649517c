import Paygate.Proofs.Bytes.Bits
import Paygate.Proofs.Payment.Reading

/-!
# Which texts are keys

Account keys and seeds are accepted if and only if they are spelled as their 32 bytes are, and each of
these texts spells one key of one kind.

* `StrKey.Spells`: what a key text looks like, bit by bit.
* `StrKey.spells_iff`, `StrKey.Spells.unique`: every key has one text, and every text at most one key.
* `AccountId.validate_eq_ok_iff`, `PaymentRequest.signer_eq_ok_iff`: what is accepted as an account key and
  as a seed.
-/

namespace Paygate

namespace StrKey

variable {kind : KeyKind} {key key' : Bytes32} {text : String}

theorem isSome_value?_iff {c : Char} :
    (Base32.value? c).isSome = true ↔ ('A' ≤ c ∧ c ≤ 'Z') ∨ ('2' ≤ c ∧ c ≤ '7') := by
  unfold Base32.value?
  split_ifs with hletter hdigit
  · exact iff_of_true rfl (.inl hletter)
  · exact iff_of_true rfl (.inr hdigit)
  · simp [hletter, hdigit]

/-- A text spells a key of 32 bytes: its characters are digits of base 32, and their bits are those of the
version byte, the key, and the checksum of both, low byte first. -/
structure Spells (kind : KeyKind) (key : Bytes32) (text : String) : Prop where
  alphabet : ∀ c ∈ text.toList, ('A' ≤ c ∧ c ≤ 'Z') ∨ ('2' ≤ c ∧ c ≤ '7')
  bits : Base32.bits text.toList =
    Bytes.bits (kind.version :: key.1 ++ Bytes.ofNatLE 2 (Crc16.checksum (kind.version :: key.1)).toNat)

/-- The one text that spells a key is the one that it is written as. -/
theorem spells_iff : Spells kind key text ↔ encode kind key.1 = text := by
  have hbody : (kind.version :: key.1 ++ check (kind.version :: key.1)).length = 35 := by
    rw [List.length_append, List.length_cons, key.2, check, Bytes.length_ofNatLE]
  have hread : encode kind key.1 = text ↔ Base32.decode? text.toList =
      some (kind.version :: key.1 ++ check (kind.version :: key.1)) := by
    constructor
    · rintro rfl
      rw [encode, String.toList_ofList, Base32.decode?_encode]
    · intro h
      rw [encode, Base32.encode_of_decode? h, String.ofList_toList]
  rw [hread, Base32.decode?_eq_some_iff_bits]
  simp only [isSome_value?_iff]
  constructor
  · intro h
    exact ⟨h.alphabet, 0, by omega, by rw [h.bits, List.replicate_zero, List.append_nil]; rfl⟩
  · rintro ⟨halphabet, spare, hspare, hbits⟩
    -- fifty-six digits are thirty-five bytes, so nothing is spare
    obtain rfl : spare = 0 := by
      have hlength := congrArg List.length hbits
      simp only [Base32.length_bits, List.length_append, Bytes.length_bits, List.length_replicate, hbody]
        at hlength
      omega
    rw [List.replicate_zero, List.append_nil] at hbits
    exact ⟨halphabet, hbits⟩

theorem Spells.length (h : Spells kind key text) : text.toList.length = 56 := by
  have hlength := congrArg List.length h.bits
  simp only [Base32.length_bits, Bytes.length_bits, List.length_append, List.length_cons, key.2,
    Bytes.length_ofNatLE] at hlength
  omega

/-- A text spells one key at most. -/
theorem Spells.unique (h : Spells kind key text) (h' : Spells kind key' text) : key = key' := by
  have hbody := Bytes.eq_of_bits (h.bits.symm.trans h'.bits)
  have hkeys := (List.append_inj hbody (by rw [List.length_cons, List.length_cons, key.2, key'.2])).1
  exact Subtype.ext (List.cons.inj hkeys).2

/-- A text is read as a key if and only if it spells the key. -/
theorem decode?_eq_some_iff_spells (hkind : kind.payloadLength = 32) {payload : Payload kind} :
    decode? kind text = some payload ↔ Spells kind ⟨payload.1, payload.2.trans hkind⟩ text := by
  rw [decode?_eq_some_iff, spells_iff]

/-- There is a key that a text spells if and only if the text is accepted. -/
theorem isValid_iff (hkind : kind.payloadLength = 32) :
    isValid kind text = true ↔ ∃! key : Bytes32, Spells kind key text := by
  rw [isValid, Option.isSome_iff_exists]
  constructor
  · rintro ⟨payload, h⟩
    have hspells := (decode?_eq_some_iff_spells hkind).mp h
    exact ⟨_, hspells, fun _ hother => hother.unique hspells⟩
  · rintro ⟨key, hspells, -⟩
    exact ⟨⟨key.1, key.2.trans hkind.symm⟩, (decode?_eq_some_iff_spells hkind).mpr hspells⟩

end StrKey

open StrKey (Spells)

variable {raw : Str} {text : String} {error : PaymentError}

theorem AccountId.validate_eq_ok_iff {id : String} :
    validate (.text raw) error = .ok id ↔ raw = id ∧ ∃! key : Bytes32, Spells .account key id := by
  rw [← StrKey.isValid_iff rfl]
  constructor
  · intro h
    obtain ⟨hraw, hvalid⟩ := validate_eq_ok h
    exact ⟨Field.text.inj hraw, hvalid⟩
  · rintro ⟨rfl, hvalid⟩
    exact validate_of_valid hvalid error

theorem AccountId.validate_eq_error_iff :
    validate (.text text) error = .error (.payment error) ↔
      ¬ ∃! key : Bytes32, Spells .account key text := by
  constructor
  · intro h hspelled
    cases h.symm.trans (validate_eq_ok_iff.mpr ⟨rfl, hspelled⟩)
  · intro hnone
    cases h : validate (.text text) error with
    | ok id =>
      obtain ⟨⟨⟩, hspelled⟩ := validate_eq_ok_iff.mp h
      exact absurd hspelled hnone
    | error e =>
      obtain rfl | rfl := validate_error h
      · rfl
      · unfold validate at h
        dsimp only at h
        split at h <;> cases h

/-- The key of the account that a seed signs for. -/
def StrKey.publicKey (seed : Bytes32) : Bytes32 :=
  ⟨Ed25519.publicKey seed.1, Ed25519.length_publicKey seed.1⟩

theorem PaymentRequest.signer_eq_ok_iff {seed account : String} :
    signer (.text raw) = .ok (seed, account) ↔ raw = seed ∧
      ∃! key : Bytes32, Spells .seed key seed ∧ Spells .account (StrKey.publicKey key) account := by
  constructor
  · intro h
    obtain ⟨htext, payload, hdecode, rfl⟩ := signer_eq_ok h
    cases htext
    have hspells := (StrKey.decode?_eq_some_iff_spells rfl).mp hdecode
    exact ⟨rfl, _, ⟨hspells, StrKey.spells_iff.mpr rfl⟩, fun _ hother => hother.1.unique hspells⟩
  · rintro ⟨rfl, key, ⟨hseed, haccount⟩, -⟩
    have hdecode : StrKey.decode? .seed seed = some key :=
      (StrKey.decode?_eq_some_iff_spells rfl).mpr hseed
    have hwritten : StrKey.accountOfSeed key.1 = account := StrKey.spells_iff.mp haccount
    simp only [signer, hdecode, hwritten]

theorem PaymentRequest.exists_signer (h : StrKey.isValid .seed text = true) :
    ∃ signed, signer (.text text) = .ok signed := by
  obtain ⟨payload, hdecode⟩ := Option.isSome_iff_exists.mp h
  exact ⟨_, by simp only [signer, hdecode]; rfl⟩

theorem PaymentRequest.signer_eq_error_iff :
    signer (.text text) = .error (.payment .invalidSource) ↔
      ¬ ∃! key : Bytes32, Spells .seed key text := by
  rw [← StrKey.isValid_iff rfl, StrKey.isValid]
  unfold signer
  dsimp only
  cases hdecode : StrKey.decode? .seed text <;> simp

end Paygate
