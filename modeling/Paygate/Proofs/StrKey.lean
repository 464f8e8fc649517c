import Paygate.Proofs.Bytes.Base32

/-!
# What a key text looks like

A key text is written in one way only, so its kind, its length and its characters are known from the
fact that it is accepted.

* `decode?_eq_some_iff`: the key texts of a payload.
* `kind_eq_of_decode?`: no text is a key of two kinds.
* `AccountKey`, `accountKey_of_isValid`: everything that an accepted account key is.
* `accountKey_accountOfSeed`: the account of a seed is such a key.
-/

namespace Paygate

theorem Base32.value?_of_mem_digits {count n : Nat} {c : Char} (h : c ∈ digits count n) :
    (value? c).isSome = true := by
  induction count generalizing n with
  | zero => cases h
  | succ count ih =>
    rw [digits, List.mem_append, List.mem_singleton] at h
    rcases h with h | rfl
    · exact ih h
    · rw [value?_digit (Nat.mod_lt n (by omega))]
      rfl

namespace StrKey

variable {kind kind' : KeyKind} {text : String}

theorem decode?_encode {payload : Bytes} (h : payload.length = kind.payloadLength) :
    decode? kind (encode kind payload) = some ⟨payload, h⟩ := by
  have hlength : (check (kind.version :: payload)).length = 2 := Bytes.length_ofNatLE _ _
  unfold decode? encode
  simp only [String.toList_ofList, Base32.decode?_encode, List.cons_append]
  rw [dif_pos (by rw [List.length_append, hlength, h])]
  simp [← h]

/-- A text is a key of a kind if and only if it is what its payload is written as. -/
theorem decode?_eq_some_iff {payload : Payload kind} :
    decode? kind text = some payload ↔ encode kind payload.1 = text := by
  constructor
  · exact encode_of_decode?
  · rintro rfl
    exact decode?_encode payload.2

/-- The bytes of a key text: the version, the payload, and the check of both. -/
theorem bytes_of_decode? {payload : Payload kind} (h : decode? kind text = some payload) :
    Base32.decode? text.toList =
      some (kind.version :: payload.1 ++ check (kind.version :: payload.1)) := by
  rw [← decode?_eq_some_iff.mp h, encode, String.toList_ofList, Base32.decode?_encode]

/-- No text is a key of two kinds. -/
theorem kind_eq_of_decode? {payload : Payload kind} {payload' : Payload kind'}
    (h : decode? kind text = some payload) (h' : decode? kind' text = some payload') :
    kind = kind' := by
  have hbytes := Option.some.inj ((bytes_of_decode? h).symm.trans (bytes_of_decode? h'))
  have hversion : kind.version = kind'.version := (List.cons.inj hbytes).1
  cases kind <;> cases kind' <;> first | rfl | cases hversion

theorem isValid_eq_false {payload : Payload kind} (h : decode? kind text = some payload)
    (hkind : kind ≠ kind') : isValid kind' text = false := by
  by_contra hvalid
  obtain ⟨payload', h'⟩ := Option.isSome_iff_exists.mp (Bool.not_eq_false _ ▸ hvalid)
  exact hkind (kind_eq_of_decode? h h')

theorem length_of_decode? {payload : Payload kind} (h : decode? kind text = some payload) :
    text.length = Base32.digitCount (kind.payloadLength + 3) := by
  rw [← decode?_eq_some_iff.mp h, ← String.length_toList, encode, String.toList_ofList, Base32.encode,
    Base32.length_digits, List.length_append, List.length_cons, payload.2, check,
    Bytes.length_ofNatLE]

theorem value?_of_mem {payload : Payload kind} (h : decode? kind text = some payload) {c : Char}
    (hc : c ∈ text.toList) : (Base32.value? c).isSome = true := by
  rw [← decode?_eq_some_iff.mp h, encode, String.toList_ofList] at hc
  exact Base32.value?_of_mem_digits hc

/-! ## Account keys -/

/-- The characters that separate the parts of an address or of a URL. -/
def separators : List Char := ['*', '/', '\\', '?', '#', '&', '=', '%', ':', '@', '.', ' ']

/-- An account key: 56 characters `A` to `Z` and `2` to `7` that write the version byte of an account, 32
bytes, and their checksum, low byte first. -/
structure AccountKey (text : String) : Prop where
  accepted : isValid .account text = true
  length : text.length = 56
  alphabet : ∀ c ∈ text.toList, ('A' ≤ c ∧ c ≤ 'Z') ∨ ('2' ≤ c ∧ c ≤ '7')
  bytes : ∃ key : Bytes32, Base32.decode? text.toList =
    some (0x30 :: key.1 ++ Bytes.ofNatLE 2 (Crc16.checksum (0x30 :: key.1)).toNat)
  not_seed : isValid .seed text = false
  not_muxed : isValid .muxed text = false
  no_separator : ∀ c ∈ separators, c ∉ text.toList

theorem accountKey_of_isValid (h : isValid .account text = true) : AccountKey text := by
  obtain ⟨payload, hdecode⟩ := Option.isSome_iff_exists.mp h
  have halphabet : ∀ c ∈ text.toList, ('A' ≤ c ∧ c ≤ 'Z') ∨ ('2' ≤ c ∧ c ≤ '7') := by
    intro c hc
    have hvalue := value?_of_mem hdecode hc
    unfold Base32.value? at hvalue
    by_cases hletter : 'A' ≤ c ∧ c ≤ 'Z'
    · exact .inl hletter
    · by_cases hdigit : '2' ≤ c ∧ c ≤ '7'
      · exact .inr hdigit
      · rw [if_neg hletter, if_neg hdigit] at hvalue
        cases hvalue
  -- stated with `all`, since a `∀ c` is decided over every character there is
  have hseparators : separators.all fun c => ¬ (('A' ≤ c ∧ c ≤ 'Z') ∨ ('2' ≤ c ∧ c ≤ '7')) := by
    decide
  exact {
    accepted := h
    length := length_of_decode? hdecode
    alphabet := halphabet
    bytes := ⟨payload, bytes_of_decode? hdecode⟩
    not_seed := isValid_eq_false hdecode nofun
    not_muxed := isValid_eq_false hdecode nofun
    no_separator := fun c hc hmem =>
      of_decide_eq_true (List.all_eq_true.mp hseparators c hc) (halphabet c hmem) }

/-- The account of a seed is an account key. -/
theorem accountKey_accountOfSeed (seed : Bytes) : AccountKey (accountOfSeed seed) := by
  have hlength : (Ed25519.publicKey seed).length = KeyKind.account.payloadLength := by
    rw [Ed25519.length_publicKey]
    rfl
  refine accountKey_of_isValid ?_
  rw [isValid, accountOfSeed, decode?_encode hlength]
  rfl

end StrKey

end Paygate
