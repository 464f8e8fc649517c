import Paygate.Proofs.Bytes.Hex
import Paygate.Proofs.Payment.Amount
import Paygate.Proofs.Payment.Checks

/-!
# Which texts write a memo

A kind and a value are read as a memo if and only if they write one, and a memo is written with nothing
lost: a number of 64 bits in ASCII digits, any text, or a hash of 32 bytes in hexadecimal digits.

* `Memo.Writes`: the memo that two texts write.
* `Memo.parse_eq_ok_iff`, `Memo.parse_cases`: what is read, and what is refused.
* `Memo.parse_id`, `Memo.parse_hash`: every number and every hash is read from its text.
* `Memo.parse_exact`: all of it, and that no memo that is read breaks a rule of its type.
-/

namespace Paygate

namespace Numeral

theorem isRun_iff_forall {text : String} :
    isRun text.toList = true ↔ text ≠ "" ∧ ∀ c ∈ text.toList, '0' ≤ c ∧ c ≤ '9' := by
  have hdigit : ∀ c : Char, c.isDigit = true ↔ '0' ≤ c ∧ c ≤ '9' := by
    intro c
    simp only [Char.isDigit, Bool.and_eq_true, decide_eq_true_eq, ge_iff_le]
    exact Iff.rfl
  rw [isRun_iff, List.all_eq_true, ne_eq, String.toList_eq_nil_iff]
  simp only [hdigit]

/-- The decimal text of a number is a run that writes the number. -/
theorem isRun_toString (n : Nat) : isRun (toString n).toList = true ∧ ofDigits (toString n).toList = n := by
  have htext : (toString n).toList = Nat.toDigits 10 n := Nat.toList_repr
  rw [htext, isRun_iff]
  refine ⟨⟨Nat.toDigits_ne_nil, ?_⟩, Nat.ofDigitChars_ten_toDigits⟩
  exact List.all_eq_true.mpr fun c => Nat.isDigit_of_mem_toDigits (by omega) (by omega)

end Numeral

namespace Memo

/-- The memo that a kind and a value write. -/
inductive Writes : (kind value : Str) → Memo → Prop
  /-- ASCII digits, perhaps with zeros in front, that write a number of 64 bits. -/
  | id {value : String} {n : UInt64} (nonempty : value ≠ "")
      (digits : ∀ c ∈ value.toList, '0' ≤ c ∧ c ≤ '9')
      (number : Numeral.ofDigits value.toList = n.toNat) : Writes "id" value (.id n)
  | text (value : Str) : Writes "text" value (.text value)
  /-- Sixty-four hexadecimal digits, in either case. -/
  | hash {value : String} {digest : Bytes32} (length : value.length = 64)
      (digits : ∀ c ∈ value.toList, Hex.IsDigit c) (hex : Hex.encode digest.1 = value.toLower) :
      Writes "hash" value (.hash digest)

section

variable {kind value : Field}

theorem parse_ne_none : parse kind value ≠ .ok .none := by
  intro h
  cases denotes_of_parse h

theorem parseId_ne_malformed (cause : Malformed) : parseId value ≠ .error (.fault (.malformed cause)) := by
  intro h
  cases value with
  | upload => cases h
  | text s =>
    rw [parseId] at h
    by_cases hlong : Numeral.Overlong s
    · rw [parseUInt64_of_overlong hlong] at h
      cases h
    · obtain ⟨number, hread, -⟩ := parseUInt64_decided hlong
      rw [hread] at h
      cases number <;> cases h

theorem parseHash_ne_malformed (cause : Malformed) :
    parseHash value ≠ .error (.fault (.malformed cause)) := by
  intro h
  cases value with
  | upload => cases h
  | text s =>
    rw [parseHash] at h
    cases hbytes : s.whole?.bind Hex.decode? with
    | none =>
      rw [hbytes] at h
      cases h
    | some bytes =>
      rw [hbytes] at h
      dsimp only at h
      split at h <;> cases h

/-- What is read never breaks a rule of its type. -/
theorem parse_ne_malformed (cause : Malformed) : parse kind value ≠ .error (.fault (.malformed cause)) := by
  intro h
  cases kind with
  | upload => cases h
  | text kind =>
    rw [parse] at h
    split_ifs at h
    · exact parseId_ne_malformed cause h
    · exact parseHash_ne_malformed cause h
    · cases h

/-- Reading a pair is never refused for what stands beside it. -/
theorem parse_ne_refused : parse kind value ≠ .error (.payment .missingMemoParameter) ∧
    parse kind value ≠ .error (.payment .cannotUseMemo) := by
  constructor
  · intro h
    obtain h | ⟨f, h⟩ := parse_error h <;> cases h
  · intro h
    obtain h | ⟨f, h⟩ := parse_error h <;> cases h

end

variable {kind value : Str} {memo : Memo}

/-- A pair of texts is read or is no memo, unless it is a number that is too long to be converted. -/
theorem parse_cases (hshort : kind = "id" → ¬ Numeral.Overlong value) :
    (∃ memo, parse kind value = .ok memo) ∨ parse kind value = .error (.payment .invalidMemo) := by
  have hdecided : Decides Failure.payment? [⟨.invalidMemo, isMemo kind value⟩] (parse kind value) := by
    refine parse_decided nofun ?_
    rintro text hkind ⟨⟩
    exact hshort (Field.text.inj hkind)
  cases hparse : parse kind value with
  | ok memo => exact .inl ⟨memo, rfl⟩
  | error e =>
    obtain ⟨error, rfl⟩ := hdecided.error_payment hparse
    obtain he | ⟨f, hf⟩ := parse_error hparse
    · exact .inr (congrArg Except.error he)
    · cases hf

theorem writes_of_parse (h : parse kind value = .ok memo) : Writes kind value memo := by
  cases denotes_of_parse h with
  | id run number =>
    obtain ⟨hnonempty, hdigits⟩ := Numeral.isRun_iff_forall.mp run
    exact .id hnonempty hdigits number.symm
  | text => exact .text value
  | @hash text digest hex =>
    obtain ⟨hdigits, hwritten⟩ := Hex.decode?_eq_some_iff.mp hex
    have hlength : text.length = 64 := by rw [Hex.length_of_decode? hex, digest.2]
    exact .hash hlength hdigits hwritten

theorem parse_of_writes (hshort : kind = "id" → ¬ Numeral.Overlong value) (h : Writes kind value memo) :
    parse kind value = .ok memo := by
  cases h with
  | @id text n nonempty digits number =>
    have hrun := Numeral.isRun_iff_forall.mpr ⟨nonempty, digits⟩
    have hread : parseUInt64 text = .ok (some n) := by
      have hfits : Numeral.isUInt64 text = true := by
        simp [Numeral.isUInt64, hrun, number, n.toNat_lt_size]
      rw [parseUInt64_of_not_overlong (hshort rfl), if_pos hfits, number, UInt64.ofNat_toNat]
    simp [parse, parseId, hread]
  | text => rfl
  | @hash _ digest length digits hex =>
    have hread := Hex.decode?_eq_some_iff.mpr ⟨digits, hex⟩
    simp [parse, parseHash, hread, digest.2]

/-- Texts are read as the memo that they write, unless they are a number that is too long to be
converted. -/
theorem parse_eq_ok_iff (hshort : kind = "id" → ¬ Numeral.Overlong value) :
    parse kind value = .ok memo ↔ Writes kind value memo :=
  ⟨writes_of_parse, parse_of_writes hshort⟩

/-- Every number of 64 bits is read from its decimal text. -/
theorem parse_id (n : UInt64) : parse "id" (toString n.toNat) = .ok (.id n) := by
  obtain ⟨hrun, hnumber⟩ := Numeral.isRun_toString n.toNat
  obtain ⟨hnonempty, hdigits⟩ := Numeral.isRun_iff_forall.mp hrun
  refine parse_of_writes (fun _ => Numeral.not_overlong ?_) (.id hnonempty hdigits hnumber)
  have hlength : (Str.points (toString n.toNat)).length = (Nat.toDigits 10 n.toNat).length := by
    rw [Str.points_whole, List.length_map]
    exact congrArg List.length Nat.toList_repr
  have hfits : n.toNat < 10 ^ 20 := Nat.lt_trans n.toNat_lt (by decide)
  rw [hlength]
  exact Nat.le_trans ((Nat.length_toDigits_le_iff (by omega) (by decide)).mpr hfits) (by decide)

/-- Every hash is read from its hexadecimal text. -/
theorem parse_hash (digest : Bytes32) : parse "hash" (Hex.encode digest.1) = .ok (.hash digest) := by
  simp [parse, parseHash, Hex.decode?_encode, digest.2]

/-- A number that is read is one that the type has room for. -/
theorem ofId_of_parse {n : UInt64} (h : parse kind value = .ok (.id n)) :
    ofId (Numeral.ofDigits value.readable.toList) = .ok (.id n) := by
  cases writes_of_parse h with
  | id _ _ number =>
    have hrange : (0 : Int) ≤ n.toNat ∧ (n.toNat : Int) < UInt64.size :=
      ⟨Int.natCast_nonneg _, by exact_mod_cast n.toNat_lt_size⟩
    rw [Str.readable_whole, number, ofId, if_pos hrange, Int.toNat_natCast, UInt64.ofNat_toNat]

/-- The bytes that are read as a hash are 32. -/
theorem ofHash_of_parse {digest : Bytes32} (h : parse kind value = .ok (.hash digest)) :
    ∃ bytes, Hex.decode? value.readable = some bytes ∧ ofHash bytes = .ok (.hash digest) := by
  cases writes_of_parse h with
  | hash _ digits hex =>
    exact ⟨digest.1, Hex.decode?_eq_some_iff.mpr ⟨digits, hex⟩, dif_pos digest.2⟩

/-- A kind and a value, of at most 4300 characters if it is a number, are read as the memo that they
write, and refused as no memo if they write none. What is read never breaks a rule of its type, and every
number of 64 bits and every hash is read from its text. -/
theorem parse_exact (kind value : Str) (short : kind = "id" → value.points.length ≤ 4300) :
    (∀ memo, parse kind value = .ok memo ↔ Writes kind value memo) ∧
    (parse kind value = .error (.payment .invalidMemo) ↔ ∀ memo, ¬ Writes kind value memo) ∧
    (∀ n, parse kind value = .ok (.id n) → ofId (Numeral.ofDigits value.readable.toList) = .ok (.id n)) ∧
    (∀ digest, parse kind value = .ok (.hash digest) →
      ∃ bytes, Hex.decode? value.readable = some bytes ∧ ofHash bytes = .ok (.hash digest)) ∧
    (∀ cause, parse kind value ≠ .error (.fault (.malformed cause))) ∧
    (∀ n : UInt64, parse "id" (toString n.toNat) = .ok (.id n)) ∧
    (∀ digest : Bytes32, parse "hash" (Hex.encode digest.1) = .ok (.hash digest)) := by
  have hshort : kind = "id" → ¬ Numeral.Overlong value :=
    fun hkind => Numeral.not_overlong (short hkind)
  refine ⟨fun _ => parse_eq_ok_iff hshort, ⟨?_, ?_⟩, fun _ => ofId_of_parse, fun _ => ofHash_of_parse,
    parse_ne_malformed, parse_id, parse_hash⟩
  · intro herror memo hwrites
    cases herror.symm.trans (parse_of_writes hshort hwrites)
  · intro hnone
    obtain ⟨memo, hok⟩ | herror := parse_cases hshort
    · exact absurd (writes_of_parse hok) (hnone memo)
    · exact herror

/-- The greatest number of 64 bits, with zeros in front. -/
theorem greatest_parsed :
    (("id" : Str) = "id" → (Str.points "00018446744073709551615").length ≤ 4300) ∧
    parse "id" "00018446744073709551615" = .ok (.id 18446744073709551615) := by
  have hwrites : Writes "id" "00018446744073709551615" (.id 18446744073709551615) :=
    .id (by decide) (by simp) (by decide)
  exact ⟨fun _ => by decide, ((parse_exact _ _ fun _ => by decide).1 _).mpr hwrites⟩

end Memo

end Paygate
