import Paygate.Payment.Request
import Paygate.Proofs.Except

/-!
# What the readers of a request accept

Each reader of form values either returns what the values write or fails with an error of its own.

* `Asset.resolve_eq_ok_iff`, `Asset.resolveAll_eq_ok_iff`: an asset is read from exactly its pair.
* `PaymentRequest.asset_eq_native_iff`, `PaymentRequest.pathPayment_eq_ok_iff`: the assets of a request.
* `Memo.Denotes`, `Memo.resolve_eq_ok`: a memo is the one that its kind and value denote.
* `nextSequence_eq_ok`: the number after the one that a text writes.
* The lemmas that end in `_error` list the errors of a reader.
-/

namespace Paygate

theorem Field.isEmpty_iff {value : Field} : value.isEmpty = true ↔ value = "" := by
  cases value with
  | text s => simp
  | upload => simp

theorem Field.isEmpty_eq_false_iff {value : Field} : value.isEmpty = false ↔ value ≠ "" := by
  rw [← Bool.not_eq_true, Field.isEmpty_iff]

/-! ## Keys -/

theorem AccountId.validate_eq_ok {value : Field} {error : PaymentError} {key : String}
    (h : AccountId.validate value error = .ok key) :
    value = .text key ∧ StrKey.isValid .account key = true := by
  unfold AccountId.validate at h
  split at h
  · cases h
  · split at h <;> cases h
    rename_i hkey
    obtain ⟨rfl, hvalid⟩ := StrKey.key?_eq_some_iff.mp hkey
    exact ⟨rfl, hvalid⟩

theorem AccountId.validate_of_valid {key : String} (h : StrKey.isValid .account key = true)
    (error : PaymentError) : AccountId.validate (.text key) error = .ok key := by
  simp only [AccountId.validate, StrKey.key?_of_valid h]

/-- A file is a fault; every other value that is no key is the error that was asked for. -/
theorem AccountId.validate_error {value : Field} {error : PaymentError} {e : Failure}
    (h : AccountId.validate value error = .error e) : e = .payment error ∨ e = .fault .notText := by
  unfold AccountId.validate at h
  split at h
  · cases h
    exact .inr rfl
  · split at h <;> cases h
    exact .inl rfl

/-! ## Assets -/

namespace Asset

variable {code issuer : Field} {asset : Asset}

theorem resolve_issued (a : IssuedAsset) : resolve a.code a.issuer = .ok (issued a) := by
  simp [resolve, a.code_ne_empty, a.issuer_ne_empty]

theorem resolve_eq_ok_iff : resolve code issuer = .ok asset ↔ asset.pair = (code, issuer) := by
  constructor
  · intro h
    unfold resolve at h
    split at h
    · split at h
      · cases h
        rfl
      · cases h
    · rename_i hcode
      split at h
      · rename_i hissuer
        cases h
        have hcode : code = "" := Field.isEmpty_iff.mp (by simpa using hcode)
        have hissuer : issuer = "" := Field.isEmpty_iff.mp hissuer
        rw [hcode, hissuer]
        rfl
      · cases h
  · intro h
    cases asset with
    | native =>
      cases h
      rfl
    | issued a =>
      cases h
      exact resolve_issued a

theorem resolve_error {e : PaymentError} (h : resolve code issuer = .error e) :
    e = .missingAssetParameter := by
  unfold resolve at h
  split at h
  · split at h <;> cases h
    rfl
  · split at h <;> cases h
    rfl

theorem resolveAll_eq_ok_iff {pairs : List (Field × Field)} {assets : List Asset} :
    resolveAll pairs = .ok assets ↔ assets.map pair = pairs := by
  rw [resolveAll, mapM_eq_ok, ← List.forall₂_eq_eq_eq, List.forall₂_map_left_iff]
  constructor
  · intro h
    exact (h.imp fun _ _ h => resolve_eq_ok_iff.mp h).flip
  · intro h
    exact h.flip.imp fun _ _ h => resolve_eq_ok_iff.mpr h

theorem resolveAll_error {pairs : List (Field × Field)} {e : PaymentError}
    (h : resolveAll pairs = .error e) : e = .missingAssetParameter := by
  obtain ⟨pair, -, hpair⟩ := mapM_error h
  exact resolve_error hpair

theorem resolveChecked_eq_ok_iff :
    resolveChecked code issuer = .ok asset ↔
      asset.pair = (code, issuer) ∧ (asset = .native ∨
        ∃ key : String, issuer = .text key ∧ StrKey.isValid .account key = true) := by
  rw [← resolve_eq_ok_iff]
  unfold resolveChecked
  cases hpair : resolve code issuer with
  | error e => simp
  | ok found =>
    cases found with
    | native =>
      simp only [Except.ok.injEq]
      exact ⟨fun h => ⟨h, .inl h.symm⟩, fun h => h.1⟩
    | issued a =>
      have hissuer : a.issuer = issuer := congrArg Prod.snd (resolve_eq_ok_iff.mp hpair)
      dsimp only
      rw [hissuer]
      cases hkey : AccountId.validate issuer .invalidIssuer with
      | ok key =>
        obtain ⟨rfl, hvalid⟩ := AccountId.validate_eq_ok hkey
        simp [hvalid]
      | error e =>
        simp only [reduceCtorEq, Except.ok.injEq, false_iff]
        rintro ⟨rfl, h | ⟨key, rfl, hvalid⟩⟩
        · cases h
        · cases hkey.symm.trans (AccountId.validate_of_valid hvalid .invalidIssuer)

/-- A file in the place of an issuer is a fault; everything else is an error of the payment. -/
theorem resolveChecked_error {e : Failure} (h : resolveChecked code issuer = .error e) :
    e = .payment .missingAssetParameter ∨ e = .payment .invalidIssuer ∨ e = .fault .notText := by
  unfold resolveChecked at h
  split at h
  · rename_i hpair
    cases h
    exact .inl (by rw [resolve_error hpair])
  · cases h
  · split at h
    · rename_i hkey
      cases h
      exact .inr (AccountId.validate_error hkey)
    · cases h

end Asset

/-! ## Requests -/

theorem PaymentType.parse_eq_ok_iff {value : Field} {type : PaymentType} :
    PaymentType.parse value = .ok type ↔ value = .text type.value := by
  unfold PaymentType.parse
  cases value with
  | upload => simp
  | text s =>
    cases type <;> simp only [PaymentType.value, Field.text.injEq] <;> split_ifs <;> simp_all

theorem PaymentType.parse_error {value : Field} {e : PaymentError}
    (h : PaymentType.parse value = .error e) : e = .invalidType := by
  unfold PaymentType.parse at h
  split at h
  · cases h
    rfl
  · split_ifs at h
    cases h
    rfl

namespace PaymentRequest

/-- The asset of a payment is the native one. -/
theorem asset_eq_native_iff {request : PaymentRequest} :
    request.asset = .ok .native ↔ request.assetCode = "" ∧ request.assetIssuer = "" := by
  unfold asset
  rw [Asset.resolveChecked_eq_ok_iff]
  constructor
  · rintro ⟨hpair, -⟩
    obtain ⟨hcode, hissuer⟩ := Prod.mk.inj hpair
    exact ⟨hcode.symm, hissuer.symm⟩
  · rintro ⟨hcode, hissuer⟩
    rw [hcode, hissuer]
    exact ⟨rfl, .inl rfl⟩

theorem pathPayment_eq_ok_iff {request : PaymentRequest} {destination : String}
    {operation : Operation} :
    request.pathPayment destination = .ok operation ↔ ∃ sendAsset destinationAsset path,
      sendAsset.pair = (request.sendAssetCode, request.sendAssetIssuer) ∧
      destinationAsset.pair = (request.destinationAssetCode, request.destinationAssetIssuer) ∧
      path.map Asset.pair = request.path ∧
      operation = .pathPayment destination sendAsset request.sendMax destinationAsset
        request.destinationAmount path := by
  simp only [pathPayment, bind_eq_ok, pure_eq_ok, Asset.resolve_eq_ok_iff,
    Asset.resolveAll_eq_ok_iff]
  constructor
  · rintro ⟨sendAsset, hsend, destinationAsset, hdestination, path, hpath, rfl⟩
    exact ⟨sendAsset, destinationAsset, path, hsend, hdestination, hpath, rfl⟩
  · rintro ⟨sendAsset, destinationAsset, path, hsend, hdestination, hpath, rfl⟩
    exact ⟨sendAsset, hsend, destinationAsset, hdestination, path, hpath, rfl⟩

theorem pathPayment_error {request : PaymentRequest} {destination : String} {e : PaymentError}
    (h : request.pathPayment destination = .error e) : e = .missingAssetParameter := by
  simp only [pathPayment, bind_eq_error, pure_ne_error, and_false, exists_false, or_false] at h
  rcases h with h | ⟨_, _, h | ⟨_, _, h⟩⟩
  · exact Asset.resolve_error h
  · exact Asset.resolve_error h
  · exact Asset.resolveAll_error h

theorem signer_eq_ok {source : Field} {seed account : String}
    (h : signer source = .ok (seed, account)) :
    source = .text seed ∧ ∃ payload, StrKey.decode? .seed seed = some payload ∧
      account = StrKey.encode .account (Ed25519.publicKey payload.1) := by
  unfold signer at h
  split at h
  · cases h
  · cases h
  · split at h
    · cases h
    · rename_i payload hpayload
      cases h
      exact ⟨rfl, payload, hpayload, rfl⟩

theorem signer_error {source : Field} {e : Failure} (h : signer source = .error e) :
    e = .payment .invalidSource ∨ e = .fault .notText := by
  unfold signer at h
  split at h
  · cases h
    exact .inr rfl
  · cases h
    exact .inl rfl
  · split at h <;> cases h
    exact .inl rfl

end PaymentRequest

/-! ## Numbers and memos -/

theorem parseUInt64_eq_ok {text : Str} {n : UInt64} (h : parseUInt64 text = .ok (some n)) :
    ∃ digits : String, text = digits ∧ Numeral.isRun digits.toList = true ∧
      n.toNat = Numeral.ofDigits digits.toList := by
  unfold parseUInt64 Numeral.read? at h
  split at h
  · cases h
  · rename_i digits
    simp only at h
    split_ifs at h with hrun hlength
    · split at h
      · cases h
      · rename_i m hm
        cases hm
        simp only [Except.ok.injEq, Option.ite_none_right_eq_some, Option.some.injEq] at h
        obtain ⟨hbound, rfl⟩ := h
        exact ⟨digits, rfl, hrun, UInt64.toNat_ofNat_of_lt' hbound⟩
    · cases h

theorem nextSequence_eq_ok {current : Str} {next : Nat} (h : nextSequence current = .ok next) :
    ∃ digits : String, current = digits ∧ Numeral.isRun digits.toList = true ∧
      next = Numeral.ofDigits digits.toList + 1 := by
  unfold nextSequence at h
  split at h
  · cases h
  · cases h
  · rename_i n hn
    cases h
    obtain ⟨digits, rfl, hrun, hvalue⟩ := parseUInt64_eq_ok hn
    exact ⟨digits, rfl, hrun, by rw [hvalue]⟩

theorem nextSequence_error {current : Str} {e : Failure} (h : nextSequence current = .error e) :
    e = .payment .serverError ∨ ∃ f, e = .fault f := by
  unfold nextSequence at h
  split at h <;> cases h
  · exact .inr ⟨_, rfl⟩
  · exact .inl rfl

theorem Transaction.assemble_eq_ok {source passphrase : String} {sequence : Str} {baseFee : Int}
    {operation : Option Operation} {memo : Memo} {transaction : Transaction}
    (h : Transaction.assemble source sequence passphrase baseFee operation memo = .ok transaction) :
    ∃ next performed, nextSequence sequence = .ok next ∧ operation = some performed ∧
      transaction = ⟨source, next, passphrase, baseFee, performed, memo⟩ := by
  unfold Transaction.assemble at h
  split at h
  · cases h
  · rename_i next hnext
    split at h
    · cases h
    · cases h
      exact ⟨next, _, hnext, rfl, rfl⟩

theorem Transaction.assemble_error {source passphrase : String} {sequence : Str} {baseFee : Int}
    {operation : Option Operation} {memo : Memo} {e : Failure}
    (h : Transaction.assemble source sequence passphrase baseFee operation memo = .error e) :
    e = .payment .serverError ∨ ∃ f, e = .fault f := by
  unfold Transaction.assemble at h
  split at h
  · rename_i hnext
    cases h
    exact nextSequence_error hnext
  · split at h <;> cases h
    exact .inl rfl

theorem Destination.make_account {account : String} {kind value : Option Str} {destination : Destination}
    (h : Destination.make account kind value = .ok destination) : destination.account = account := by
  unfold Destination.make at h
  split at h <;> cases h <;> rfl

namespace Memo

/-- The memo that a kind and a value denote. -/
inductive Denotes : (kind value : Field) → Memo → Prop
  | id {text : String} {n : UInt64} (run : Numeral.isRun text.toList = true)
      (value : n.toNat = Numeral.ofDigits text.toList) : Denotes "id" (.text text) (.id n)
  | text (value : Field) : Denotes "text" value (.text value)
  | hash {text : String} {digest : Bytes32} (hex : Hex.decode? text = some digest.1) :
      Denotes "hash" (.text text) (.hash digest)

variable {kind value : Field} {memo : Memo} {destination : Destination}

theorem denotes_of_parse (h : parse kind value = .ok memo) : Denotes kind value memo := by
  unfold parse at h
  split at h
  · cases h
  · split_ifs at h with hid htext hhash
    · subst hid
      unfold parseId at h
      split at h
      · cases h
      · split at h <;> cases h
        rename_i n hn
        obtain ⟨digits, rfl, hrun, hvalue⟩ := parseUInt64_eq_ok hn
        exact .id hrun hvalue
    · subst htext
      cases h
      exact .text value
    · subst hhash
      unfold parseHash at h
      split at h
      · cases h
      · split at h
        · cases h
        · rename_i bytes hbytes
          obtain ⟨text, hwhole, hbytes⟩ := Option.bind_eq_some_iff.mp hbytes
          obtain rfl := Str.whole?_eq_some_iff.mp hwhole
          split at h <;> cases h
          exact .hash hbytes

theorem parse_error {e : Failure} (h : parse kind value = .error e) :
    e = .payment .invalidMemo ∨ ∃ f, e = .fault f := by
  unfold parse at h
  split at h
  · cases h
    exact .inl rfl
  · split_ifs at h
    · unfold parseId at h
      split at h
      · cases h
        exact .inr ⟨_, rfl⟩
      · split at h <;> cases h
        · exact .inr ⟨_, rfl⟩
        · exact .inl rfl
    · unfold parseHash at h
      split at h
      · cases h
        exact .inr ⟨_, rfl⟩
      · split at h
        · cases h
          exact .inl rfl
        · split at h <;> cases h
          exact .inl rfl
    · cases h
      exact .inl rfl

/-- The memo that came with the destination, or else that of the request, or else none. -/
theorem resolve_eq_ok (h : resolve kind value destination = .ok memo) :
    match destination.memo with
    | some (destinationKind, destinationValue) =>
      kind = "" ∧ value = "" ∧ (destinationKind ≠ "" → Denotes destinationKind destinationValue memo)
    | .none =>
      if kind = "" then value = "" ∧ memo = .none else value ≠ "" ∧ Denotes kind value memo := by
  unfold resolve checkPair at h
  split at h
  · cases h
  · rename_i hpair
    split at hpair
    · rename_i hempty
      cases hmemo : destination.memo with
      | some pair =>
        obtain ⟨destinationKind, destinationValue⟩ := pair
        simp only [hmemo] at h
        split at h
        · rename_i hkind
          refine ⟨Field.isEmpty_iff.mp hkind, Field.isEmpty_iff.mp (hempty ▸ hkind), ?_⟩
          intro hne
          rw [if_neg (by simpa using hne)] at h
          exact denotes_of_parse h
        · cases h
      | none =>
        simp only [hmemo] at h
        by_cases hkind : kind = ""
        · subst hkind
          cases h
          exact ⟨Field.isEmpty_iff.mp hempty.symm, rfl⟩
        · have hkind' := Field.isEmpty_eq_false_iff.mpr hkind
          rw [hkind'] at h hempty
          simp only [hkind, if_false]
          exact ⟨Field.isEmpty_eq_false_iff.mp hempty.symm, denotes_of_parse h⟩
    · cases hpair

theorem resolve_error {e : Failure} (h : resolve kind value destination = .error e) :
    e = .payment .missingMemoParameter ∨ e = .payment .cannotUseMemo ∨ e = .payment .invalidMemo ∨
      ∃ f, e = .fault f := by
  unfold resolve checkPair at h
  split at h
  · rename_i hpair
    cases h
    split at hpair <;> cases hpair
    exact .inl rfl
  · split at h
    · split_ifs at h
      · exact .inr (.inr (parse_error h))
      · cases h
        exact .inr (.inl rfl)
    · split_ifs at h
      exact .inr (.inr (parse_error h))

end Memo

end Paygate
