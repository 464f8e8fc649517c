import Paygate.Proofs.Check
import Paygate.Proofs.Payment.Reading

/-!
# The checks of a request

The readers of a request check its values in a fixed order. Over texts they come to a value if all
checks hold, and otherwise to the error of the first one that does not; only a number that is too long
to be converted (`Numeral.Overlong`) is neither.

* `signer_decided`, `parse_decided`, `asset_decided`, `pathPayment_decided`: source, type and assets.
* `Memo.resolve_decided`, `Memo.resolve_of_overlong`: the memo, and when it is a fault.
* `assemble_decided`, `assemble_of_overlong`: the sequence number and the operation of a transaction.
-/

namespace Paygate

/-! ## Numbers -/

namespace Numeral

/-- A run of digits that is too long to be converted. -/
def Overlong : Str → Prop
  | .whole text => isRun text.toList = true ∧ digitLimit < text.toList.length
  | .broken _ => False

/-- A run of digits that writes a number of 64 bits. -/
def isUInt64 (text : String) : Bool :=
  isRun text.toList && decide (ofDigits text.toList < UInt64.size)

theorem Overlong.length {text : Str} (h : Overlong text) : digitLimit < text.points.length := by
  cases text with
  | whole text =>
    rw [Str.points_whole, List.length_map]
    exact h.2
  | broken text => exact absurd h id

theorem not_overlong {text : Str} (h : text.points.length ≤ digitLimit) : ¬ Overlong text :=
  fun hlong => absurd hlong.length (Nat.not_lt.mpr h)

end Numeral

open Numeral (Overlong isUInt64)

theorem parseUInt64_of_overlong {text : Str} (h : Overlong text) :
    parseUInt64 text = .error .numeralTooLong := by
  cases text with
  | broken text => exact absurd h id
  | whole text =>
    obtain ⟨hrun, hlong⟩ := h
    have hread : Numeral.read? text.toList = none := if_neg (Nat.not_le.mpr hlong)
    simp only [parseUInt64, if_pos hrun, hread]

theorem parseUInt64_of_not_overlong {text : String} (h : ¬ Overlong text) :
    parseUInt64 text = .ok (if isUInt64 text then some (UInt64.ofNat (Numeral.ofDigits text.toList))
      else none) := by
  unfold parseUInt64 isUInt64
  by_cases hrun : Numeral.isRun text.toList = true
  · have hshort : text.toList.length ≤ Numeral.digitLimit := by
      by_contra hlong
      exact h ⟨hrun, Nat.not_le.mp hlong⟩
    have hread : Numeral.read? text.toList = some (Numeral.ofDigits text.toList) := if_pos hshort
    simp [hrun, hread]
  · simp [hrun]

/-- A text is read as a number of 64 bits if it writes one. -/
theorem parseUInt64_decided {text : Str} (h : ¬ Overlong text) :
    ∃ number, parseUInt64 text = .ok number ∧ number.isSome = text.whole?.any isUInt64 := by
  cases text with
  | broken text => exact ⟨none, rfl, rfl⟩
  | whole text =>
    refine ⟨_, parseUInt64_of_not_overlong h, ?_⟩
    rw [Str.whole?, Option.any_some]
    cases isUInt64 text <;> rfl

/-! ## Source, type and assets -/

/-- The source is a secret seed. -/
def sourceCheck (source : Field) : Check :=
  ⟨.invalidSource, source.string?.any (StrKey.isValid .seed)⟩

/-- The type is one of the three. -/
def typeCheck (type : Field) : Check :=
  ⟨.invalidType, decide (type = "" ∨ type = "payment" ∨ type = "path_payment")⟩

/-- The code and the issuer of an asset are both empty or both set. -/
def pairCheck (pair : Field × Field) : Check :=
  ⟨.missingAssetParameter, pair.1.isEmpty == pair.2.isEmpty⟩

/-- An issuer that is set is an account key. -/
def issuerCheck (issuer : Field) : Check :=
  ⟨.invalidIssuer, issuer.isEmpty || issuer.string?.any (StrKey.isValid .account)⟩

theorem signer_decided {source : Field} (htext : source ≠ .upload) :
    Decides Failure.payment? [sourceCheck source] (PaymentRequest.signer source) := by
  match source with
  | .upload => exact absurd rfl htext
  | .text (.broken seed) => exact .stop rfl rfl
  | .text (.whole seed) =>
    have hholds : (sourceCheck (.text seed)).holds = (StrKey.decode? .seed seed).isSome := rfl
    unfold PaymentRequest.signer
    dsimp only
    cases hseed : StrKey.decode? .seed seed with
    | none =>
      rw [hseed] at hholds
      exact .stop hholds rfl
    | some payload =>
      rw [hseed] at hholds
      exact .pass hholds _

theorem parse_decided (type : Field) : Decides some [typeCheck type] (PaymentType.parse type) := by
  cases h : PaymentType.parse type with
  | ok parsed =>
    have htype := PaymentType.parse_eq_ok_iff.mp h
    refine .pass ?_ parsed
    cases parsed <;> simp [typeCheck, htype, PaymentType.value]
  | error e =>
    obtain rfl := PaymentType.parse_error h
    refine .stop (decide_eq_false_iff_not.mpr ?_) rfl
    rintro (rfl | rfl | rfl) <;> cases h

theorem resolve_decided (pair : Field × Field) :
    Decides some [pairCheck pair] (Asset.resolve pair.1 pair.2) := by
  unfold Asset.resolve
  split
  · rename_i hcode
    split
    · rename_i hissuer
      exact .pass (by simp [pairCheck, hcode, hissuer]) _
    · rename_i hissuer
      exact .stop (by simp [pairCheck, hcode, hissuer]) rfl
  · rename_i hcode
    split
    · rename_i hissuer
      exact .pass (by simp [pairCheck, hcode, hissuer]) _
    · rename_i hissuer
      exact .stop (by simp [pairCheck, hcode, hissuer]) rfl

theorem validate_decided {value : Field} (htext : value ≠ .upload) (error : PaymentError) :
    Decides Failure.payment? [⟨error, value.string?.any (StrKey.isValid .account)⟩]
      (AccountId.validate value error) := by
  match value with
  | .upload => exact absurd rfl htext
  | .text (.broken s) => exact .stop rfl rfl
  | .text (.whole s) =>
    by_cases hvalid : StrKey.isValid .account s = true
    · rw [AccountId.validate_of_valid hvalid]
      exact .pass hvalid s
    · have hkey : StrKey.key? .account s = none := by simp [StrKey.key?, hvalid]
      simp only [AccountId.validate, hkey]
      exact .stop (Bool.eq_false_iff.mpr hvalid) rfl

/-- An asset of a payment, once its pair is read: an issuer must be an account key. -/
def Asset.checked : Asset → Except Failure Asset
  | .native => .ok .native
  | .issued a => AccountId.validate a.issuer .invalidIssuer >>= fun _ => pure (.issued a)

theorem Asset.resolveChecked_eq (code issuer : Field) :
    Asset.resolveChecked code issuer =
      (Asset.resolve code issuer).mapError .payment >>= Asset.checked := by
  unfold Asset.resolveChecked
  cases Asset.resolve code issuer with
  | error e => rfl
  | ok asset =>
    cases asset with
    | native => rfl
    | issued a =>
      simp only [Except.mapError, bind, Except.bind, checked]
      cases AccountId.validate a.issuer .invalidIssuer <;> rfl

theorem checked_decided {asset : Asset} (htext : asset.pair.2 ≠ .upload) :
    Decides Failure.payment? [issuerCheck asset.pair.2] asset.checked := by
  cases asset with
  | native => exact .pass rfl _
  | issued a =>
    have hcheck : issuerCheck a.issuer =
        ⟨.invalidIssuer, a.issuer.string?.any (StrKey.isValid .account)⟩ := by
      simp [issuerCheck, a.issuer_ne_empty]
    show Decides _ [issuerCheck a.issuer] _
    rw [hcheck]
    exact (validate_decided htext .invalidIssuer).map

namespace PaymentRequest

variable {request : PaymentRequest}

/-- The code and the issuer of the asset of a payment. -/
def assetPair (request : PaymentRequest) : Field × Field := (request.assetCode, request.assetIssuer)

/-- The codes and issuers of a path payment: what is sent, what arrives, and the legs between them. -/
def pairs (request : PaymentRequest) : List (Field × Field) :=
  (request.sendAssetCode, request.sendAssetIssuer) ::
    (request.destinationAssetCode, request.destinationAssetIssuer) :: request.path

theorem asset_decided (htext : request.assetIssuer ≠ .upload) :
    Decides Failure.payment? [pairCheck request.assetPair, issuerCheck request.assetIssuer]
      request.asset := by
  have hpair : Decides Failure.payment? [pairCheck request.assetPair]
      ((Asset.resolve request.assetCode request.assetIssuer).mapError .payment) :=
    (resolve_decided request.assetPair).mapError fun _ => rfl
  rw [asset, Asset.resolveChecked_eq]
  refine hpair.bind fun asset hasset => ?_
  have hread : asset.pair = request.assetPair :=
    Asset.resolve_eq_ok_iff.mp (mapError_eq_ok.mp hasset)
  have hissuer : request.assetIssuer = asset.pair.2 := (congrArg Prod.snd hread).symm
  rw [hissuer] at htext ⊢
  exact checked_decided htext

theorem pathPayment_decided (request : PaymentRequest) (destination : String) :
    Decides some (request.pairs.map pairCheck) (request.pathPayment destination) := by
  have hlegs : Decides some (request.path.flatMap fun pair => [pairCheck pair])
      (Asset.resolveAll request.path) := .mapM fun pair _ => resolve_decided pair
  rw [← List.map_eq_flatMap] at hlegs
  exact (resolve_decided (request.sendAssetCode, request.sendAssetIssuer)).bind fun _ _ =>
    (resolve_decided (request.destinationAssetCode, request.destinationAssetIssuer)).bind
      fun _ _ => hlegs.map

end PaymentRequest

/-! ## Memos -/

/-- The value is a memo of its kind: a number of 64 bits, any text, or a hash of 32 bytes. -/
def isMemo (kind value : Field) : Bool :=
  decide (kind = "id") && value.string?.any isUInt64 || decide (kind = "text") ||
    decide (kind = "hash") && value.string?.any fun s =>
      (Hex.decode? s).any fun bytes => decide (bytes.length = 32)

/-- The kind and the value of the memo that is read: those that came with the destination, or else those
of the request. -/
def memoPair (kind value : Field) : Option (Str × Str) → Field × Field
  | some (kind, value) => (.text kind, .text value)
  | none => (kind, value)

/-- The memo of a request whose destination came with a memo or without. The request has a kind and a
value or neither, not both it and the destination have a memo, and the memo that is left is one. -/
def memoChecks (kind value : Field) (came : Option (Str × Str)) : List Check :=
  [⟨.missingMemoParameter, kind.isEmpty == value.isEmpty⟩,
    ⟨.cannotUseMemo, came.isNone || kind.isEmpty⟩,
    ⟨.invalidMemo, (memoPair kind value came).1.isEmpty ||
      isMemo (memoPair kind value came).1 (memoPair kind value came).2⟩]

namespace Memo

variable {kind value : Field} {text : Str} {destination : Destination}

/-- The memo that is read is the number that this text writes. -/
inductive ReadsNumber (kind value : Field) (destination : Destination) (text : Str) : Prop
  | destination (memo : destination.memo = some (.whole "id", text)) (noKind : kind = "") (noValue : value = "")
  | request (memo : destination.memo = .none) (kind_eq : kind = "id") (value_eq : value = .text text)

theorem parseId_decided (htext : value ≠ .upload) (hshort : ∀ text, value = .text text → ¬ Overlong text) :
    Decides Failure.payment? [⟨.invalidMemo, isMemo "id" value⟩] (parseId value) := by
  cases value with
  | upload => exact absurd rfl htext
  | text s =>
    have hholds : isMemo "id" (.text s) = s.whole?.any isUInt64 := by simp [isMemo, Field.string?]
    obtain ⟨number, hread, hsome⟩ := parseUInt64_decided (hshort s rfl)
    rw [hholds, parseId, hread, ← hsome]
    cases number with
    | none => exact .stop rfl rfl
    | some n => exact .pass rfl _

theorem parseHash_decided (htext : value ≠ .upload) :
    Decides Failure.payment? [⟨.invalidMemo, isMemo "hash" value⟩] (parseHash value) := by
  cases value with
  | upload => exact absurd rfl htext
  | text s =>
    have hholds : isMemo "hash" (.text s) =
        (s.whole?.bind Hex.decode?).any fun bytes => decide (bytes.length = 32) := by
      cases s <;> simp [isMemo, Field.string?, Str.whole?]
    rw [hholds, parseHash]
    cases s.whole?.bind Hex.decode? with
    | none => exact .stop rfl rfl
    | some bytes =>
      dsimp only [Option.any_some]
      split
      · rename_i hlength
        exact .pass (decide_eq_true hlength) _
      · rename_i hlength
        exact .stop (decide_eq_false hlength) rfl

theorem parse_decided (htext : value ≠ .upload)
    (hshort : ∀ text, kind = "id" → value = .text text → ¬ Overlong text) :
    Decides Failure.payment? [⟨.invalidMemo, isMemo kind value⟩] (parse kind value) := by
  cases kind with
  | upload => exact .stop (by simp [isMemo]) rfl
  | text kind =>
    unfold parse
    dsimp only
    split_ifs with hid htextKind hhash
    · subst hid
      exact parseId_decided htext fun text hvalue => hshort text rfl hvalue
    · subst htextKind
      exact .pass (by simp [isMemo]) _
    · subst hhash
      exact parseHash_decided htext
    · exact .stop (by simp [isMemo, hid, htextKind, hhash]) rfl

theorem parse_of_overlong (h : Overlong text) : parse "id" (.text text) = .error (.fault .numeralTooLong) := by
  rw [parse, if_pos rfl, parseId, parseUInt64_of_overlong h]

/-- Not both the request and its destination have a memo. -/
def checkOwner (kind : Field) (came : Option (Str × Str)) : Except Failure Unit :=
  if came.isNone || kind.isEmpty then .ok () else .error (.payment .cannotUseMemo)

/-- The memo of a pair; none for an empty kind. -/
def ofPair (pair : Field × Field) : Except Failure Memo :=
  if pair.1.isEmpty then .ok .none else parse pair.1 pair.2

theorem resolve_eq (kind value : Field) (destination : Destination) :
    resolve kind value destination = (do
      (checkPair kind value).mapError .payment
      checkOwner kind destination.memo
      ofPair (memoPair kind value destination.memo)) := by
  unfold resolve
  cases checkPair kind value with
  | error e => rfl
  | ok _ =>
    cases destination.memo with
    | none => rfl
    | some pair =>
      obtain ⟨destinationKind, destinationValue⟩ := pair
      cases hkind : kind.isEmpty with
      | false => simp [checkOwner, hkind, Except.mapError, bind, Except.bind]
      | true => simp [checkOwner, hkind, Except.mapError, bind, Except.bind, ofPair, memoPair]

theorem checkPair_decided (kind value : Field) :
    Decides some [⟨.missingMemoParameter, kind.isEmpty == value.isEmpty⟩] (checkPair kind value) := by
  unfold checkPair
  split
  · rename_i h
    exact .pass (by simp [h]) _
  · rename_i h
    exact .stop (by simp [h]) rfl

theorem checkOwner_decided (kind : Field) (came : Option (Str × Str)) :
    Decides Failure.payment? [⟨.cannotUseMemo, came.isNone || kind.isEmpty⟩] (checkOwner kind came) := by
  unfold checkOwner
  split
  · rename_i h
    exact .pass h _
  · rename_i h
    exact .stop (Bool.eq_false_iff.mpr h) rfl

theorem ofPair_decided {pair : Field × Field} (htext : pair.2 ≠ .upload)
    (hshort : ∀ text, pair.1 = "id" → pair.2 = .text text → ¬ Overlong text) :
    Decides Failure.payment? [⟨.invalidMemo, pair.1.isEmpty || isMemo pair.1 pair.2⟩] (ofPair pair) := by
  unfold ofPair
  cases hkind : pair.1.isEmpty with
  | true => exact .pass rfl _
  | false =>
    rw [Bool.false_or]
    exact parse_decided htext hshort

theorem checkPair_eq_ok (h : checkPair kind value = .ok ()) : kind.isEmpty = value.isEmpty := by
  unfold checkPair at h
  split at h
  · assumption
  · cases h

/-- A memo is decided by its checks if it is not read as a number that is too long. -/
theorem resolve_decided (htext : value ≠ .upload)
    (hshort : ∀ text, ReadsNumber kind value destination text → ¬ Overlong text) :
    Decides Failure.payment? (memoChecks kind value destination.memo)
      (resolve kind value destination) := by
  have hpair : Decides Failure.payment? [⟨.missingMemoParameter, kind.isEmpty == value.isEmpty⟩]
      ((checkPair kind value).mapError .payment) := (checkPair_decided kind value).mapError fun _ => rfl
  rw [resolve_eq]
  refine hpair.bind fun _ hset => (checkOwner_decided kind destination.memo).bind fun _ howner => ?_
  replace hset := checkPair_eq_ok (mapError_eq_ok.mp hset)
  cases hcame : destination.memo with
  | none => exact ofPair_decided htext fun text hkind hvalue => hshort text (.request hcame hkind hvalue)
  | some pair =>
    obtain ⟨destinationKind, destinationValue⟩ := pair
    refine ofPair_decided nofun fun text hkind hvalue => hshort text ?_
    cases hkind
    cases hvalue
    have hempty : kind.isEmpty = true := by
      by_contra hkind
      simp [checkOwner, hcame, hkind] at howner
    exact .destination hcame (Field.isEmpty_iff.mp hempty) (Field.isEmpty_iff.mp (hset ▸ hempty))

/-- A memo that is read as a number that is too long is a fault. -/
theorem resolve_of_overlong (h : ReadsNumber kind value destination text) (hlong : Overlong text) :
    resolve kind value destination = .error (.fault .numeralTooLong) := by
  rw [resolve_eq]
  cases h with
  | destination hcame hkind hvalue =>
    subst hkind
    subst hvalue
    rw [hcame]
    exact parse_of_overlong hlong
  | request hcame hkind hvalue =>
    subst hkind
    subst hvalue
    have hset : text.isEmpty = false := by
      by_contra hempty
      rw [Bool.not_eq_false, Str.isEmpty_iff] at hempty
      subst hempty
      cases hlong.1
    have hpair : checkPair "id" (.text text) = .ok () := if_pos hset.symm
    rw [hcame, hpair]
    exact parse_of_overlong hlong

end Memo

/-! ## Transactions -/

/-- The sequence of an account is a number of 64 bits, and there is an operation. -/
def assemblyChecks (sequence : Str) (operation : Option Operation) : List Check :=
  [⟨.serverError, sequence.whole?.any isUInt64⟩, ⟨.serverError, operation.isSome⟩]

section Transactions

variable {source passphrase : String} {sequence : Str} {baseFee : Int} {operation : Option Operation}
  {memo : Memo}

theorem nextSequence_decided (hshort : ¬ Overlong sequence) :
    Decides Failure.payment? [⟨.serverError, sequence.whole?.any isUInt64⟩] (nextSequence sequence) := by
  obtain ⟨number, hread, hsome⟩ := parseUInt64_decided hshort
  rw [nextSequence, hread, ← hsome]
  cases number with
  | none => exact .stop rfl rfl
  | some n => exact .pass rfl _

theorem assemble_decided (hshort : ¬ Overlong sequence) :
    Decides Failure.payment? (assemblyChecks sequence operation)
      (Transaction.assemble source sequence passphrase baseFee operation memo) := by
  have hnext := nextSequence_decided hshort
  unfold Transaction.assemble
  cases h : nextSequence sequence with
  | error e =>
    rw [h] at hnext
    exact hnext.before _
  | ok next =>
    rw [h] at hnext
    have hread : Check.firstError [⟨.serverError, sequence.whole?.any isUInt64⟩] = none := hnext
    refine Decides.after hread ?_
    cases operation with
    | none => exact .stop rfl rfl
    | some operation => exact .pass rfl _

theorem assemble_of_overlong (hlong : Overlong sequence) :
    Transaction.assemble source sequence passphrase baseFee operation memo =
      .error (.fault .numeralTooLong) := by
  rw [Transaction.assemble, nextSequence, parseUInt64_of_overlong hlong]

end Transactions

end Paygate
