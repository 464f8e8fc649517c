import Paygate.Ledger.Builder
import Paygate.Proofs.Check

/-!
# What the builder accepts

The checks that the builder makes of a transaction, in their order: the sequence number, the values of
the operation as they stand, the memo, the source, and the seed that signs. They decide what the
builder makes of a transaction whose fields are texts, up to the fee, which is looked at last.

* `Operation.conditions`, `Transaction.conditions`: the checks, with the error of each.
* `Operation.checks`, `Transaction.checks`: those that are left where accounts and seed are valid.
* `Builder.draft_decided`: the checks decide the transaction without its fee.
* `Builder.envelope_decided`: with a fee that fits they decide the envelope.
-/

namespace Paygate

/-- The error of a payment that a failure of the builder comes to. A fault comes to none. -/
def BuildFailure.payment? : BuildFailure → Option PaymentError
  | .error e => some e.kind.paymentError
  | .fault _ => none

/-! ## Checks -/

/-- An amount can be sent. -/
def amountCheck (amount : Field) : Check :=
  ⟨.invalidAmount, amount.string?.any fun s => (Amount.parse s).isOk⟩

/-- An asset code has one to twelve letters and digits. -/
def isAssetCode (s : String) : Bool :=
  decide (0 < s.toList.length ∧ s.toList.length ≤ 12) && s.toList.all Ledger.isCodeChar

/-- The asset of a pair of form values: first the code, then the issuer. The native asset has neither. -/
def assetChecks (pair : Field × Field) : List Check :=
  if pair.1.isEmpty then []
  else [⟨.malformedAssetCode, pair.1.string?.any isAssetCode⟩,
    ⟨.serverError, pair.2.string?.any (StrKey.isValid .account)⟩]

/-- A path has at most five legs. -/
def pathCheck (length : Nat) : Check := ⟨.serverError, decide (length ≤ 5)⟩

/-- A source or destination is an account key or a multiplexed account. -/
def accountCheck (text : String) : Check :=
  ⟨.serverError, StrKey.isValid .account text || StrKey.isValid .muxed text⟩

/-- An account that must be a plain key is one. -/
def keyCheck (text : String) : Check := ⟨.serverError, StrKey.isValid .account text⟩

/-- The seed that signs is a seed. -/
def seedCheck (text : String) : Check := ⟨.serverError, StrKey.isValid .seed text⟩

/-- A text of a memo has at most 28 bytes. -/
def memoTextCheck (text : Field) : Check :=
  ⟨.serverError, text.string?.any fun s => decide ((Bytes.ofString s).length ≤ 28)⟩

namespace Operation

def checks : Operation → List Check
  | .createAccount _ startingBalance => [amountCheck startingBalance]
  | .payment _ asset amount => assetChecks asset.pair ++ [amountCheck amount]
  | .pathPayment _ sendAsset sendMax destinationAsset destinationAmount path =>
    assetChecks sendAsset.pair ++ amountCheck sendMax :: (assetChecks destinationAsset.pair ++
      amountCheck destinationAmount :: ((path.map Asset.pair).flatMap assetChecks ++
        [pathCheck path.length]))
  | .unsupported _ => [⟨.serverError, false⟩]

/-- The checks with that of the destination in its place: behind the values, before the length of the
path. -/
def conditions : Operation → List Check
  | .createAccount destination startingBalance => [amountCheck startingBalance, keyCheck destination]
  | .payment destination asset amount =>
    assetChecks asset.pair ++ [amountCheck amount, accountCheck destination]
  | .pathPayment destination sendAsset sendMax destinationAsset destinationAmount path =>
    assetChecks sendAsset.pair ++ amountCheck sendMax :: (assetChecks destinationAsset.pair ++
      amountCheck destinationAmount :: ((path.map Asset.pair).flatMap assetChecks ++
        [accountCheck destination, pathCheck path.length]))
  | .unsupported _ => [⟨.serverError, false⟩]

/-- The account that the operation is for. -/
def destination? : Operation → Option String
  | .createAccount destination _ => some destination
  | .payment destination _ _ => some destination
  | .pathPayment destination _ _ _ _ _ => some destination
  | .unsupported _ => none

/-- The values of a form that the operation holds. -/
def values : Operation → List Field
  | .createAccount _ startingBalance => [startingBalance]
  | .payment _ asset amount => [asset.pair.1, asset.pair.2, amount]
  | .pathPayment _ sendAsset sendMax destinationAsset destinationAmount path =>
    [sendAsset.pair.1, sendAsset.pair.2, sendMax, destinationAsset.pair.1, destinationAsset.pair.2,
      destinationAmount] ++ (path.map Asset.pair).flatMap fun pair => [pair.1, pair.2]
  | .unsupported _ => []

end Operation

def Memo.checks : Memo → List Check
  | .text value => [memoTextCheck value]
  | _ => []

/-- The checks of a transaction with this sequence number. -/
def sequenceCheck (sequence : Int) : Check := ⟨.serverError, decide (sequence ≤ Builder.sequenceLimit)⟩

def Transaction.checks (t : Transaction) : List Check :=
  sequenceCheck t.sequence :: (t.operation.checks ++ t.memo.checks)

/-- Everything that the builder asks of a transaction and its signer, but for the fee. -/
def Transaction.conditions (t : Transaction) (signer : String) : List Check :=
  sequenceCheck t.sequence ::
    (t.operation.conditions ++ (t.memo.checks ++ [accountCheck t.source, seedCheck signer]))

open Check in
/-- The check of a valid destination may be left out. -/
theorem Operation.firstError_conditions {operation : Operation}
    (h : ∀ account, operation.destination? = some account → StrKey.isValid .account account = true) :
    firstError operation.conditions = firstError operation.checks := by
  cases operation with
  | createAccount destination startingBalance =>
    have hvalid := h destination rfl
    simp [conditions, checks, firstError_cons, keyCheck, hvalid]
  | payment destination asset amount =>
    have hvalid := h destination rfl
    simp [conditions, checks, firstError_append, firstError_cons, accountCheck, hvalid]
  | pathPayment destination sendAsset sendMax destinationAsset destinationAmount path =>
    have hvalid := h destination rfl
    simp [conditions, checks, firstError_append, firstError_cons, accountCheck, hvalid]
  | unsupported name => rfl

open Check in
/-- Where accounts and seed are valid, their checks may be left out. -/
theorem Transaction.firstError_conditions {t : Transaction} {signer : String}
    (hdestination : ∀ account, t.operation.destination? = some account →
      StrKey.isValid .account account = true)
    (hsource : StrKey.isValid .account t.source = true)
    (hsigner : StrKey.isValid .seed signer = true) :
    firstError (t.conditions signer) = firstError t.checks := by
  have hkeys : firstError [accountCheck t.source, seedCheck signer] = none := by
    simp [firstError_cons, firstError_nil, accountCheck, seedCheck, hsource, hsigner]
  rw [conditions, checks, firstError_cons, firstError_cons, firstError_append, firstError_append,
    firstError_append, hkeys, Option.or_none, Operation.firstError_conditions hdestination]

/-! ## Values -/

namespace Builder

/-- The checks decide what the builder makes of a value. -/
abbrev Accepts {α : Type} (checks : List Check) (result : Result α) : Prop :=
  Decides BuildFailure.payment? checks result

theorem amount_decided {value : Field} (htext : value ≠ .upload) :
    Accepts [amountCheck value] (amount value) := by
  match value with
  | .upload => exact absurd rfl htext
  | .text (.broken s) => exact .stop rfl rfl
  | .text (.whole s) =>
    have hholds : (amountCheck (.text s)).holds = (Amount.parse s).isOk := rfl
    unfold amount
    dsimp only
    cases hparse : Amount.parse s with
    | ok stroops =>
      rw [hparse] at hholds
      exact .pass hholds stroops
    | error e =>
      rw [hparse] at hholds
      cases e with
      | unreadable => exact .stop hholds rfl
      | outOfRange => exact .stop hholds rfl

theorem assetCode_decided {value : Field} (htext : value ≠ .upload) :
    Accepts [⟨.malformedAssetCode, value.string?.any isAssetCode⟩] (assetCode value) := by
  match value with
  | .upload => exact absurd rfl htext
  | .text (.broken s) => exact .stop rfl rfl
  | .text (.whole s) =>
    unfold assetCode
    dsimp only
    split
    · rename_i h
      refine .pass ?_ _
      simp only [Field.string?, Str.whole?, Option.any_some, isAssetCode, h.1, h.2]
      rfl
    · rename_i h
      refine .stop ?_ rfl
      simp only [Field.string?, Str.whole?, Option.any_some, isAssetCode]
      by_contra hcode
      simp only [Bool.not_eq_false, Bool.and_eq_true, decide_eq_true_eq] at hcode
      exact h hcode

theorem accountKey_decided (text : String) : Accepts [keyCheck text] (accountKey text) := by
  unfold accountKey keyCheck StrKey.isValid
  cases StrKey.decode? .account text with
  | none => exact .stop rfl rfl
  | some payload => exact .pass rfl payload

theorem issuer_decided {value : Field} (htext : value ≠ .upload) :
    Accepts [⟨.serverError, value.string?.any (StrKey.isValid .account)⟩] (issuer value) := by
  match value with
  | .upload => exact absurd rfl htext
  | .text (.broken s) => exact .stop rfl rfl
  | .text (.whole s) => exact accountKey_decided s

theorem asset_decided {asset : Asset} (hcode : asset.pair.1 ≠ .upload) (hissuer : asset.pair.2 ≠ .upload) :
    Accepts (assetChecks asset.pair) (Builder.asset asset) := by
  cases asset with
  | native => exact .ok _
  | issued a =>
    have hchecks : assetChecks (Asset.issued a).pair =
        [⟨.malformedAssetCode, a.code.string?.any isAssetCode⟩] ++
          [⟨.serverError, a.issuer.string?.any (StrKey.isValid .account)⟩] := by
      simp [assetChecks, Asset.pair, a.code_ne_empty]
    rw [hchecks]
    exact (assetCode_decided hcode).bind fun _ _ => (issuer_decided hissuer).map

theorem account_decided (text : String) : Accepts [accountCheck text] (account text) := by
  unfold account accountCheck StrKey.isValid
  cases StrKey.decode? .account text with
  | some payload => exact .pass rfl _
  | none =>
    cases StrKey.decode? .muxed text with
    | some payload => exact .pass rfl _
    | none => exact .stop rfl rfl

theorem seed_decided (text : String) : Accepts [seedCheck text] (seed text) := by
  unfold seed seedCheck StrKey.isValid
  cases StrKey.decode? .seed text with
  | none => exact .stop rfl rfl
  | some payload => exact .pass rfl payload

theorem path_decided (assets : List Ledger.Asset) : Accepts [pathCheck assets.length] (path assets) := by
  unfold path
  split
  · rename_i h
    exact .pass (by simp [pathCheck, h]) _
  · rename_i h
    exact .stop (by simp [pathCheck, h]) rfl

/-! ## Operations and memos -/

theorem operation_decided {operation : Operation} (htext : .upload ∉ operation.values) :
    Accepts operation.conditions (Builder.operation operation) := by
  cases operation with
  | createAccount destination startingBalance =>
    have hamount : startingBalance ≠ .upload := fun h => htext (by simp [Operation.values, h])
    exact (amount_decided hamount).bind fun _ _ => (accountKey_decided destination).map
  | payment destination asset amount =>
    simp only [Operation.values, List.mem_cons, List.not_mem_nil, or_false, not_or] at htext
    have hasset := asset_decided (Ne.symm htext.1) (Ne.symm htext.2.1)
    have hamount := amount_decided (Ne.symm htext.2.2)
    exact hasset.bind fun _ _ => hamount.bind fun _ _ => (account_decided destination).map
  | pathPayment destination sendAsset sendMax destinationAsset destinationAmount path =>
    simp only [Operation.values, List.mem_append, List.mem_cons, List.not_mem_nil, or_false,
      not_or] at htext
    obtain ⟨⟨hsendCode, hsendIssuer, hsendMax, hcode, hissuer, hamount⟩, hlegs⟩ := htext
    have hsend := asset_decided (Ne.symm hsendCode) (Ne.symm hsendIssuer)
    have hreceived := asset_decided (Ne.symm hcode) (Ne.symm hissuer)
    have hpath : Accepts (path.flatMap fun leg => assetChecks leg.pair) (path.mapM asset) := by
      refine .mapM fun leg hleg => asset_decided ?_ ?_
      · intro h
        exact hlegs (List.mem_flatMap.mpr ⟨leg.pair, List.mem_map_of_mem hleg, by simp [h]⟩)
      · intro h
        exact hlegs (List.mem_flatMap.mpr ⟨leg.pair, List.mem_map_of_mem hleg, by simp [h]⟩)
    rw [Operation.conditions, List.flatMap_map]
    refine hsend.bind fun _ _ => (amount_decided (Ne.symm hsendMax)).bind fun _ _ =>
      hreceived.bind fun _ _ => (amount_decided (Ne.symm hamount)).bind fun _ _ =>
        hpath.bind fun legs hread => (account_decided destination).bind fun _ _ => ?_
    rw [(mapM_eq_ok.mp hread).length_eq]
    exact (path_decided legs).map
  | unsupported name => exact .stop rfl rfl

theorem memo_decided {memo : Memo} (htext : memo ≠ .text .upload) :
    Accepts memo.checks (Builder.memo memo) := by
  cases memo with
  | none | id | hash => exact .ok _
  | text value =>
    match value with
    | .upload => exact absurd rfl htext
    | .text (.broken s) => exact .stop rfl rfl
    | .text (.whole s) =>
      refine .map (f := Ledger.Memo.text) ?_
      unfold memoText
      dsimp only
      split
      · rename_i h
        exact .pass (by simp [memoTextCheck, Field.string?, Str.whole?, h]) _
      · rename_i h
        exact .stop (by simp [memoTextCheck, Field.string?, Str.whole?, h]) rfl

theorem fee_of_range {value : Int} (h : 0 ≤ value ∧ value < UInt32.size) : Accepts [] (fee value) := by
  rw [fee, if_pos h]
  exact .ok _

theorem fee_fits {value : Int} (h : 1 ≤ value ∧ value ≤ 4294967295) :
    0 ≤ value ∧ value < UInt32.size := by
  have hsize : UInt32.size = 4294967296 := rfl
  omega

/-! ## Envelopes -/

section Envelopes

variable {t : Transaction} {signer : String}

/-- A transaction in the ledger's form that waits for its fee, and the seed that signs it. -/
def draft (t : Transaction) (signer : String) : Result ((UInt32 → Ledger.Transaction) × Bytes32) := do
  if t.sequence > sequenceLimit then throw (.error (.sequenceTooLarge t.sequence))
  let operation ← operation t.operation
  let memo ← memo t.memo
  let source ← account t.source
  let seed ← seed signer
  pure (fun fee => ⟨source, fee, Int64.ofInt t.sequence, memo, operation⟩, seed)

/-- The fee is the last thing that is looked at. -/
theorem envelope_eq (t : Transaction) (signer : String) :
    envelope t signer = draft t signer >>= fun (complete, seed) =>
      fee t.baseFee >>= fun fee => pure ((complete fee).sign t.passphrase seed) := by
  unfold envelope lower draft
  by_cases hlimit : t.sequence > sequenceLimit
  · rw [if_pos hlimit, if_pos hlimit]
    rfl
  · simp only [if_neg hlimit, bind_assoc, pure_bind]

theorem draft_decided (hoperation : .upload ∉ t.operation.values) (hmemo : t.memo ≠ .text .upload) :
    Accepts (t.conditions signer) (draft t signer) := by
  unfold draft
  by_cases hlimit : t.sequence > sequenceLimit
  · rw [if_pos hlimit]
    have hfails : (sequenceCheck t.sequence).holds = false := by simpa [sequenceCheck] using hlimit
    have hrefused : Accepts (α := Unit) [sequenceCheck t.sequence]
        (.error (.error (.sequenceTooLarge t.sequence))) := .stop hfails rfl
    exact hrefused.before _
  · rw [if_neg hlimit]
    have hholds : (sequenceCheck t.sequence).holds = true := by simpa [sequenceCheck] using hlimit
    have hnone : Check.firstError [sequenceCheck t.sequence] = none := by
      rw [Check.firstError_cons, if_pos hholds]
      rfl
    refine Decides.after hnone ((operation_decided hoperation).bind fun _ _ => ?_)
    exact (memo_decided hmemo).bind fun _ _ => (account_decided t.source).bind fun _ _ =>
      (seed_decided signer).map

/-- Over texts, valid keys and a fee that fits, the builder comes to an envelope if all checks hold, and
otherwise to the error of the first one that does not. -/
theorem envelope_decided (hoperation : .upload ∉ t.operation.values) (hmemo : t.memo ≠ .text .upload)
    (hdestination : ∀ account, t.operation.destination? = some account →
      StrKey.isValid .account account = true)
    (hsource : StrKey.isValid .account t.source = true) (hsigner : StrKey.isValid .seed signer = true)
    (hfee : 0 ≤ t.baseFee ∧ t.baseFee < UInt32.size) : Accepts t.checks (envelope t signer) := by
  rw [envelope_eq]
  refine Decides.congr ?_ (Transaction.firstError_conditions hdestination hsource hsigner)
  exact (draft_decided hoperation hmemo).finish fun _ _ => (fee_of_range hfee).map

end Envelopes

end Builder

end Paygate
