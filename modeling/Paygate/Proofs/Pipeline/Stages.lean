import Paygate.Proofs.Ledger.Acceptance
import Paygate.Proofs.Payment.Checks
import Paygate.Proofs.Pipeline.Keys

/-!
# From the checks of a request to those of the builder

What the builder is given was composed from the values of a request, so the checks that it makes are
known before: those of the request itself (`PaymentRequest.buildChecks`) and of the memo that is read.

* `Composed.checks_eq`, `Memo.checks_of_resolve`: the checks of what was composed.
* `Composed.values_subset`: it holds no value that the request does not.
* `Assembled.ledgerBuilder_decided`: over texts, they decide what the builder makes of an assembly.
-/

namespace Paygate

namespace PaymentRequest

/-- All values of a request. -/
def values (request : PaymentRequest) : List Field :=
  [request.source, request.destination, request.paymentType, request.amount, request.assetCode,
    request.assetIssuer, request.sendMax, request.sendAssetCode, request.sendAssetIssuer,
    request.destinationAmount, request.destinationAssetCode, request.destinationAssetIssuer,
    request.memoType, request.memo] ++ request.path.flatMap fun pair => [pair.1, pair.2]

/-- The checks that the builder makes of the operation of a request. -/
def buildChecks (request : PaymentRequest) : List Check :=
  match PaymentType.parse request.paymentType with
  | .ok .payment => assetChecks request.assetPair ++ [amountCheck request.amount]
  | .ok .pathPayment =>
    assetChecks (request.sendAssetCode, request.sendAssetIssuer) ++ amountCheck request.sendMax ::
      (assetChecks (request.destinationAssetCode, request.destinationAssetIssuer) ++
        amountCheck request.destinationAmount ::
          (request.path.flatMap assetChecks ++ [pathCheck request.path.length]))
  | _ => []

/-- Over texts, the values that are read on the way are texts. -/
theorem ne_upload {request : PaymentRequest} (htexts : .upload ∉ request.values) :
    request.source ≠ .upload ∧ request.destination ≠ .upload ∧ request.assetIssuer ≠ .upload ∧
      request.memo ≠ .upload := by
  have htext : ∀ value ∈ request.values, value ≠ .upload := by
    rintro value hvalue rfl
    exact htexts hvalue
  refine ⟨htext _ ?_, htext _ ?_, htext _ ?_, htext _ ?_⟩ <;> simp [values]

end PaymentRequest

theorem Operation.Vetted.destination_valid {operation : Operation} (h : operation.Vetted) :
    ∀ account, operation.destination? = some account → StrKey.isValid .account account = true := by
  intro account haccount
  cases h with
  | createAccount key | payment key | pathPayment key =>
    cases haccount
    exact key.accepted

/-! ## Memos -/

namespace Memo

variable {kind value : Field} {pair : Field × Field} {destination : Destination} {memo : Memo}

/-- The checks that the builder makes of the memo of a pair. -/
def buildChecks (pair : Field × Field) : List Check :=
  if pair.1 = "text" then [memoTextCheck pair.2] else []

theorem ofPair_of_resolve (h : resolve kind value destination = .ok memo) :
    ofPair (memoPair kind value destination.memo) = .ok memo := by
  rw [resolve_eq] at h
  obtain ⟨_, -, h⟩ := bind_eq_ok.mp h
  obtain ⟨_, -, h⟩ := bind_eq_ok.mp h
  exact h

theorem checks_of_ofPair (h : ofPair pair = .ok memo) : memo.checks = buildChecks pair := by
  obtain ⟨kind, value⟩ := pair
  unfold ofPair at h
  split at h
  · rename_i hempty
    cases h
    have hkind : kind = "" := Field.isEmpty_iff.mp hempty
    rw [hkind]
    rfl
  · cases denotes_of_parse h with
    | id | hash | text => rfl

theorem ne_upload_of_ofPair (htext : pair.2 ≠ .upload) (h : ofPair pair = .ok memo) :
    memo ≠ .text .upload := by
  obtain ⟨kind, value⟩ := pair
  rintro rfl
  unfold ofPair at h
  split at h
  · cases h
  · cases denotes_of_parse h
    exact htext rfl

/-- The memo that is read has the checks of its pair. -/
theorem checks_of_resolve (h : resolve kind value destination = .ok memo) :
    memo.checks = buildChecks (memoPair kind value destination.memo) :=
  checks_of_ofPair (ofPair_of_resolve h)

theorem ne_upload_of_resolve (htext : value ≠ .upload) (h : resolve kind value destination = .ok memo) :
    memo ≠ .text .upload := by
  refine ne_upload_of_ofPair ?_ (ofPair_of_resolve h)
  cases destination.memo with
  | none => exact htext
  | some pair => nofun

end Memo

namespace Pipeline

variable {ω : Type} {c : Collaborators ω} {config : Config} {request : PaymentRequest} {w w' : ω}
  {calls : List Call}

/-! ## Operations -/

section Operations

variable {account : String} {operation : Operation}

/-- The operation that is composed holds values of its request only. -/
theorem Composed.values_subset (h : Composed request account operation) :
    operation.values ⊆ request.values := by
  cases h with
  | path _ send destination legs =>
    rw [Operation.values, send, destination, legs, PaymentRequest.values]
    intro value hvalue
    simp only [List.mem_append, List.mem_cons] at hvalue ⊢
    tauto
  | payment _ asset =>
    obtain ⟨hpair, -⟩ := Asset.resolveChecked_eq_ok_iff.mp asset
    rw [Operation.values, hpair]
    simp [PaymentRequest.values]
  | creation => simp [Operation.values, PaymentRequest.values]

/-- The operation that is composed has the checks of its request. -/
theorem Composed.checks_eq (h : Composed request account operation) :
    operation.checks = request.buildChecks := by
  unfold PaymentRequest.buildChecks
  cases h with
  | @path _ _ path type send destination legs =>
    have hlength : path.length = request.path.length := by rw [← legs, List.length_map]
    rw [type, Operation.checks, send, destination, legs, hlength]
  | payment type asset =>
    obtain ⟨hpair, -⟩ := Asset.resolveChecked_eq_ok_iff.mp asset
    rw [type, Operation.checks, hpair]
    rfl
  | creation type asset =>
    obtain ⟨hpair, -⟩ := Asset.resolveChecked_eq_ok_iff.mp asset
    have hnative : request.assetPair = Asset.native.pair := hpair.symm
    rw [type, hnative]
    rfl

end Operations

/-! ## Assemblies -/

/-- Over texts, and with a fee that fits, the builder is decided by the checks of what was assembled. -/
theorem Assembled.envelope_decided {seed source : String} {destination : Destination}
    {transaction : Transaction} (htexts : .upload ∉ request.values)
    (hfee : 0 ≤ config.baseFee ∧ config.baseFee < UInt32.size)
    (h : Assembled c config request w seed source destination transaction w' calls) :
    Builder.Accepts transaction.checks (Builder.envelope transaction seed) := by
  have hvetted := h.build_vetted
  obtain ⟨prepared, -, assembled⟩ := h
  obtain ⟨-, payload, hseed, -⟩ := PaymentRequest.signer_eq_ok prepared.signer
  obtain ⟨_, operation, -, rfl, rfl⟩ := Transaction.assemble_eq_ok assembled
  cases hvetted with
  | build hsource hoperation =>
  have hsigner : StrKey.isValid .seed seed = true := by rw [StrKey.isValid, hseed]; rfl
  obtain ⟨-, -, -, hmemo⟩ := PaymentRequest.ne_upload htexts
  refine Builder.envelope_decided ?_ (Memo.ne_upload_of_resolve hmemo prepared.remembered)
    hoperation.destination_valid hsource.accepted hsigner hfee
  exact fun hupload => htexts (prepared.composed.operation.values_subset hupload)

/-- The envelopes of the ledger's builder are decided by the checks of what was assembled. -/
theorem Assembled.ledgerBuilder_decided {seed source : String} {destination : Destination}
    {transaction : Transaction} (htexts : .upload ∉ request.values)
    (hfee : 0 ≤ config.baseFee ∧ config.baseFee < UInt32.size)
    (h : Assembled c config request w seed source destination transaction w' calls) (w₀ : ω) :
    Builder.Accepts transaction.checks (ledgerBuilder transaction seed w₀).value := by
  have hdecided := h.envelope_decided htexts hfee
  rw [ledgerBuilder_value]
  cases henvelope : Builder.envelope transaction seed with
  | ok envelope =>
    rw [henvelope] at hdecided
    exact hdecided
  | error e =>
    rw [henvelope] at hdecided
    exact hdecided

/-- The checks of a builder decide the building of an envelope. -/
theorem Builds.decided {transaction : Transaction} {seed : String} {result : Except Failure String}
    {checks : List Check} (hbuilder : Builder.Accepts checks (c.build transaction seed w).value)
    (h : Builds c transaction seed w result) : Decides Failure.payment? checks result := by
  cases h with
  | built answer =>
    rw [answer] at hbuilder
    exact hbuilder
  | failed answer =>
    rw [answer] at hbuilder
    obtain ⟨error, he, hfirst⟩ := hbuilder
    exact ⟨error, he, hfirst⟩
  | fault answer =>
    rw [answer] at hbuilder
    obtain ⟨error, he, -⟩ := hbuilder
    cases he

end Pipeline

end Paygate
