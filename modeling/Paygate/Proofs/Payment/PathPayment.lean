import Paygate.Proofs.Payment.Checks

/-!
# Path payments

A path payment is composed if and only if each of its pairs is empty or full: that of what is sent, that
of what arrives, and those of all legs. Nothing is asked of the issuers. The assets are read back as the
pairs that they were read from, in the same order and number.

* `Asset.Named`: the asset of a pair.
* `PaymentRequest.pathPayment_isOk_iff`, `PaymentRequest.pathPayment_named`: when a path payment is
  composed, and of what.
* `PaymentRequest.issuePathPayment_eq`: the rule of issued assets, checked wherever one is made, never fails.
* `PaymentRequest.pathPayment_exact`: all of it.
-/

namespace Paygate

namespace Asset

/-- The asset of a pair: the native one if the pair is empty, and an issued one with both values if it is
full. -/
inductive Named : Field × Field → Asset → Prop
  | native : Named ("", "") .native
  | issued {code issuer : Field} (asset : IssuedAsset) (code_eq : asset.code = code)
      (issuer_eq : asset.issuer = issuer) : Named (code, issuer) (.issued asset)

variable {pair : Field × Field} {asset : Asset}

theorem named_iff : Named pair asset ↔ asset.pair = pair := by
  constructor
  · intro h
    cases h with
    | native => rfl
    | issued asset code_eq issuer_eq => rw [Asset.pair, code_eq, issuer_eq]
  · rintro rfl
    cases asset with
    | native => exact .native
    | issued asset => exact .issued asset rfl rfl

/-- The asset of a pair, with the rule of issued assets checked where one is made. -/
def issueResolved (code issuer : Field) : Except Failure Asset :=
  if code.isEmpty && issuer.isEmpty then .ok .native
  else if code.isEmpty || issuer.isEmpty then .error (.payment .missingAssetParameter)
  else (issue code issuer).mapError fun cause => .fault (.malformed cause)

/-- Where an issued asset is made, its code and its issuer are known not to be empty. -/
theorem issueResolved_eq (code issuer : Field) :
    issueResolved code issuer = (resolve code issuer).mapError .payment := by
  unfold issueResolved resolve issue
  by_cases hcode : code.isEmpty = false
  · by_cases hissuer : issuer.isEmpty = false
    · simp [hcode, hissuer, Except.mapError]
    · simp [hcode, hissuer, Except.mapError]
  · by_cases hissuer : issuer.isEmpty = false
    · simp [hcode, hissuer, Except.mapError]
    · simp [hcode, hissuer, Except.mapError]

end Asset

theorem pairCheck_holds_iff {pair : Field × Field} :
    (pairCheck pair).holds = true ↔ (pair.1 = "" ↔ pair.2 = "") := by
  rw [← Field.isEmpty_iff, ← Field.isEmpty_iff, ← Bool.eq_iff_iff]
  exact beq_iff_eq

namespace PaymentRequest

variable {request : PaymentRequest} {destination : String} {operation : Operation}

/-- A path payment is composed if and only if each of its pairs is empty or full. -/
theorem pathPayment_isOk_iff : (∃ operation, request.pathPayment destination = .ok operation) ↔
    ∀ pair ∈ request.pairs, (pair.1 = "" ↔ pair.2 = "") := by
  have hdecided := pathPayment_decided request destination
  have hchecks : Check.firstError (request.pairs.map pairCheck) = none ↔
      ∀ pair ∈ request.pairs, (pair.1 = "" ↔ pair.2 = "") := by
    simp only [Check.firstError_eq_none_iff, List.forall_mem_map, pairCheck_holds_iff]
  rw [← hchecks]
  exact ⟨fun ⟨operation, hoperation⟩ => hdecided.firstError_eq_none hoperation, hdecided.exists_ok⟩

/-- A pair of which one value is missing is the error of the payment. -/
theorem pathPayment_of_half (h : ∃ pair ∈ request.pairs, ¬ (pair.1 = "" ↔ pair.2 = "")) :
    request.pathPayment destination = .error .missingAssetParameter := by
  cases hresult : request.pathPayment destination with
  | error e => rw [pathPayment_error hresult]
  | ok operation =>
    obtain ⟨pair, hpair, hhalf⟩ := h
    exact absurd (pathPayment_isOk_iff.mp ⟨operation, hresult⟩ pair hpair) hhalf

/-- What a path payment is composed of. -/
theorem pathPayment_named (h : request.pathPayment destination = .ok operation) :
    ∃ sendAsset destinationAsset path,
      operation = .pathPayment destination sendAsset request.sendMax destinationAsset
        request.destinationAmount path ∧
      Asset.Named (request.sendAssetCode, request.sendAssetIssuer) sendAsset ∧
      Asset.Named (request.destinationAssetCode, request.destinationAssetIssuer) destinationAsset ∧
      List.Forall₂ Asset.Named request.path path ∧
      (sendAsset :: destinationAsset :: path).map Asset.pair = request.pairs := by
  obtain ⟨sendAsset, destinationAsset, path, hsend, hdestination, hpath, rfl⟩ :=
    pathPayment_eq_ok_iff.mp h
  refine ⟨sendAsset, destinationAsset, path, rfl, Asset.named_iff.mpr hsend,
    Asset.named_iff.mpr hdestination, ?_, ?_⟩
  · rw [← hpath, List.forall₂_map_left_iff, List.forall₂_same]
    exact fun asset _ => Asset.named_iff.mpr rfl
  · rw [List.map_cons, List.map_cons, hsend, hdestination, hpath, pairs]

/-- The operation of a path payment, with the rule of issued assets checked wherever one is made. -/
def issuePathPayment (request : PaymentRequest) (destination : String) : Except Failure Operation := do
  let sendAsset ← Asset.issueResolved request.sendAssetCode request.sendAssetIssuer
  let destinationAsset ←
    Asset.issueResolved request.destinationAssetCode request.destinationAssetIssuer
  let path ← request.path.mapM fun (code, issuer) => Asset.issueResolved code issuer
  pure (.pathPayment destination sendAsset request.sendMax destinationAsset
    request.destinationAmount path)

/-- The rule of issued assets is never broken on the way. -/
theorem issuePathPayment_eq (request : PaymentRequest) (destination : String) :
    request.issuePathPayment destination = (request.pathPayment destination).mapError .payment := by
  simp only [issuePathPayment, pathPayment, Asset.resolveAll, Asset.issueResolved_eq, mapM_mapError,
    mapError_bind, mapError_pure]

theorem issuePathPayment_ne_fault (request : PaymentRequest) (destination : String) (f : Fault) :
    request.issuePathPayment destination ≠ .error (.fault f) := by
  rw [issuePathPayment_eq, ne_eq, mapError_eq_error]
  rintro ⟨e, -, hfault⟩
  cases hfault

/-- When a path payment is composed, and of what.

* It is composed if and only if each of its pairs is empty or full, and otherwise the error says that a
  parameter of an asset is missing, whatever the issuers look like.
* It has the destination and both amounts as they are, the asset that each pair names, and as many legs as
  the request, in the same order: its assets are read back as the pairs of the request.
* Checking the rule of issued assets wherever one is made changes nothing: it is never broken. -/
theorem pathPayment_exact (request : PaymentRequest) (destination : String) :
    ((∃ operation, request.pathPayment destination = .ok operation) ↔
      ∀ pair ∈ request.pairs, (pair.1 = "" ↔ pair.2 = "")) ∧
    ((∃ pair ∈ request.pairs, ¬ (pair.1 = "" ↔ pair.2 = "")) →
      request.pathPayment destination = .error .missingAssetParameter) ∧
    (∀ operation, request.pathPayment destination = .ok operation →
      ∃ sendAsset destinationAsset path,
        operation = .pathPayment destination sendAsset request.sendMax destinationAsset
          request.destinationAmount path ∧
        Asset.Named (request.sendAssetCode, request.sendAssetIssuer) sendAsset ∧
        Asset.Named (request.destinationAssetCode, request.destinationAssetIssuer) destinationAsset ∧
        List.Forall₂ Asset.Named request.path path ∧
        (sendAsset :: destinationAsset :: path).map Asset.pair = request.pairs) ∧
    request.issuePathPayment destination = (request.pathPayment destination).mapError .payment ∧
    ∀ f, request.issuePathPayment destination ≠ .error (.fault f) :=
  ⟨pathPayment_isOk_iff, pathPayment_of_half, fun _ => pathPayment_named,
    issuePathPayment_eq request destination, issuePathPayment_ne_fault request destination⟩

example : PaymentRequest.pathPayment
    { sendAssetCode := "EUR", sendAssetIssuer := "no key", path := [("", ""), ("USD", "")] } "G" =
    .error .missingAssetParameter := by decide

end PaymentRequest

end Paygate
