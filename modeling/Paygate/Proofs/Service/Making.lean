import Paygate.Proofs.Federation.Faults
import Paygate.Proofs.Horizon.Client
import Paygate.Proofs.Payment.Making
import Paygate.Proofs.Pipeline.Course
import Paygate.Service.Gateway

/-!
# No payment breaks a rule of a type

A payment makes its destination, its assets and its memo of what a form, a federation server and the ledger
say. Each check of a type stands behind a check of what was read, and the two agree: what the federation
server says has both parts of a memo or none, a pair of an asset is empty or full, and a number or a hash
has the size that its memo asks for. So no rule is broken, whatever is read.

* `Run.KeepsRules`: a part of the pipeline that ends with no broken rule.
* `Pipeline.makeOperation`, `Pipeline.executeMaking`: the pipeline, with every rule checked where a value is
  made; `executeMaking_eq` says that this makes no difference.
* `Gateway.rules_kept`: at the gateway no stage breaks a rule.
-/

namespace Paygate

/-- From every session, the part ends with no broken rule of a type. -/
def Run.KeepsRules {ω α : Type} (m : Run ω α) : Prop :=
  ∀ s, Paygate.KeepsRules (m.run s).1

theorem Run.keepsRules_of_ends {ω α : Type} {m : Run ω α}
    (h : ∀ w, ∃ result w' calls, Run.Ends m w result w' calls ∧ Paygate.KeepsRules result) :
    m.KeepsRules := by
  intro s
  obtain ⟨result, w', calls, hends, hkeeps⟩ := h s.world
  obtain ⟨logs, hrun⟩ := hends s rfl
  rw [hrun]
  exact hkeeps

/-! ## The pipeline with its checks -/

namespace Pipeline

variable {ω : Type}

/-- The operation of a request, with the rule of issued assets checked wherever one is made. -/
def makeOperation (c : Collaborators ω) (request : PaymentRequest) (destination : Destination) :
    Run ω (Option Operation) := do
  let type ← Run.ofPayment (PaymentType.parse request.paymentType)
  Run.log {
    level := .debug, logger := pipelineLogger, message := "Composing operation"
    attributes := [("payment_type", .text type.value)] }
  match type with
  | .none => pure none
  | .pathPayment => do
    let operation ← Run.ofExcept (request.issuePathPayment destination.account)
    pure (some operation)
  | .payment => do
    let asset ← Run.ofExcept (Asset.issueChecked request.assetCode request.assetIssuer)
    let found ← if asset.isNative then destinationExists c destination.account else pure true
    pure (some (Operation.compose destination.account asset request.amount found))

/-- Take a request through all stages, with every rule checked where a value is made. -/
def executeMaking (c : Collaborators ω) (config : Config) (request : PaymentRequest) : Run ω Json := do
  let (seed, source) ← Run.ofExcept (PaymentRequest.signer request.source)
  let destination ← resolveDestination c request.destination
  let operation ← makeOperation c request destination
  let memo ← Run.ofExcept (Memo.makeResolved request.memoType request.memo destination)
  let sequence ← loadSequence c source
  let transaction ← Run.ofExcept
    (Transaction.assemble source sequence config.passphrase config.baseFee operation memo)
  let envelope ← buildEnvelope c transaction seed
  submit c envelope

theorem ofExcept_mapError {α : Type} (x : Except PaymentError α) :
    (Run.ofExcept (x.mapError .payment) : Run ω α) = Run.ofPayment x := by
  cases x with
  | ok a => rfl
  | error e => rfl

theorem makeOperation_eq (c : Collaborators ω) (request : PaymentRequest) (destination : Destination) :
    makeOperation c request destination = composeOperation c request destination := by
  have hasset : Asset.issueChecked request.assetCode request.assetIssuer = request.asset :=
    Asset.issueChecked_eq _ _
  unfold makeOperation composeOperation
  rewrite [PaymentRequest.issuePathPayment_eq, ofExcept_mapError, hasset]
  rfl

/-- The checks make no difference. -/
theorem executeMaking_eq (c : Collaborators ω) (config : Config) (request : PaymentRequest) :
    executeMaking c config request = execute c config request := by
  unfold executeMaking execute
  simp only [makeOperation_eq, Memo.makeResolved_eq]

/-! ## Stages -/

variable {c : Collaborators ω} {request : PaymentRequest}

/-- The records of the resolver make destinations, and nothing else breaks a rule of a destination. -/
theorem Resolves.keepsRules {address : Field} {w : ω} {result : Except Failure Destination}
    (hfault : ∀ cause, (c.resolve address w).value ≠ .error (.fault (.malformed cause)))
    (hmakes : ∀ record, (c.resolve address w).value = .ok record →
      ∀ account, ∃ destination,
        Destination.make account record.memoType record.memo = .ok destination)
    (h : Resolves c address w result) : KeepsRules result := by
  cases h with
  | fault answer =>
    rintro cause ⟨⟩
    exact hfault cause answer
  | unresolved => exact .payment _
  | invalid => exact .payment _
  | @malformed _ account _ answer valid half =>
    obtain ⟨destination, hmake⟩ := hmakes _ answer account
    cases half.symm.trans hmake
  | found => exact .ok _

theorem Looks.keepsRules {account : String} {w : ω} {result : Except Failure Bool}
    (hload : ∀ cause, (c.load account w).value ≠ .error (.fault (.malformed cause)))
    (h : Looks c account w result) : KeepsRules result := by
  cases h with
  | present => exact .ok _
  | absent => exact .ok _
  | failed => exact .payment _
  | fault answer =>
    rintro cause ⟨⟩
    exact hload cause answer

theorem Composes.keepsRules {account : String} {w w' : ω} {calls : List Call}
    {result : Except Failure (Option Operation)}
    (hload : ∀ cause, (c.load account w).value ≠ .error (.fault (.malformed cause)))
    (h : Composes c request account w result w' calls) : KeepsRules result := by
  cases h with
  | invalidType => exact .payment _
  | nothing => exact .ok _
  | invalidPath => exact .payment _
  | path => exact .ok _
  | issued => exact .ok _
  | native => exact .ok _
  | invalidAsset type asset =>
    rintro cause ⟨⟩
    exact Asset.resolveChecked_keepsRules _ _ cause asset
  | inconclusive type asset lookup =>
    rintro cause ⟨⟩
    exact lookup.keepsRules hload cause rfl

end Pipeline

/-! ## Collaborators -/

/-- A lookup of an address breaks no rule of a type. -/
theorem Federation.resolver_ne_malformed (scheme : String) (address : Field) (network : Http.Network)
    (cause : Malformed) : (resolver scheme address network).value ≠ .error (.fault (.malformed cause)) := by
  cases address with
  | upload => nofun
  | text address =>
    intro h
    have hfault : (resolve scheme address network).1 = .error (.fault (.malformed cause)) := by
      unfold resolver at h
      dsimp only at h
      split at h
      · cases h
      · cases h
      · rename_i hresolve
        cases h
        exact congrArg Prod.fst hresolve
    cases escapes_of_fault hfault with
    | toml federation answers unreadable => cases unreadable

namespace Horizon.Client

theorem failure_ne_malformed (url : String) (e : Http.Error) (cause : Malformed) :
    failure url e ≠ .fault (.malformed cause) := by
  cases e with
  | fault _ => nofun
  | failed timedOut reason => cases timedOut <;> nofun

theorem readObject_ne_malformed (response : Http.Response) (cause : Malformed) :
    (readObject response).1 ≠ .error (.fault (.malformed cause)) := by
  unfold readObject
  split
  · split <;> nofun
  · dsimp only
    split <;> nofun

/-- A lookup of an account breaks no rule of a type. -/
theorem load_ne_malformed (client : Client) (id : String) (network : Http.Network) (cause : Malformed) :
    (client.load id network).value ≠ .error (.fault (.malformed cause)) := by
  rw [load_value]
  intro h
  rcases bind_eq_error.mp h with hsent | ⟨response, -, h⟩
  · obtain ⟨e, -, he⟩ := mapError_eq_error.mp hsent
    exact failure_ne_malformed _ e cause he
  · unfold resultIn at h
    split at h
    · cases h
    · rcases bind_eq_error.mp h with hread | ⟨body, -, haccount⟩
      · exact readObject_ne_malformed response cause hread
      · obtain ⟨_, -, hfault⟩ := mapError_eq_error.mp haccount
        cases hfault

end Horizon.Client

/-! ## The gateway -/

namespace Service.Gateway

open Pipeline

variable (gateway : Gateway)

theorem resolveDestination_keepsRules (address : Field) :
    (resolveDestination gateway.collaborators address).KeepsRules := by
  refine Run.keepsRules_of_ends fun network => ?_
  obtain ⟨result, hends, hresolves⟩ := resolveDestination_ends gateway.collaborators address network
  exact ⟨result, _, _, hends, hresolves.keepsRules
    (Federation.resolver_ne_malformed gateway.scheme address network)
    fun _ hrecord => Federation.make_of_resolver hrecord⟩

theorem composeOperation_keepsRules (request : PaymentRequest) (destination : Destination) :
    (composeOperation gateway.collaborators request destination).KeepsRules := by
  refine Run.keepsRules_of_ends fun network => ?_
  obtain ⟨result, network', calls, hends, hcomposes⟩ :=
    composeOperation_ends gateway.collaborators request destination network
  exact ⟨result, network', calls, hends, hcomposes.keepsRules
    (gateway.ledger.load_ne_malformed destination.account network)⟩

/-- Whatever the form says and whatever is answered, no payment breaks a rule where it makes a destination,
an asset or a memo, and it ends as if nothing were checked there. -/
theorem rules_kept (form : Form) :
    let request := PaymentRequest.ofForm form
    (resolveDestination gateway.collaborators request.destination).KeepsRules ∧
    (∀ destination, (makeOperation gateway.collaborators request destination).KeepsRules) ∧
    (∀ destination, KeepsRules (Memo.makeResolved request.memoType request.memo destination)) ∧
    executeMaking gateway.collaborators gateway.pipeline request =
      execute gateway.collaborators gateway.pipeline request := by
  intro request
  refine ⟨gateway.resolveDestination_keepsRules _, fun destination => ?_, fun destination => ?_,
    executeMaking_eq _ _ request⟩
  · rw [makeOperation_eq]
    exact gateway.composeOperation_keepsRules request destination
  · rw [Memo.makeResolved_eq]
    exact Memo.resolve_keepsRules _ _ destination

end Service.Gateway

end Paygate
