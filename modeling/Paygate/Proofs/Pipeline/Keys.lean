import Paygate.Proofs.Pipeline.Course
import Paygate.Proofs.StrKey

/-!
# Only account keys are passed on

Whatever a form, a record or a seed says, the pipeline asks the ledger only for account keys, and the
transactions that it hands to the builder go from an account key to an account key.

* `Call.Vetted`: the accounts in a call are account keys.
* `Prepared.source_key`, `Resolves.key`: where the two accounts of a payment are vetted.
* `Course.vetted`: every call of a run is.
-/

namespace Paygate

open StrKey (AccountKey)

/-- The issuer of an issued asset is an account key. -/
def Asset.Vetted : Asset → Prop
  | .native => True
  | .issued asset => ∃ key : String, asset.issuer = .text key ∧ AccountKey key

/-- The destination of an operation is an account key, and so is the issuer of what a simple payment
sends. -/
inductive Operation.Vetted : Operation → Prop
  | createAccount {destination : String} {startingBalance : Field} (key : AccountKey destination) :
      Vetted (.createAccount destination startingBalance)
  | payment {destination : String} {asset : Asset} {amount : Field} (key : AccountKey destination)
      (issuer : asset.Vetted) : Vetted (.payment destination asset amount)
  | pathPayment {destination : String} {sendAsset destinationAsset : Asset}
      {sendMax destinationAmount : Field} {path : List Asset} (key : AccountKey destination) :
      Vetted (.pathPayment destination sendAsset sendMax destinationAsset destinationAmount path)

/-- The accounts that a call passes on are account keys. An address is resolved as it stands. -/
inductive Call.Vetted : Call → Prop
  | resolve (address : Field) : Vetted (.resolve address)
  | load {account : String} (key : AccountKey account) : Vetted (.load account)
  | build {transaction : Transaction} {seed : String} (source : AccountKey transaction.source)
      (operation : transaction.operation.Vetted) : Vetted (.build transaction seed)
  | submit (envelope : String) : Vetted (.submit envelope)

/-- The asset of a payment is read only if its issuer is an account key. -/
theorem PaymentRequest.asset_vetted {request : PaymentRequest} {asset : Asset}
    (h : request.asset = .ok asset) : asset.Vetted := by
  obtain ⟨hpair, hissuer⟩ := Asset.resolveChecked_eq_ok_iff.mp h
  cases asset with
  | native => trivial
  | issued a =>
    rcases hissuer with hnative | ⟨key, hkey, hvalid⟩
    · cases hnative
    · have hread : a.issuer = request.assetIssuer := congrArg Prod.snd hpair
      exact ⟨key, hread.trans hkey, StrKey.accountKey_of_isValid hvalid⟩

/-- The account that signs is derived from a seed, so it is an account key. -/
theorem PaymentRequest.signer_key {source : Field} {seed account : String}
    (h : signer source = .ok (seed, account)) : AccountKey account := by
  obtain ⟨-, payload, -, rfl⟩ := signer_eq_ok h
  exact StrKey.accountKey_accountOfSeed payload.1

namespace Pipeline

variable {ω : Type} {c : Collaborators ω} {config : Config} {request : PaymentRequest} {w w' : ω}
  {calls : List Call}

/-! ## Stages -/

/-- A destination is found only if its account is an account key, whoever named it. -/
theorem Resolves.key {address : Field} {destination : Destination}
    (h : Resolves c address w (.ok destination)) : AccountKey destination.account := by
  cases h with
  | found _ valid whole =>
    rw [Destination.make_account whole]
    exact StrKey.accountKey_of_isValid (StrKey.key?_eq_some_iff.mp valid).2

theorem Composed.vetted {account : String} {operation : Operation} (key : AccountKey account)
    (h : Composed request account operation) : operation.Vetted := by
  cases h with
  | path => exact .pathPayment key
  | payment _ asset => exact .payment key (PaymentRequest.asset_vetted asset)
  | creation => exact .createAccount key

theorem Composes.calls_vetted {account : String} {result : Except Failure (Option Operation)}
    (key : AccountKey account) (h : Composes c request account w result w' calls) :
    ∀ call ∈ calls, call.Vetted := by
  intro call hcall
  have heq := h.eq_load_of_mem hcall
  rw [heq]
  exact .load key

section

variable {seed source : String} {destination : Destination}

theorem Prepared.source_key {operation : Option Operation} {memo : Memo}
    (h : Prepared c request w seed source destination operation memo w' calls) : AccountKey source :=
  PaymentRequest.signer_key h.signer

/-- Up to the loading of the source account every call is vetted. -/
theorem Prepared.calls_vetted {operation : Option Operation} {memo : Memo} {more : List Call}
    (h : Prepared c request w seed source destination operation memo w' calls)
    (hmore : ∀ call ∈ more, call.Vetted) :
    ∀ call ∈ .resolve request.destination :: calls ++ .load source :: more, call.Vetted := by
  have hcomposed := h.composed.calls_vetted h.resolved.key
  have hloaded := List.forall_mem_cons.mpr ⟨Call.Vetted.load h.source_key, hmore⟩
  exact List.forall_mem_cons.mpr ⟨.resolve _, List.forall_mem_append.mpr ⟨hcomposed, hloaded⟩⟩

theorem Assembled.build_vetted {transaction : Transaction}
    (h : Assembled c config request w seed source destination transaction w' calls) :
    (Call.build transaction seed).Vetted := by
  obtain ⟨prepared, -, assembled⟩ := h
  obtain ⟨_, operation, -, rfl, rfl⟩ := Transaction.assemble_eq_ok assembled
  exact .build prepared.source_key (prepared.composed.operation.vetted prepared.resolved.key)

theorem Assembled.calls_vetted {transaction : Transaction} {more : List Call}
    (h : Assembled c config request w seed source destination transaction w' calls)
    (hmore : ∀ call ∈ more, call.Vetted) :
    ∀ call ∈ .resolve request.destination :: calls ++ .load source :: .build transaction seed :: more,
      call.Vetted := by
  have hbuilt := List.forall_mem_cons.mpr ⟨h.build_vetted, hmore⟩
  obtain ⟨prepared, -, -⟩ := h
  exact prepared.calls_vetted hbuilt

end

/-! ## Runs -/

/-- Every call of a run is vetted, whatever the collaborators answer. -/
theorem Course.vetted {result : Except Failure Json} (h : Course c config request w result w' calls) :
    ∀ call ∈ calls, call.Vetted := by
  cases h with
  | source => exact List.forall_mem_nil _
  | destination => exact List.forall_mem_singleton.mpr (.resolve _)
  | operation _ resolved composed | memo _ resolved composed =>
    exact List.forall_mem_cons.mpr ⟨.resolve _, composed.calls_vetted resolved.key⟩
  | load prepared | assembly prepared => exact prepared.calls_vetted (List.forall_mem_nil _)
  | building whole => exact whole.calls_vetted (List.forall_mem_nil _)
  | submission whole => exact whole.calls_vetted (List.forall_mem_singleton.mpr (.submit _))

end Pipeline

end Paygate
