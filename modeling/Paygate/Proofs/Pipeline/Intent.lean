import Paygate.Proofs.Payment.Path
import Paygate.Proofs.Payment.Reading
import Paygate.Proofs.Pipeline.World
import Paygate.Proofs.Sample

/-!
# What is built is what was asked for

The transaction that the builder is given says what the form asks for: each field of the form ends
in its own place, and the rest is what the resolver and the ledger answered in the same request.

* `OperationAsked`, `MemoAsked`, `Transaction.Asked`: what a form asks for.
* `Pipeline.asked_of_build`: every transaction that a run hands to the builder is asked for.
-/

namespace Paygate

/-- The operation that a form asks for, when its destination is this account and the run makes these
calls. An account is created only for a payment in the native asset, and only if it was looked up and
the ledger reports that it is not there. -/
inductive OperationAsked (world : World) (form : Form) (account : String) (calls : List Call) :
    Operation → Prop
  | payment {asset : Asset} (type : form.value "type" = "payment")
      (pair : asset.pair = (form.value "asset_code", form.value "asset_issuer"))
      (present : asset = .native → ∃ record, (World.load account world).value = .ok record) :
      OperationAsked world form account calls (.payment account asset (form.value "amount"))
  | creation (type : form.value "type" = "payment") (code : form.value "asset_code" = "")
      (issuer : form.value "asset_issuer" = "") (looked : .load account ∈ calls)
      (absent : (World.load account world).value = .error (.error (.accountNotFound account))) :
      OperationAsked world form account calls (.createAccount account (form.value "amount"))
  | path {sendAsset destinationAsset : Asset} {path : List Asset} {length : Nat}
      (type : form.value "type" = "path_payment")
      (send : sendAsset.pair = (form.value "send_asset_code", form.value "send_asset_issuer"))
      (destination : destinationAsset.pair =
        (form.value "destination_asset_code", form.value "destination_asset_issuer"))
      (pathLength : form.PathLength length)
      (legs : path.map Asset.pair = (List.range length).map form.leg) :
      OperationAsked world form account calls (.pathPayment account sendAsset (form.value "send_max")
        destinationAsset (form.value "destination_amount") path)

/-- The memo that a form asks for, when its destination has this record. -/
inductive MemoAsked (form : Form) (record : FederationRecord) : Memo → Prop
  | destination {kind value : Str} {memo : Memo} (kind_eq : record.memoType = some kind)
      (value_eq : record.memo = some value) (noRequestType : form.value "memo_type" = "")
      (noRequestMemo : form.value "memo" = "") (denotes : Memo.Denotes kind value memo) :
      MemoAsked form record memo
  | request {memo : Memo} (noType : record.memoType = none) (noMemo : record.memo = none)
      (hasType : form.value "memo_type" ≠ "") (hasMemo : form.value "memo" ≠ "")
      (denotes : Memo.Denotes (form.value "memo_type") (form.value "memo") memo) :
      MemoAsked form record memo
  | nothing (noType : record.memoType = none) (noMemo : record.memo = none)
      (noRequestType : form.value "memo_type" = "") (noRequestMemo : form.value "memo" = "") :
      MemoAsked form record .none

/-- The transaction and the seed are those that a form asks for in a run that makes these calls. -/
structure Transaction.Asked (transaction : Transaction) (seed : String) (world : World)
    (config : Pipeline.Config) (form : Form) (calls : List Call) : Prop where
  signer : form.value "source" = .text seed
  source : ∃ payload, StrKey.decode? .seed seed = some payload ∧
    transaction.source = StrKey.encode .account (Ed25519.publicKey payload.1)
  sequence : ∃ (account : AccountRecord) (digits : String), .load transaction.source ∈ calls ∧
    (World.load transaction.source world).value = .ok account ∧ account.sequence = digits ∧
    Numeral.isRun digits.toList = true ∧
    transaction.sequence = Numeral.ofDigits digits.toList + 1
  passphrase : transaction.passphrase = config.passphrase
  baseFee : transaction.baseFee = config.baseFee
  destination : ∃ (record : FederationRecord) (account : String),
    (World.resolve (form.value "destination") world).value = .ok record ∧ record.account = account ∧
    OperationAsked world form account calls transaction.operation ∧
    MemoAsked form record transaction.memo

/-! ## Operations and memos -/

namespace World

/-- An account that is not found is the one that was asked for. -/
theorem load_absent {id id' : String} {world : World}
    (h : (load id world).value = .error (.error (.accountNotFound id'))) : id' = id := by
  unfold load at h
  split at h
  · cases h
  · split at h <;> cases h
    rfl

/-- If all records of a world are whole, so are all that it answers. -/
theorem whole_of_resolve {world : World} {address : Field} {record : FederationRecord}
    (hrecords : ∀ address record, world.records.lookup address = some (.record record) → record.Whole)
    (h : (resolve address world).value = .ok record) : record.Whole := by
  rcases resolve_ok_cases h with ⟨address, hlookup⟩ | habsent
  · exact hrecords address record hlookup
  · exact .inl habsent

end World

namespace Pipeline

section

variable {world w' : World} {config : Config} {form : Form} {calls : List Call}

theorem operationAsked_of_composes {account : String} {operation : Operation}
    (h : Composes World.collaborators (.ofForm form) account world (.ok (some operation)) w' calls) :
    OperationAsked world form account calls operation := by
  generalize hresult : (Except.ok (some operation) : Except Failure (Option Operation)) = result at h
  cases h with
  | invalidType | nothing | invalidPath | invalidAsset | inconclusive => cases hresult
  | path type hpath =>
    cases hresult
    obtain ⟨sendAsset, destinationAsset, path, hsend, hdestination, hlegs, rfl⟩ :=
      PaymentRequest.pathPayment_eq_ok_iff.mp hpath
    obtain ⟨length, hlength, heq⟩ := Form.legs_eq form
    exact .path (PaymentType.parse_eq_ok_iff.mp type) hsend hdestination hlength (hlegs.trans heq)
  | issued type hasset =>
    cases hresult
    obtain ⟨hpair, -⟩ := Asset.resolveChecked_eq_ok_iff.mp hasset
    exact .payment (PaymentType.parse_eq_ok_iff.mp type) hpair nofun
  | @native found type hasset lookup =>
    have htype := PaymentType.parse_eq_ok_iff.mp type
    obtain ⟨hpair, -⟩ := Asset.resolveChecked_eq_ok_iff.mp hasset
    cases lookup with
    | @present record answer =>
      cases hresult
      exact .payment htype hpair fun _ => ⟨record, answer⟩
    | absent answer =>
      cases hresult
      obtain ⟨hcode, hissuer⟩ := PaymentRequest.asset_eq_native_iff.mp hasset
      exact .creation htype hcode hissuer (by simp) (World.load_absent answer ▸ answer)

theorem memoAsked_of_resolve {record : FederationRecord} {account : String}
    {destination : Destination} {memo : Memo} (hrecord : record.Whole)
    (hmake : Destination.make account record.memoType record.memo = .ok destination)
    (hmemo : Memo.resolve (form.value "memo_type") (form.value "memo") destination = .ok memo) :
    MemoAsked form record memo := by
  have hresolved := Memo.resolve_eq_ok hmemo
  rcases hrecord with ⟨htype, hnone⟩ | ⟨kind, value, htype, hvalue, hkind, -⟩
  · rw [htype, hnone] at hmake
    cases hmake
    by_cases hempty : form.value "memo_type" = ""
    · simp only [hempty, if_true] at hresolved
      obtain ⟨hvalue, rfl⟩ := hresolved
      exact .nothing htype hnone hempty hvalue
    · simp only [hempty, if_false] at hresolved
      exact .request htype hnone hempty hresolved.1 hresolved.2
  · rw [htype, hvalue] at hmake
    cases hmake
    obtain ⟨hnoType, hnoMemo, hdenotes⟩ := hresolved
    exact .destination htype hvalue hnoType hnoMemo (hdenotes hkind)

/-! ## Runs -/

theorem operationAsked_mono {account : String} {operation : Operation} {calls' : List Call}
    (h : OperationAsked world form account calls operation) (hcalls : calls ⊆ calls') :
    OperationAsked world form account calls' operation := by
  cases h with
  | payment type pair present => exact .payment type pair present
  | creation type code issuer looked absent => exact .creation type code issuer (hcalls looked) absent
  | path type send destination length legs => exact .path type send destination length legs

/-- A transaction that was assembled is the one that the form asks for. -/
theorem asked_of_assembled {seed source : String} {destination : Destination}
    {transaction : Transaction} {calls' : List Call}
    (hrecords : ∀ address record, world.records.lookup address = some (.record record) → record.Whole)
    (h : Assembled World.collaborators config (.ofForm form) world seed source destination transaction
      w' calls) (hcalls : calls ⊆ calls') (hload : .load source ∈ calls') :
    transaction.Asked seed world config form calls' := by
  obtain ⟨⟨signer, resolved, composed, remembered⟩, loaded, assembled⟩ := h
  obtain ⟨hseed, payload, hpayload, rfl⟩ := PaymentRequest.signer_eq_ok signer
  obtain ⟨next, operation, hnext, rfl, rfl⟩ := Transaction.assemble_eq_ok assembled
  obtain ⟨digits, hdigits, hrun, hvalue⟩ := nextSequence_eq_ok hnext
  have hworld : (World.collaborators.resolve (PaymentRequest.ofForm form).destination world).world =
      world := World.resolve_world _ _
  rw [hworld] at composed
  cases loaded with
  | @loaded loaded answer =>
  have hanswer := (World.load_value_of_asBefore (World.composes_asBefore composed) _).symm.trans answer
  cases resolved with
  | @found record account destination hrecord valid whole =>
  obtain ⟨haccount, -⟩ := StrKey.key?_eq_some_iff.mp valid
  rw [Destination.make_account whole] at composed
  exact {
    signer := hseed
    source := ⟨payload, hpayload, rfl⟩
    sequence := ⟨loaded, digits, hload, hanswer, hdigits, hrun, by simp [hvalue]⟩
    passphrase := rfl
    baseFee := rfl
    destination := ⟨record, account, hrecord, haccount,
      operationAsked_mono (operationAsked_of_composes composed) hcalls,
      memoAsked_of_resolve (World.whole_of_resolve hrecords hrecord) whole remembered⟩ }

/-- Whatever is handed to the builder is what the form asks for. -/
theorem asked_of_build {transaction : Transaction} {seed : String}
    (hrecords : ∀ address record, world.records.lookup address = some (.record record) → record.Whole)
    (hbuild : .build transaction seed ∈
      ((execute World.collaborators config (.ofForm form)).run { world }).2.calls) :
    transaction.Asked seed world config form
      ((execute World.collaborators config (.ofForm form)).run { world }).2.calls := by
  obtain ⟨source, destination, w₁, calls₁, assembled, hcalls, hload⟩ :=
    (execute_course World.collaborators config (.ofForm form) world).assembled_of_build hbuild
  exact asked_of_assembled hrecords assembled hcalls hload

end

/-! ## A payment over two legs -/

namespace TwoLegs

open Sample (seed source destination)

/-- A world with one account and one address, whose record asks for a memo. -/
def world : World where
  records := [("bob*example.org", .record ⟨destination, some "id", some "42"⟩)]
  accounts := [(source, "7")]

def form : Form := [
  ("source", some seed), ("destination", some "bob*example.org"), ("type", some "path_payment"),
  ("send_max", some "3.5"), ("destination_amount", some "2"),
  ("destination_asset_code", some "EUR"), ("destination_asset_issuer", some "issuer"),
  ("path[0][asset_code]", some "USD"), ("path[0][asset_issuer]", some "bank"),
  ("path[1][asset_code]", some "")]

def transaction : Transaction :=
  ⟨source, 8, "network", 100,
    .pathPayment destination .native "3.5" (.issued ⟨"EUR", "issuer", by decide, by decide⟩) "2"
      [.issued ⟨"USD", "bank", by decide, by decide⟩, .native], .id 42⟩

theorem load_source : (World.load source world).value = .ok ⟨.str source, "7"⟩ := by
  simp [World.load, world]

theorem assembled : Assembled World.collaborators ⟨"network", 100⟩ (.ofForm form) world seed source
    ⟨destination, some ("id", "42")⟩ transaction world [] := by
  have prepared : Prepared World.collaborators (.ofForm form) world seed source
      ⟨destination, some ("id", "42")⟩ (some transaction.operation) (.id 42) world [] :=
    ⟨Sample.signer_seed, .found rfl Sample.key?_destination rfl, .path rfl rfl, rfl⟩
  exact ⟨prepared, .loaded load_source, rfl⟩

theorem whole (address : Str) (record : FederationRecord)
    (h : world.records.lookup address = some (.record record)) : record.Whole := by
  simp only [world, Entries.lookup_cons_ite, List.lookup_nil, Option.ite_none_right_eq_some,
    Option.some.injEq, World.Resolution.record.injEq] at h
  obtain ⟨-, rfl⟩ := h
  exact .inr ⟨"id", "42", rfl, rfl, by decide, by decide⟩

end TwoLegs

/-- The payment over two legs is built as it was asked for. -/
theorem twoLegs_asked : TwoLegs.transaction.Asked Sample.seed TwoLegs.world ⟨"network", 100⟩
    TwoLegs.form ((execute World.collaborators ⟨"network", 100⟩ (.ofForm TwoLegs.form)).run
      { world := TwoLegs.world }).2.calls :=
  asked_of_build TwoLegs.whole ((execute_course _ _ _ _).build_mem_of_assembled TwoLegs.assembled)

end Pipeline

end Paygate
