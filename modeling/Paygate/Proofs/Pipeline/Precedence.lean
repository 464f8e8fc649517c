import Paygate.Proofs.Federation.Resolver
import Paygate.Proofs.Pipeline.Intent
import Paygate.Proofs.Pipeline.Stages

/-!
# The first check that fails decides the error

All checks of a request in a world stand in one list (`World.checks`), from the source to the
submission. A run ends with the error of the first one that does not hold, whatever else is wrong, and
with the answer to its submission if all of them hold.

* `World.requestChecks`, `World.accountChecks`, `World.builderChecks`: the parts of the list.
* `Course.decided`: the list decides how a run ends.
* `execute_firstError`: the two ways in which a run ends.
-/

namespace Paygate

/-- The kind and the value of the memo of a record. -/
def FederationRecord.memoFields? (record : FederationRecord) : Option (Str × Str) :=
  match record.memoType, record.memo with
  | some kind, some value => some (kind, value)
  | _, _ => none

/-- The account key that a record names. -/
def FederationRecord.key? (record : FederationRecord) : Option String :=
  StrKey.key? .account record.account

/-- The account that a source signs for. -/
def PaymentRequest.sourceAccount? (source : Field) : Option String :=
  (signer source).toOption.map Prod.snd

/-! ## The checks of a request in a world -/

namespace World

/-- The record of an address, if it has one. -/
def record? (world : World) (address : Field) : Option FederationRecord :=
  (resolve address world).value.toOption

/-- The sequence of an account, if the account can be loaded. -/
def sequence? (world : World) (account : String) : Option Str :=
  (load account world).value.toOption.map AccountRecord.sequence

/-- A sequence that is loaded stands in the world. -/
theorem lookup_of_sequence? {world : World} {account : String} {sequence : Str}
    (h : world.sequence? account = some sequence) : world.accounts.lookup account = some sequence := by
  unfold sequence? at h
  rcases load_value_cases account world with ⟨status, -, hfailed⟩ | ⟨-, habsent | hfound⟩
  · rw [hfailed] at h
    cases h
  · rw [habsent.2] at h
    cases h
  · obtain ⟨found, hlookup, hfound⟩ := hfound
    rw [hfound] at h
    cases h
    exact hlookup

/-- The address has a record, and it names an account key. -/
def destinationChecks (record : Option FederationRecord) : List Check :=
  [⟨.cannotResolveDestination, record.isSome⟩,
    ⟨.invalidDestination, record.any fun r => r.key?.isSome⟩]

/-- The lookup of an account is an answer: the account is there or not. -/
def lookupCheck (world : World) (account : Option String) : Check :=
  ⟨.serverError, account.any fun id => (world.failing.lookup id).isNone⟩

/-- The type, and what it asks for. A payment has a whole pair, a valid issuer, and for the native asset
an answer to the lookup of its destination; a path payment has whole pairs. -/
def operationChecks (world : World) (request : PaymentRequest) (account : Option String) : List Check :=
  typeCheck request.paymentType ::
    match PaymentType.parse request.paymentType with
    | .ok .payment => [pairCheck request.assetPair, issuerCheck request.assetIssuer] ++
      if request.assetCode = "" then [world.lookupCheck account] else []
    | .ok .pathPayment => request.pairs.map pairCheck
    | _ => []

/-- The checks before the source account is asked for. -/
def requestChecks (world : World) (request : PaymentRequest) : List Check :=
  let record := world.record? request.destination
  [sourceCheck request.source] ++ (destinationChecks record ++
    (world.operationChecks request (record.bind FederationRecord.key?) ++
      memoChecks request.memoType request.memo (record.bind FederationRecord.memoFields?)))

/-- The source account can be loaded, its sequence is a number of 64 bits, and there is an operation. -/
def accountChecks (world : World) (request : PaymentRequest) : List Check :=
  let sequence := (PaymentRequest.sourceAccount? request.source).bind world.sequence?
  [⟨.sourceNotExist, sequence.isSome⟩, ⟨.serverError, (sequence.bind Str.whole?).any Numeral.isUInt64⟩,
    ⟨.serverError, decide (request.paymentType ≠ "")⟩]

/-- The checks of the builder. That of real envelopes looks at the next sequence number, at the values of
the operation and at the text of the memo. -/
def builderChecks (world : World) (request : PaymentRequest) : List Check :=
  let sequence := (PaymentRequest.sourceAccount? request.source).bind world.sequence?
  let came := (world.record? request.destination).bind FederationRecord.memoFields?
  match world.builder with
  | .ledger =>
    ⟨.serverError, (sequence.bind Str.whole?).any fun s =>
      decide (((Numeral.ofDigits s.toList + 1 : Nat) : Int) ≤ Builder.sequenceLimit)⟩ ::
        (request.buildChecks ++ Memo.buildChecks (memoPair request.memoType request.memo came))
  | .recording => []
  | .failure kind _ => [⟨kind.paymentError, false⟩]

/-- The submission is answered. -/
def submissionCheck (world : World) : Check :=
  ⟨.serverError, match world.submission with | .response _ => true | .failure .. => false⟩

/-- All checks of a request in a world, in their order. -/
def checks (world : World) (request : PaymentRequest) : List Check :=
  world.requestChecks request ++ (world.accountChecks request ++
    (world.builderChecks request ++ [world.submissionCheck]))

/-- The texts that may be read as numbers are short enough to be converted. -/
structure Convertible (world : World) (request : PaymentRequest) : Prop where
  memo : ∀ text, request.memo = .text text → text.points.length ≤ Numeral.digitLimit
  recordMemo : ∀ address record text, world.records.lookup address = some (.record record) →
    record.memo = some text → text.points.length ≤ Numeral.digitLimit
  sequence : ∀ account text, world.accounts.lookup account = some text →
    text.points.length ≤ Numeral.digitLimit

theorem Convertible.not_overlong {world : World} {request : PaymentRequest} {account : String}
    {sequence : Str} (h : world.Convertible request)
    (hsequence : world.sequence? account = some sequence) : ¬ Numeral.Overlong sequence :=
  Numeral.not_overlong (h.sequence account sequence (lookup_of_sequence? hsequence))

/-- All records have both memo fields or neither. -/
def Paired (world : World) : Prop :=
  ∀ address record, world.records.lookup address = some (.record record) → record.Paired

end World

namespace Pipeline

open World (AsBefore)

section

variable {world w w' : World} {config : Config} {request : PaymentRequest} {calls : List Call}

/-! ## Stages -/

section Stages

variable {destination : Destination}

theorem record?_eq {address : Field} {record : FederationRecord}
    (h : (World.resolve address world).value = .ok record) : world.record? address = some record := by
  rw [World.record?, h]
  rfl

theorem paired_of_resolve {address : Field} {record : FederationRecord} (hrecords : world.Paired)
    (h : (World.resolve address world).value = .ok record) : record.Paired := by
  rcases World.resolve_ok_cases h with ⟨text, hlookup⟩ | ⟨hkind, hvalue⟩
  · exact hrecords text record hlookup
  · rw [FederationRecord.Paired, hkind, hvalue]

theorem memo_of_make {record : FederationRecord} {account : String}
    (h : Destination.make account record.memoType record.memo = .ok destination) :
    destination.memo = record.memoFields? := by
  obtain ⟨_, kind, value⟩ := record
  cases kind <;> cases value <;> cases h <;> rfl

/-- The destination that is found has the account and the memo of the record. -/
theorem Resolves.record (h : Resolves World.collaborators request.destination world (.ok destination)) :
    ∃ record, (World.resolve request.destination world).value = .ok record ∧
      record.key? = some destination.account ∧ destination.memo = record.memoFields? := by
  cases h with
  | @found record _ _ answer valid whole =>
    rw [Destination.make_account whole]
    exact ⟨record, answer, valid, memo_of_make whole⟩

theorem Resolves.decided {address : Field} {result : Except Failure Destination}
    (hrecords : world.Paired) (htext : address ≠ .upload)
    (h : Resolves World.collaborators address world result) :
    Decides Failure.payment? (World.destinationChecks (world.record? address)) result := by
  cases h with
  | fault answer => exact absurd answer (World.resolve_ne_fault htext world _)
  | unresolved answer =>
    have hnone : world.record? address = none := by
      rw [World.record?, show (World.resolve address world).value = _ from answer]
      rfl
    rw [hnone]
    exact ⟨_, rfl, rfl⟩
  | invalid answer invalid =>
    rw [record?_eq answer]
    refine ⟨_, rfl, ?_⟩
    simp [World.destinationChecks, FederationRecord.key?, Check.firstError_cons, invalid]
  | @malformed _ account _ answer _ half =>
    obtain ⟨destination, whole⟩ :=
      Federation.make_of_paired (paired_of_resolve hrecords answer) account
    cases half.symm.trans whole
  | found answer valid =>
    rw [record?_eq answer]
    simp [Decides, World.destinationChecks, FederationRecord.key?, Check.firstError_cons,
      Check.firstError_nil, valid]

theorem Looks.decided {account : String} {result : Except Failure Bool} (hbefore : AsBefore world w)
    (h : Looks World.collaborators account w result) :
    Decides Failure.payment? [world.lookupCheck (some account)] result := by
  have hvalue : (World.collaborators.load account w).value = (World.load account world).value :=
    World.load_value_of_asBefore hbefore account
  rcases World.load_value_cases account world with ⟨status, hfailing, hfailed⟩ | ⟨hfailing, hanswer⟩
  · rw [hfailed] at hvalue
    have hfails : (world.lookupCheck (some account)).holds = false := by
      simp [World.lookupCheck, hfailing]
    cases h with
    | failed => exact .stop hfails rfl
    | present answer | absent answer | fault answer => cases hvalue.symm.trans answer
  · have hholds : (world.lookupCheck (some account)).holds = true := by
      simp [World.lookupCheck, hfailing]
    rcases hanswer with ⟨-, habsent⟩ | ⟨sequence, -, hfound⟩
    · rw [habsent] at hvalue
      cases h with
      | absent => exact .pass hholds _
      | present answer | failed answer | fault answer => cases hvalue.symm.trans answer
    · rw [hfound] at hvalue
      cases h with
      | present => exact .pass hholds _
      | absent answer | failed answer | fault answer => cases hvalue.symm.trans answer

theorem Composes.decided {account : String} {result : Except Failure (Option Operation)}
    (hissuer : request.assetIssuer ≠ .upload) (hbefore : AsBefore world w)
    (h : Composes World.collaborators request account w result w' calls) :
    Decides Failure.payment? (world.operationChecks request (some account)) result := by
  have htype : Decides Failure.payment? [typeCheck request.paymentType]
      ((PaymentType.parse request.paymentType).mapError .payment) :=
    (parse_decided request.paymentType).mapError fun _ => rfl
  have hpath : Decides Failure.payment? (request.pairs.map pairCheck)
      ((request.pathPayment account).mapError .payment) :=
    (request.pathPayment_decided account).mapError fun _ => rfl
  have hasset := PaymentRequest.asset_decided hissuer
  unfold World.operationChecks
  cases h with
  | invalidType type =>
    rw [type] at htype ⊢
    exact htype
  | nothing type =>
    rw [type] at htype ⊢
    exact htype
  | invalidPath type path =>
    rw [type] at htype ⊢
    rw [path] at hpath
    exact hpath.after htype
  | path type path =>
    rw [type] at htype ⊢
    rw [path] at hpath
    exact hpath.after htype
  | invalidAsset type asset =>
    rw [type] at htype ⊢
    rw [asset] at hasset
    exact (hasset.before _).after htype
  | issued type asset =>
    rw [type] at htype ⊢
    rw [asset] at hasset
    have hcode : request.assetCode ≠ "" := by
      obtain ⟨hpair, -⟩ := Asset.resolveChecked_eq_ok_iff.mp asset
      have hread : _ = request.assetCode := congrArg Prod.fst hpair
      rw [← hread]
      exact Field.isEmpty_eq_false_iff.mp (IssuedAsset.code_ne_empty _)
    simp only [hcode, if_false, List.append_nil]
    exact hasset.after htype
  | native type asset lookup | inconclusive type asset lookup =>
    rw [type] at htype ⊢
    rw [asset] at hasset
    have hcode := (PaymentRequest.asset_eq_native_iff.mp asset).1
    simp only [hcode, if_true]
    exact ((lookup.decided hbefore).after hasset).after htype

theorem Loads.decided {account : String} {result : Except Failure Str} (hbefore : AsBefore world w)
    (h : Loads World.collaborators account w result) :
    Decides Failure.payment? [⟨.sourceNotExist, (world.sequence? account).isSome⟩] result := by
  have hvalue : (World.collaborators.load account w).value = (World.load account world).value :=
    World.load_value_of_asBefore hbefore account
  unfold World.sequence?
  cases h with
  | loaded answer =>
    rw [← hvalue, answer]
    exact .pass rfl _
  | failed answer =>
    rw [← hvalue, answer]
    exact .stop rfl rfl
  | fault answer =>
    rcases World.load_value_cases account world with ⟨status, -, hfailed⟩ | ⟨-, habsent | hfound⟩
    · cases (hvalue.trans hfailed).symm.trans answer
    · cases (hvalue.trans habsent.2).symm.trans answer
    · obtain ⟨sequence, -, hfound⟩ := hfound
      cases (hvalue.trans hfound).symm.trans answer

theorem Loads.sequence?_eq {account : String} {sequence : Str} (hbefore : AsBefore world w)
    (h : Loads World.collaborators account w (.ok sequence)) :
    world.sequence? account = some sequence := by
  have hvalue : (World.collaborators.load account w).value = (World.load account world).value :=
    World.load_value_of_asBefore hbefore account
  unfold World.sequence?
  cases h with
  | loaded answer =>
    rw [← hvalue, answer]
    rfl

/-- There is an operation unless the type is empty. -/
theorem Composes.isSome_eq {account : String} {operation : Option Operation}
    (h : Composes World.collaborators request account w (.ok operation) w' calls) :
    operation.isSome = decide (request.paymentType ≠ "") := by
  have hne : ∀ {type}, PaymentType.parse request.paymentType = .ok type → type.value ≠ "" →
      true = decide (request.paymentType ≠ "") := by
    intro type htype hvalue
    rw [PaymentType.parse_eq_ok_iff.mp htype]
    simpa using hvalue
  generalize hresult : (Except.ok operation : Except Failure (Option Operation)) = result at h
  cases h with
  | invalidType | invalidPath | invalidAsset | inconclusive => cases hresult
  | nothing type =>
    cases hresult
    rw [PaymentType.parse_eq_ok_iff.mp type]
    rfl
  | path type | issued type | native type =>
    cases hresult
    exact hne type (by decide)

/-- No memo that is read as a number is too long, if the texts of the world and the request are not. -/
theorem not_overlong_of_reads (hshort : world.Convertible request)
    (h : Resolves World.collaborators request.destination world (.ok destination)) (text : Str)
    (hreads : Memo.ReadsNumber request.memoType request.memo destination text) :
    ¬ Numeral.Overlong text := by
  refine Numeral.not_overlong ?_
  cases hreads with
  | request _ _ hvalue => exact hshort.memo text hvalue
  | destination hmemo =>
    obtain ⟨record, answer, -, hrecord⟩ := h.record
    rw [hrecord] at hmemo
    unfold FederationRecord.memoFields? at hmemo
    split at hmemo
    · rename_i hkind hvalue
      cases hmemo
      rcases World.resolve_ok_cases answer with ⟨address, hlookup⟩ | ⟨hnone, -⟩
      · exact hshort.recordMemo address record text hlookup hvalue
      · cases hnone.symm.trans hkind
    · cases hmemo

end Stages

/-! ## The parts of the list -/

section Parts

variable {seed source : String} {destination : Destination} {transaction : Transaction}

theorem sourceAccount?_eq (h : PaymentRequest.signer request.source = .ok (seed, source)) :
    PaymentRequest.sourceAccount? request.source = some source := by
  rw [PaymentRequest.sourceAccount?, h]
  rfl

/-- The checks of a request whose destination is found. -/
theorem requestChecks_eq
    (h : Resolves World.collaborators request.destination world (.ok destination)) :
    world.requestChecks request = [sourceCheck request.source] ++
      (World.destinationChecks (world.record? request.destination) ++
        (world.operationChecks request (some destination.account) ++
          memoChecks request.memoType request.memo destination.memo)) := by
  obtain ⟨record, answer, haccount, hmemo⟩ := h.record
  have hrecord := record?_eq answer
  rw [World.requestChecks, hrecord, Option.bind_some, Option.bind_some, haccount, hmemo]

/-- The checks of the builder are those of the transaction that was assembled. -/
theorem build_decided (htexts : .upload ∉ request.values)
    (hfee : 0 ≤ config.baseFee ∧ config.baseFee < UInt32.size)
    (h : Assembled World.collaborators config request world seed source destination transaction w' calls)
    (hbefore : AsBefore world w) :
    Builder.Accepts (world.builderChecks request) (World.build transaction seed w).value := by
  have hledger := h.ledgerBuilder_decided htexts hfee world
  obtain ⟨prepared, loaded, assembled⟩ := h
  obtain ⟨next, operation, hnext, rfl, rfl⟩ := Transaction.assemble_eq_ok assembled
  obtain ⟨digits, rfl, -, rfl⟩ := nextSequence_eq_ok hnext
  obtain ⟨record, answer, -, hmemo⟩ := prepared.resolved.record
  have hsequence := loaded.sequence?_eq prepared.asBefore
  rw [World.build_value_of_asBefore hbefore]
  unfold World.build World.builderChecks
  rw [sourceAccount?_eq prepared.signer, record?_eq answer]
  cases world.builder with
  | recording => exact .ok _
  | failure kind message => exact .stop rfl rfl
  | ledger =>
    rw [Transaction.checks, sequenceCheck, prepared.composed.operation.checks_eq,
      Memo.checks_of_resolve prepared.remembered, hmemo] at hledger
    dsimp only at hledger
    dsimp only
    rw [Option.bind_some, hsequence, Option.bind_some, Str.whole?_whole, Option.any_some]
    exact hledger

/-- The checks of a source account that is loaded are those of the assembly. -/
theorem accountChecks_eq {sequence : Str} {operation : Option Operation} {memo : Memo}
    (h : Prepared World.collaborators request world seed source destination operation memo w' calls)
    (loaded : Loads World.collaborators source w' (.ok sequence)) :
    world.accountChecks request = [⟨.sourceNotExist, true⟩] ++ assemblyChecks sequence operation := by
  have hsequence := loaded.sequence?_eq h.asBefore
  rw [World.accountChecks, sourceAccount?_eq h.signer, assemblyChecks, h.composed.isSome_eq,
    Option.bind_some, hsequence]
  rfl

variable (hrecords : world.Paired) (hshort : world.Convertible request)
  (htexts : .upload ∉ request.values)

include hrecords hshort htexts

/-- The checks before the source account hold if the stages before it come to an end. -/
theorem Prepared.firstError_eq_none {operation : Option Operation} {memo : Memo}
    (h : Prepared World.collaborators request world seed source destination operation memo w' calls) :
    Check.firstError (world.requestChecks request) = none := by
  obtain ⟨hsource, hdestination, hissuer, hmemo⟩ := PaymentRequest.ne_upload htexts
  obtain ⟨signer, resolved, composed, remembered⟩ := h
  have hsigned := (signer_decided hsource).firstError_eq_none signer
  have hresolved := (resolved.decided hrecords hdestination).firstError_eq_none rfl
  rw [resolve_same] at composed
  have hcomposed := (composed.decided hissuer (.refl world)).firstError_eq_none rfl
  have hremembered := (Memo.resolve_decided hmemo
    (not_overlong_of_reads hshort resolved)).firstError_eq_none remembered
  rw [requestChecks_eq resolved, Check.firstError_append, Check.firstError_append,
    Check.firstError_append, hsigned, hresolved, hcomposed, hremembered]
  rfl

/-- So do those of the source account if a transaction is assembled. -/
theorem Assembled.firstError_eq_none
    (h : Assembled World.collaborators config request world seed source destination transaction w' calls) :
    Check.firstError (world.requestChecks request ++ world.accountChecks request) = none := by
  obtain ⟨prepared, loaded, assembled⟩ := h
  have hrequest := prepared.firstError_eq_none hrecords hshort htexts
  have hsequence := loaded.sequence?_eq prepared.asBefore
  have hassembled := (assemble_decided (hshort.not_overlong hsequence)).firstError_eq_none assembled
  rw [accountChecks_eq prepared loaded, Check.firstError_append, Check.firstError_append, hrequest,
    hassembled]
  rfl

end Parts

/-! ## Runs -/

theorem Submits.decided {envelope : String} {result : Except Failure Json} (hbefore : AsBefore world w)
    (h : Submits World.collaborators envelope w result) :
    Decides Failure.payment? [world.submissionCheck] result := by
  have hvalue : (World.collaborators.submit envelope w).value = _ :=
    World.submit_value_of_asBefore hbefore envelope
  unfold World.submissionCheck
  cases hsubmission : world.submission with
  | response response =>
    rw [hsubmission] at hvalue
    cases h with
    | accepted => exact .pass rfl _
    | failed answer | fault answer => cases hvalue.symm.trans answer
  | failure message status =>
    rw [hsubmission] at hvalue
    cases h with
    | failed => exact .stop rfl rfl
    | accepted answer | fault answer => cases hvalue.symm.trans answer

theorem Submits.response_eq {envelope : String} {response : Json} (hbefore : AsBefore world w)
    (h : Submits World.collaborators envelope w (.ok response)) :
    world.submission = .response response := by
  have hvalue : (World.collaborators.submit envelope w).value = _ :=
    World.submit_value_of_asBefore hbefore envelope
  cases h with
  | accepted answer =>
    rw [answer] at hvalue
    split at hvalue <;> cases hvalue
    assumption

/-- The list of the checks decides how a run ends. -/
theorem Course.decided {result : Except Failure Json} (hrecords : world.Paired)
    (hshort : world.Convertible request) (htexts : .upload ∉ request.values)
    (hfee : 0 ≤ config.baseFee ∧ config.baseFee < UInt32.size)
    (h : Course World.collaborators config request world result w' calls) :
    Decides Failure.payment? (world.checks request) result := by
  obtain ⟨hsource, hdestination, hissuer, hmemo⟩ := PaymentRequest.ne_upload htexts
  cases h with
  | source signer =>
    have hsigned := (signer_decided hsource).of_eq signer
    exact (hsigned.before _).before _
  | destination signer resolved =>
    have hsigned := (signer_decided hsource).firstError_eq_none signer
    have hresolved := resolved.decided hrecords hdestination
    exact ((hresolved.before _).after hsigned).before _
  | operation signer resolved composed =>
    have hsigned := (signer_decided hsource).firstError_eq_none signer
    have hresolved := (resolved.decided hrecords hdestination).firstError_eq_none rfl
    rw [resolve_same] at composed
    have hcomposed := composed.decided hissuer (.refl world)
    rw [World.checks, requestChecks_eq resolved]
    exact (((hcomposed.before _).after hresolved).after hsigned).before _
  | memo signer resolved composed remembered =>
    have hsigned := (signer_decided hsource).firstError_eq_none signer
    have hresolved := (resolved.decided hrecords hdestination).firstError_eq_none rfl
    rw [resolve_same] at composed
    have hcomposed := (composed.decided hissuer (.refl world)).firstError_eq_none rfl
    have hremembered := (Memo.resolve_decided hmemo
      (not_overlong_of_reads hshort resolved)).of_eq remembered
    rw [World.checks, requestChecks_eq resolved]
    exact (((hremembered.after hcomposed).after hresolved).after hsigned).before _
  | load prepared loaded =>
    have hrequest := prepared.firstError_eq_none hrecords hshort htexts
    have hloaded := loaded.decided prepared.asBefore
    rw [World.checks, World.accountChecks, sourceAccount?_eq prepared.signer]
    exact ((hloaded.before _).before _).after hrequest
  | assembly prepared loaded assembled =>
    have hrequest := prepared.firstError_eq_none hrecords hshort htexts
    have hsequence := loaded.sequence?_eq prepared.asBefore
    have hassembled := (assemble_decided (hshort.not_overlong hsequence)).of_eq assembled
    rw [World.checks, accountChecks_eq prepared loaded]
    exact ((hassembled.after rfl).before _).after hrequest
  | building assembled built =>
    have hassembled := assembled.firstError_eq_none hrecords hshort htexts
    have hbuilt := built.decided (build_decided htexts hfee assembled assembled.asBefore)
    rw [World.checks, ← List.append_assoc]
    exact (hbuilt.before _).after hassembled
  | submission assembled built submitted =>
    have hassembled := assembled.firstError_eq_none hrecords hshort htexts
    have hloaded := assembled.asBefore
    have hbuilt := (built.decided (build_decided htexts hfee assembled hloaded)).firstError_eq_none rfl
    rw [build_same] at submitted
    have hsubmitted := submitted.decided hloaded
    rw [World.checks, ← List.append_assoc]
    exact (hsubmitted.after hbuilt).after hassembled

/-- A run that ends with a value ends with the answer to its submission. -/
theorem Course.response_eq {response : Json}
    (h : Course World.collaborators config request world (.ok response) w' calls) :
    world.submission = .response response := by
  cases h with
  | submission assembled built submitted =>
    rw [build_same] at submitted
    exact submitted.response_eq assembled.asBefore

/-- In a world whose records have whole memos, over texts that are short enough to be converted and with a
fee from 1 to 4294967295, a run ends with the error of the first check that fails, and with the answer to
the submission if none does. -/
theorem execute_firstError (hrecords : world.Paired) (hshort : world.Convertible request)
    (htexts : .upload ∉ request.values) (hfee : 1 ≤ config.baseFee ∧ config.baseFee ≤ 4294967295) :
    (∀ e, Check.firstError (world.checks request) = some e →
      ((execute World.collaborators config request).run { world }).1 = .error (.payment e)) ∧
    (Check.firstError (world.checks request) = none → ∃ response,
      world.submission = .response response ∧
        ((execute World.collaborators config request).run { world }).1 = .ok response) := by
  have hsize := Builder.fee_fits hfee
  have hcourse := execute_course World.collaborators config request world
  have hdecided := hcourse.decided hrecords hshort htexts hsize
  cases hresult : ((execute World.collaborators config request).run { world }).1 with
  | ok response =>
    rw [hresult] at hcourse
    have hnone := hdecided.firstError_eq_none hresult
    refine ⟨fun e he => ?_, fun _ => ⟨response, hcourse.response_eq, rfl⟩⟩
    cases hnone.symm.trans he
  | error failure =>
    obtain ⟨error, hpayment, hfirst⟩ := hdecided.of_eq hresult
    have hfailure : failure = .payment error := Failure.payment?_eq_some.mp hpayment
    refine ⟨fun e he => ?_, fun hnone => ?_⟩
    · cases hfirst.symm.trans he
      rw [hfailure]
    · cases hfirst.symm.trans hnone

end

/-! ## A request with three faults -/

namespace ThreeFaults

/-- Half a pair for the asset that is sent, a memo although the destination has one, and an amount that is
no number. -/
def request : PaymentRequest where
  source := Sample.seed
  destination := "bob*example.org"
  paymentType := "path_payment"
  sendMax := "3.5"
  sendAssetCode := "USD"
  destinationAmount := "much"
  memoType := "text"
  memo := "rent"

theorem paired : TwoLegs.world.Paired := by
  intro address record hlookup
  exact (TwoLegs.whole address record hlookup).paired

theorem convertible : TwoLegs.world.Convertible request where
  memo text htext := by
    cases htext
    decide
  recordMemo address record text hlookup hmemo := by
    simp only [TwoLegs.world, Entries.lookup_cons_ite, List.lookup_nil, Option.ite_none_right_eq_some,
      Option.some.injEq, World.Resolution.record.injEq] at hlookup
    obtain ⟨-, rfl⟩ := hlookup
    cases hmemo
    decide
  sequence account text hlookup := by
    simp only [TwoLegs.world, Entries.lookup_cons_ite, List.lookup_nil, Option.ite_none_right_eq_some,
      Option.some.injEq] at hlookup
    obtain ⟨-, rfl⟩ := hlookup
    decide

end ThreeFaults

/-- Of the three faults that of the pair is found first. -/
theorem threeFaults_firstError :
    ((execute World.collaborators ⟨"network", 100⟩ ThreeFaults.request).run
      { world := TwoLegs.world }).1 = .error (.payment .missingAssetParameter) := by
  have htexts : .upload ∉ ThreeFaults.request.values := by decide
  have hfirst : Check.firstError (TwoLegs.world.checks ThreeFaults.request) =
      some .missingAssetParameter := by decide +kernel
  exact (execute_firstError ThreeFaults.paired ThreeFaults.convertible htexts (by decide)).1 _ hfirst

end Pipeline

end Paygate
