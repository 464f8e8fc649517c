import Paygate.Proofs.Payment.Reading
import Paygate.Proofs.Pipeline.World

/-!
# The order of calls

A payment follows a script: resolve the destination, perhaps look it up, load the source account,
build, submit. A run makes the calls of its script in order and leaves out none, and its outcome
says at which one it stopped.

* `Script`: the calls of a payment that goes through all stages, and its stretches.
* `Script.StopsAt`: where the calls of a run with a given outcome stop.
* `execute_follows_script`: every run over a world in memory follows a script that serves its
  request.
-/

namespace Paygate

/-- Whether a call submits. -/
def Call.isSubmit : Call → Bool
  | .submit _ => true
  | _ => false

/-- A payment in the native asset. -/
def PaymentRequest.IsNativePayment (request : PaymentRequest) : Prop :=
  request.paymentType = "payment" ∧ request.assetCode = "" ∧ request.assetIssuer = ""

instance (request : PaymentRequest) : Decidable request.IsNativePayment :=
  inferInstanceAs (Decidable (_ ∧ _ ∧ _))

namespace Pipeline

/-! ## Scripts -/

/-- A payment that goes through all its stages. -/
structure Script where
  destination : Field
  /-- The account that is looked up before the operation is composed. -/
  lookup : Option String
  source : String
  transaction : Transaction
  seed : String
  envelope : String

namespace Script

/-- The calls before the operation is composed. -/
def opening (p : Script) : List Call := [.resolve p.destination]

/-- The calls before the source account is asked for. -/
def looked (p : Script) : List Call := p.opening ++ (p.lookup.map Call.load).toList

def loaded (p : Script) : List Call := p.looked ++ [.load p.source]

def built (p : Script) : List Call := p.loaded ++ [.build p.transaction p.seed]

/-- All calls. -/
def submitted (p : Script) : List Call := p.built ++ [.submit p.envelope]

/-- Where the calls of a run stop that comes to a payment error. -/
def StopsWith (p : Script) (calls : List Call) : PaymentError → Prop
  | .invalidSource => calls = []
  | .cannotResolveDestination | .invalidDestination | .invalidType | .missingAssetParameter
  | .invalidIssuer => calls = p.opening
  | .missingMemoParameter | .cannotUseMemo | .invalidMemo => calls = p.looked
  | .sourceNotExist => calls = p.loaded
  | .malformedAssetCode | .invalidAmount => calls = p.built
  | .serverError =>
    (p.lookup.isSome = true ∧ calls = p.looked) ∨ calls = p.loaded ∨ calls = p.built ∨
      calls = p.submitted

/-- Where the calls of a run stop, by its outcome. A fault never follows a submission. -/
def StopsAt (p : Script) (calls : List Call) : Except Failure Json → Prop
  | .ok _ => calls = p.submitted
  | .error (.payment e) => p.StopsWith calls e
  | .error (.fault _) => calls <+: p.built

end Script

/-- The source is a seed, and the resolver names a valid key, so that the operation is composed for
this account. -/
def ReachesComposition (world : World) (request : PaymentRequest) (account : String) : Prop :=
  (∃ seed source, PaymentRequest.signer request.source = .ok (seed, source)) ∧
    ∃ record destination, (World.resolve request.destination world).value = .ok record ∧
      record.account = account ∧ StrKey.isValid .account account = true ∧
      Destination.make account record.memoType record.memo = .ok destination

/-- The account that is looked up for a request. -/
def lookup? (request : PaymentRequest) (account : String) : Option String :=
  if request.IsNativePayment then some account else none

/-- The calls are those of a script for this request, as far as they go. -/
structure Script.Serves (p : Script) (world : World) (request : PaymentRequest)
    (calls : List Call) : Prop where
  in_order : calls <+: p.submitted
  destination : p.destination = request.destination
  signer : calls ≠ [] → PaymentRequest.signer request.source = .ok (p.seed, p.source)
  lookup : ∀ account, ReachesComposition world request account →
    p.lookup = lookup? request account ∧ p.looked <+: calls
  unreached : (¬ ∃ account, ReachesComposition world request account) → calls <+: p.opening
  submission : ∀ envelope, .submit envelope ∈ calls →
    calls = p.submitted ∧ (World.build p.transaction p.seed world).value = .ok envelope
  once : calls.countP Call.isSubmit ≤ 1

/-! ## The composition -/

section Composition

variable {ω : Type} {c : Collaborators ω} {request : PaymentRequest} {account : String} {w w' : ω}
  {calls : List Call}

theorem isNativePayment_iff : request.IsNativePayment ↔
    PaymentType.parse request.paymentType = .ok .payment ∧ request.asset = .ok .native := by
  rw [PaymentType.parse_eq_ok_iff, PaymentRequest.asset_eq_native_iff]
  rfl

/-- The lookup is made exactly for payments in the native asset. -/
theorem Composes.calls_eq {result : Except Failure (Option Operation)}
    (h : Composes c request account w result w' calls) :
    calls = ((lookup? request account).map Call.load).toList := by
  unfold lookup?
  simp only [isNativePayment_iff]
  cases h with
  | native type asset => simp [type, asset]
  | inconclusive type asset => simp [type, asset]
  | invalidAsset type asset => simp [asset]
  | issued type asset => simp [asset]
  | invalidType type => simp [type]
  | nothing type => simp [type]
  | invalidPath type => simp [type]
  | path type => simp [type]

/-- The errors of a composition, by whether there was a lookup. -/
theorem Composes.error_cases {e : Failure} (h : Composes c request account w (.error e) w' calls) :
    (lookup? request account = none ∧ (e = .payment .invalidType ∨
      e = .payment .missingAssetParameter ∨ e = .payment .invalidIssuer)) ∨
    ((lookup? request account).isSome = true ∧ e = .payment .serverError) ∨ ∃ f, e = .fault f := by
  unfold lookup?
  simp only [isNativePayment_iff]
  cases h with
  | invalidType type => simp [type, PaymentType.parse_error type]
  | invalidPath type path => simp [type, PaymentRequest.pathPayment_error path]
  | invalidAsset type asset =>
    rcases Asset.resolveChecked_error asset with rfl | rfl | rfl
    · simp [asset]
    · simp [asset]
    · exact .inr (.inr ⟨_, rfl⟩)
  | inconclusive type asset lookup =>
    cases lookup with
    | failed answer => simp [type, asset]
    | fault answer => exact .inr (.inr ⟨_, rfl⟩)

end Composition

/-! ## Which calls serve a request -/

namespace Script

variable {p : Script} {world : World} {request : PaymentRequest} {calls : List Call}

theorem looked_prefix_loaded (p : Script) : p.looked <+: p.loaded := List.prefix_append _ _

theorem loaded_prefix_built (p : Script) : p.loaded <+: p.built := List.prefix_append _ _

theorem built_prefix_submitted (p : Script) : p.built <+: p.submitted := List.prefix_append _ _

theorem opening_prefix_submitted (p : Script) : p.opening <+: p.submitted := by
  simp [submitted, built, loaded, looked]

theorem not_submit_mem_built {envelope : String} : .submit envelope ∉ p.built := by
  cases h : p.lookup <;> simp [built, loaded, looked, opening, h]

/-- A submission is the last call, and there is no other. -/
theorem eq_submitted_of_submit_mem {envelope : String} (h : calls <+: p.submitted)
    (hsubmit : .submit envelope ∈ calls) : calls = p.submitted ∧ envelope = p.envelope := by
  rcases List.prefix_concat_iff.mp h with h | h
  · refine ⟨h, ?_⟩
    rw [h, List.mem_append] at hsubmit
    rcases hsubmit with hbuilt | hlast
    · exact absurd hbuilt not_submit_mem_built
    · simpa using hlast
  · exact absurd (h.subset hsubmit) not_submit_mem_built

theorem countP_submit_le (h : calls <+: p.submitted) : calls.countP Call.isSubmit ≤ 1 := by
  have hcount : p.submitted.countP Call.isSubmit = 1 := by
    cases hlookup : p.lookup <;>
      simp [submitted, built, loaded, looked, opening, hlookup, List.countP_cons, Call.isSubmit]
  exact hcount ▸ h.sublist.countP_le

/-- The calls of a run that does not reach the composition. -/
theorem serves_of_unreached (hdestination : p.destination = request.destination)
    (hcalls : calls <+: p.opening)
    (hsigner : calls ≠ [] → PaymentRequest.signer request.source = .ok (p.seed, p.source))
    (hunreached : ¬ ∃ account, ReachesComposition world request account) :
    p.Serves world request calls where
  in_order := hcalls.trans p.opening_prefix_submitted
  destination := hdestination
  signer := hsigner
  lookup account h := absurd ⟨account, h⟩ hunreached
  unreached _ := hcalls
  submission envelope h := by
    have hopening := hcalls.subset h
    simp [opening] at hopening
  once := countP_submit_le (hcalls.trans p.opening_prefix_submitted)

/-- The calls of a run that reaches the composition. -/
theorem serves_of_reached {destination : Destination}
    (hdestination : p.destination = request.destination)
    (hsigner : PaymentRequest.signer request.source = .ok (p.seed, p.source))
    (hresolved : Resolves World.collaborators request.destination world (.ok destination))
    (hlookup : p.lookup = lookup? request destination.account)
    (hlooked : p.looked <+: calls)
    (hcalls : calls <+: p.built ∨
      calls = p.submitted ∧ (World.build p.transaction p.seed world).value = .ok p.envelope) :
    p.Serves world request calls := by
  have hin : calls <+: p.submitted := by
    rcases hcalls with h | ⟨rfl, -⟩
    · exact h.trans p.built_prefix_submitted
    · exact List.prefix_refl _
  cases hresolved with | @found record key destination answer valid whole =>
  obtain ⟨hkey, hvalid⟩ := StrKey.key?_eq_some_iff.mp valid
  have haccount := Destination.make_account whole
  refine ⟨hin, hdestination, fun _ => hsigner, ?_, ?_, ?_, countP_submit_le hin⟩
  · rintro account ⟨-, record', _, answer', hnamed, -, -⟩
    have hrecord : record = record' := Except.ok.inj (answer.symm.trans answer')
    have hsame : key = account := Str.whole.inj (hkey.symm.trans (hrecord ▸ hnamed))
    rw [← hsame, ← haccount]
    exact ⟨hlookup, hlooked⟩
  · intro hunreached
    exact absurd ⟨key, ⟨_, _, hsigner⟩, record, destination, answer, hkey, hvalid, whole⟩ hunreached
  · intro envelope h
    rcases hcalls with hbuilt | ⟨heq, hbuilt⟩
    · exact absurd (hbuilt.subset h) not_submit_mem_built
    · exact ⟨heq, (eq_submitted_of_submit_mem hin h).2 ▸ hbuilt⟩

end Script

/-! ## Runs -/

section Runs

variable {world w' : World} {config : Config} {request : PaymentRequest} {calls : List Call}

theorem unreached_of_signer_error {e : Failure}
    (h : PaymentRequest.signer request.source = .error e) :
    ¬ ∃ account, ReachesComposition world request account := by
  rintro ⟨_, ⟨seed, source, h'⟩, -⟩
  rw [h] at h'
  cases h'

theorem unreached_of_resolves_error {e : Failure}
    (h : Resolves World.collaborators request.destination world (.error e)) :
    ¬ ∃ account, ReachesComposition world request account := by
  rintro ⟨account, -, record, destination, answer, hkey, hvalid, whole⟩
  have hresolved : (World.collaborators.resolve request.destination world).value = .ok record :=
    answer
  have valid : StrKey.key? .account record.account = some account :=
    StrKey.key?_eq_some_iff.mpr ⟨hkey, hvalid⟩
  cases h with
  | fault h => simp [hresolved] at h
  | unresolved h => simp [hresolved] at h
  | invalid h invalid =>
    cases hresolved.symm.trans h
    simp [valid] at invalid
  | malformed h named half =>
    cases hresolved.symm.trans h
    cases valid.symm.trans named
    simp [whole] at half

/-- The script of a request whose destination is this account. -/
def scriptOf (request : PaymentRequest) (account source : String) (transaction : Transaction)
    (seed envelope : String) : Script :=
  ⟨request.destination, lookup? request account, source, transaction, seed, envelope⟩

/-- A transaction in the place of one that is never built. -/
def unbuilt : Transaction := ⟨"", 0, "", 0, .unsupported "", .none⟩

theorem looked_scriptOf {account source seed envelope : String} {transaction : Transaction}
    {result : Except Failure (Option Operation)} {w : World}
    (h : Composes World.collaborators request account w result w' calls) :
    (scriptOf request account source transaction seed envelope).looked =
      .resolve request.destination :: calls := by
  rw [h.calls_eq]
  rfl

variable {seed source envelope : String} {destination : Destination} {transaction : Transaction}

/-- A run that reaches the composition and submits nothing. -/
theorem serves_scriptOf (signer : PaymentRequest.signer request.source = .ok (seed, source))
    (resolved : Resolves World.collaborators request.destination world (.ok destination))
    (hlooked : (scriptOf request destination.account source transaction seed envelope).looked <+: calls)
    (hbuilt : calls <+: (scriptOf request destination.account source transaction seed envelope).built) :
    (scriptOf request destination.account source transaction seed envelope).Serves world request
      calls :=
  Script.serves_of_reached rfl signer resolved rfl hlooked (.inl hbuilt)

/-- Up to the submission the builder answers as it would in the first world. -/
theorem build_value_of_assembled
    (assembled : Assembled World.collaborators config request world seed source destination
      transaction w' calls)
    (built : Builds World.collaborators transaction seed (World.load source w').world (.ok envelope)) :
    (World.build transaction seed world).value = .ok envelope := by
  obtain ⟨prepared, -, -⟩ := assembled
  have hcomposed := World.composes_asBefore prepared.composed
  have hbefore : World.AsBefore world (World.load source w').world :=
    (World.resolve_world request.destination world ▸ hcomposed).trans (World.load_world source w')
  cases built with
  | built answer => exact (World.build_value_of_asBefore hbefore transaction seed).symm.trans answer

theorem course_follows_script {result : Except Failure Json}
    (h : Course World.collaborators config request world result w' calls) :
    ∃ script : Script, script.Serves world request calls ∧ script.StopsAt calls result := by
  cases h with
  | source signer =>
    refine ⟨scriptOf request "" "" unbuilt "" "", Script.serves_of_unreached rfl List.nil_prefix
      (by simp) (unreached_of_signer_error signer), ?_⟩
    rcases PaymentRequest.signer_error signer with rfl | rfl
    · rfl
    · exact List.nil_prefix
  | @destination seed source e signer resolved =>
    refine ⟨scriptOf request "" source unbuilt seed "", Script.serves_of_unreached rfl
      (List.prefix_refl _) (fun _ => signer) (unreached_of_resolves_error resolved), ?_⟩
    cases resolved with
    | unresolved | invalid => rfl
    | fault | malformed =>
      simp [Script.StopsAt, Script.built, Script.loaded, Script.looked, Script.opening, scriptOf]
  | @operation seed source destination e w' calls signer resolved composed =>
    let p := scriptOf request destination.account source unbuilt seed ""
    have hbuilt := p.looked_prefix_loaded.trans p.loaded_prefix_built
    rw [← looked_scriptOf composed]
    refine ⟨p, serves_scriptOf signer resolved (List.prefix_refl _) hbuilt, ?_⟩
    rcases composed.error_cases with ⟨hnone, rfl | rfl | rfl⟩ | ⟨hsome, rfl⟩ | ⟨f, rfl⟩
    · simp [p, Script.StopsAt, Script.StopsWith, Script.looked, Script.opening, scriptOf, hnone]
    · simp [p, Script.StopsAt, Script.StopsWith, Script.looked, Script.opening, scriptOf, hnone]
    · simp [p, Script.StopsAt, Script.StopsWith, Script.looked, Script.opening, scriptOf, hnone]
    · exact .inl ⟨hsome, rfl⟩
    · exact hbuilt
  | @memo seed source destination operation e w' calls signer resolved composed remembered =>
    let p := scriptOf request destination.account source unbuilt seed ""
    have hbuilt := p.looked_prefix_loaded.trans p.loaded_prefix_built
    rw [← looked_scriptOf composed]
    refine ⟨p, serves_scriptOf signer resolved (List.prefix_refl _) hbuilt, ?_⟩
    rcases Memo.resolve_error remembered with rfl | rfl | rfl | ⟨f, rfl⟩
    · rfl
    · rfl
    · rfl
    · exact hbuilt
  | @load seed source destination operation memo e w' calls prepared loaded =>
    let p := scriptOf request destination.account source unbuilt seed ""
    rw [← looked_scriptOf prepared.composed]
    refine ⟨p, serves_scriptOf prepared.signer prepared.resolved p.looked_prefix_loaded
      p.loaded_prefix_built, ?_⟩
    cases loaded with
    | failed => rfl
    | fault => exact p.loaded_prefix_built
  | @assembly seed source sequence destination operation memo e w' calls prepared loaded assembled =>
    let p := scriptOf request destination.account source unbuilt seed ""
    rw [← looked_scriptOf prepared.composed]
    refine ⟨p, serves_scriptOf prepared.signer prepared.resolved p.looked_prefix_loaded
      p.loaded_prefix_built, ?_⟩
    rcases Transaction.assemble_error assembled with rfl | ⟨f, rfl⟩
    · exact .inr (.inl rfl)
    · exact p.loaded_prefix_built
  | @building seed source destination transaction e w' calls assembled built =>
    obtain ⟨prepared, -, -⟩ := assembled
    let p := scriptOf request destination.account source transaction seed ""
    have hcalls : p.built = .resolve request.destination :: calls ++
        [.load source, .build transaction seed] := by
      rw [← looked_scriptOf prepared.composed]
      simp [p, Script.built, Script.loaded, scriptOf]
      rfl
    rw [← hcalls]
    refine ⟨p, serves_scriptOf prepared.signer prepared.resolved
      (p.looked_prefix_loaded.trans p.loaded_prefix_built) (List.prefix_refl _), ?_⟩
    cases built with
    | @failed e answer =>
      rcases hkind : e.kind with _ | _ | _
      · rfl
      · rfl
      · exact .inr (.inr (.inl rfl))
    | fault => exact List.prefix_refl _
  | @submission seed source destination transaction envelope result w' calls assembled built
      submitted =>
    have henvelope := build_value_of_assembled assembled built
    obtain ⟨prepared, -, -⟩ := assembled
    let p := scriptOf request destination.account source transaction seed envelope
    have hcalls : p.submitted = .resolve request.destination :: calls ++
        [.load source, .build transaction seed, .submit envelope] := by
      rw [← looked_scriptOf prepared.composed]
      simp [p, Script.submitted, Script.built, Script.loaded, scriptOf]
      rfl
    rw [← hcalls]
    refine ⟨p, Script.serves_of_reached rfl prepared.signer prepared.resolved rfl
      (p.looked_prefix_loaded.trans (p.loaded_prefix_built.trans p.built_prefix_submitted))
      (.inr ⟨rfl, henvelope⟩), ?_⟩
    cases submitted with
    | accepted => rfl
    | failed => exact .inr (.inr (.inr rfl))
    | @fault f answer =>
      rcases World.submit_value envelope (World.build transaction seed
        (World.load source w').world).world with ⟨response, h⟩ | ⟨e, h⟩
      · cases h.symm.trans answer
      · cases h.symm.trans answer

end Runs

/-- The calls of a run over a world in memory are those of a script for its request, in order and up
to where its outcome says. -/
theorem execute_follows_script (world : World) (config : Config) (request : PaymentRequest) :
    ∃ script : Script,
      script.Serves world request
        ((execute World.collaborators config request).run { world }).2.calls ∧
      script.StopsAt ((execute World.collaborators config request).run { world }).2.calls
        ((execute World.collaborators config request).run { world }).1 :=
  course_follows_script (execute_course World.collaborators config request world)

end Pipeline

end Paygate
