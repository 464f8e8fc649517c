import Paygate.Log.Shown
import Paygate.Proofs.Pipeline.Stages
import Paygate.Proofs.Text.SeedText

/-!
# What a run writes into its log

A run writes its own records and those of its collaborators. A seed can only get into them from a value
that a record shows, so a seed that stands in none of the values that are shown
(`PaymentRequest.shown`), and that discreet collaborators do not bring up, is in no record.

* `Run.Writes`: what holds of all records of a part of the pipeline, and of what it comes to.
* `Collaborators.Discreet`: the answers and records of the collaborators mention no seed that they were
  not told in an address, an account or an operation.
* `execute_silent`: then no record of a run mentions it.
-/

namespace Paygate

open StrKey (AccountKey)

/-! ## Records -/

namespace Log

/-- What a record shows of an attribute. -/
def Value.texts : Value → List Str
  | .json value => [value.shown]
  | .upload => []

/-- Everything that a record says: its message, its attributes, and the exception that it reports. -/
def Record.texts (record : Record) : List Str :=
  record.message :: record.attributes.flatMap (·.2.texts) ++ record.exception.toList

/-- The seed stands nowhere in the record. -/
def Record.Silent (seed : String) (record : Record) : Prop :=
  ∀ text ∈ record.texts, Paygate.Silent seed text

end Log

theorem PaymentError.code_length_lt (error : PaymentError) : error.code.toList.length < 56 := by
  cases error <;> decide

/-- A record says its message and what its attributes show. -/
theorem Log.Record.silent_iff {seed : String} {level : Level} {logger message : Str}
    {attributes : List (Str × Value)} :
    Record.Silent seed { level, logger, message, attributes } ↔
      Paygate.Silent seed message ∧
        ∀ shown ∈ attributes, ∀ text ∈ shown.2.texts, Paygate.Silent seed text := by
  simp only [Record.Silent, Record.texts, Option.toList_none, List.append_nil, List.forall_mem_cons,
    List.mem_flatMap, forall_exists_index, and_imp]
  constructor
  · exact fun h => ⟨h.1, fun a ha text htext => h.2 text a ha htext⟩
  · exact fun h => ⟨h.1, fun text a ha htext => h.2 a ha text htext⟩

/-! ## Parts of the pipeline -/

namespace Run

variable {ω α β : Type} {I : ω → Prop} {seed : String} {m : Run ω α} {f : α → Run ω β} {Q : α → Prop}
  {R : β → Prop}

/-- An answer that leaves the world as `I` says, whose records are silent, and whose value is as `Q`
says. -/
structure Keeps (I : ω → Prop) (seed : String) (Q : α → Prop) (answer : Answer ω α) : Prop where
  world : I answer.world
  logs : ∀ record ∈ answer.logs, record.Silent seed
  value : Q answer.value

/-- The part keeps a log silent in worlds as `I` says, and if it comes to a value, it is as `Q` says. -/
def Writes (I : ω → Prop) (seed : String) (m : Run ω α) (Q : α → Prop) : Prop :=
  ∀ s : Session ω, I s.world → (∀ record ∈ s.logs, record.Silent seed) →
    I (m.run s).2.world ∧ (∀ record ∈ (m.run s).2.logs, record.Silent seed) ∧
      ∀ a, (m.run s).1 = .ok a → Q a

theorem Writes.pure {a : α} (h : Q a) : Writes I seed (Pure.pure a) Q := by
  intro s hworld hlogs
  refine ⟨hworld, hlogs, ?_⟩
  rintro b hb
  cases hb
  exact h

theorem Writes.throw (e : Failure) : Writes I seed (throw e : Run ω α) Q :=
  fun _ hworld hlogs => ⟨hworld, hlogs, nofun⟩

theorem Writes.ofExcept {x : Except Failure α} (h : ∀ a, x = .ok a → Q a) :
    Writes I seed (ofExcept x) Q := by
  cases x with
  | ok a => exact .pure (h a rfl)
  | error e => exact .throw e

theorem Writes.ofPayment {x : Except PaymentError α} (h : ∀ a, x = .ok a → Q a) :
    Writes I seed (ofPayment x) Q := by
  cases x with
  | ok a => exact .pure (h a rfl)
  | error e => exact .throw (.payment e)

theorem Writes.log {record : Log.Record} (h : record.Silent seed) :
    Writes I seed (log record) fun _ => True :=
  fun _ hworld hlogs => ⟨hworld,
    List.forall_mem_append.mpr ⟨hlogs, List.forall_mem_singleton.mpr h⟩, fun _ _ => trivial⟩

theorem Writes.ask {call : Call} {answer : ω → Answer ω α} (h : ∀ w, I w → Keeps I seed Q (answer w)) :
    Writes I seed (ask call answer) Q := by
  intro s hworld hlogs
  have hanswer := h s.world hworld
  refine ⟨hanswer.world, List.forall_mem_append.mpr ⟨hlogs, hanswer.logs⟩, ?_⟩
  rintro a ha
  cases ha
  exact hanswer.value

/-- One part after another. -/
theorem Writes.bind (hm : Writes I seed m Q) (hf : ∀ a, Q a → Writes I seed (f a) R) :
    Writes I seed (m >>= f) R := by
  intro s hworld hlogs
  obtain ⟨hworld', hlogs', hvalue⟩ := hm s hworld hlogs
  rw [run_bind]
  rcases hrun : m.run s with ⟨result, s'⟩
  rw [hrun] at hworld' hlogs' hvalue
  cases result with
  | ok a => exact hf a (hvalue a rfl) s' hworld' hlogs'
  | error e => exact ⟨hworld', hlogs', nofun⟩

/-- A record, and then the end. -/
theorem Writes.log_bind {record : Log.Record} {rest : Run ω β} (h : record.Silent seed)
    (hrest : Writes I seed rest R) : Writes I seed (do Run.log record; rest) R :=
  (Writes.log h).bind fun _ _ => hrest

end Run

/-! ## Collaborators -/

namespace Pipeline

/-- A resolution names an account, or says why there is none. -/
def SilentResolution (seed : String) : Except ResolverFailure FederationRecord → Prop
  | .ok record => Silent seed record.account
  | .error (.unresolved message) => Silent seed message
  | .error (.fault _) => True

/-- An answer of the ledger only says something if it is an error. -/
def SilentAnswer {α : Type} (seed : String) : Except LedgerFailure α → Prop
  | .error (.error e) => Silent seed e.message
  | _ => True

/-- An answer of the builder only says something if it is an error. -/
def SilentBuild (seed : String) : Except BuildFailure String → Prop
  | .error (.error e) => Silent seed e.message
  | _ => True

end Pipeline

open Pipeline (SilentResolution SilentAnswer SilentBuild)

/-- The collaborators do not bring up the seed. What they say mentions it only if the address, the
account or the operation does that they were asked about, and they leave the world as `I` says. The
builder is given the seed that signs, so this is a demand on it too. -/
structure Collaborators.Discreet {ω : Type} (c : Collaborators ω) (seed : String) (I : ω → Prop) : Prop where
  resolve : ∀ {address w}, I w → address.Silent seed →
    Run.Keeps I seed (SilentResolution seed) (c.resolve address w)
  load : ∀ {account w}, I w → AccountKey account →
    Run.Keeps I seed (SilentAnswer seed) (c.load account w)
  build : ∀ {transaction signer w}, I w → (Call.build transaction signer).Vetted →
    (∀ value ∈ transaction.operation.values, value.Silent seed) →
    Run.Keeps I seed (SilentBuild seed) (c.build transaction signer w)
  submit : ∀ {envelope w}, I w → Run.Keeps I seed (SilentAnswer seed) (c.submit envelope w)

/-! ## Values that are shown -/

namespace PaymentRequest

/-- The values that the operation of a request is composed of, by its type. The issuer of what a simple
payment sends is not among them: it is used only if it is an account key. -/
def composedOf (request : PaymentRequest) : List Field :=
  match PaymentType.parse request.paymentType with
  | .ok .payment => [request.amount, request.assetCode]
  | .ok .pathPayment =>
    [request.sendAssetCode, request.sendAssetIssuer, request.sendMax, request.destinationAssetCode,
      request.destinationAssetIssuer, request.destinationAmount] ++
        request.path.flatMap fun pair => [pair.1, pair.2]
  | _ => []

/-- The values that can get into the records of a run: the address, and what the operation is composed
of. The source and the memo are not among them. -/
def shown (request : PaymentRequest) : List Field := request.destination :: request.composedOf

end PaymentRequest

namespace Pipeline

open Run (Writes)

variable {ω : Type} {c : Collaborators ω} {config : Config} {request : PaymentRequest} {I : ω → Prop}
  {seed : String}

/-- An operation is silent if the values are that it is composed of. -/
theorem Composed.silent (hseed : IsSeed seed) {account : String} {operation : Operation}
    (h : Composed request account operation)
    (hshown : ∀ value ∈ request.composedOf, value.Silent seed) :
    ∀ value ∈ operation.values, value.Silent seed := by
  have hempty : Silent seed "" := hseed.silent_of_length_lt (by decide)
  cases h with
  | @path sendAsset destinationAsset path type send destination legs =>
    intro value hvalue
    rw [Operation.values, send, destination, legs] at hvalue
    rw [PaymentRequest.composedOf, type] at hshown
    exact hshown value hvalue
  | @payment asset type asset_eq =>
    rw [PaymentRequest.composedOf, type] at hshown
    have hpair := (Asset.resolveChecked_eq_ok_iff.mp asset_eq).1
    have hissuer : asset.pair.2.Silent seed := by
      have hvetted := PaymentRequest.asset_vetted asset_eq
      cases asset with
      | native => exact hempty
      | issued a =>
        obtain ⟨key, hkey, haccount⟩ := hvetted
        rw [Asset.pair, hkey]
        exact hseed.silent_accountKey haccount
    have hcode : asset.pair.1 = request.assetCode := congrArg Prod.fst hpair
    simp only [Operation.values, List.forall_mem_cons, hcode] at hshown ⊢
    exact ⟨hshown.2.1, hissuer, hshown.1, List.forall_mem_nil _⟩
  | creation type =>
    rw [PaymentRequest.composedOf, type] at hshown
    simp only [Operation.values, List.forall_mem_cons] at hshown ⊢
    exact ⟨hshown.1, List.forall_mem_nil _⟩

/-! ## Stages -/

/-- A record about an account whose message is silent is silent. -/
theorem silent_of_account (hseed : IsSeed seed) {level : Log.Level} {logger message account : String}
    (key : AccountKey account) (hmessage : Silent seed message) : Log.Record.Silent seed
      { level, logger, message, attributes := [("account_id", .text account)] } := by
  refine Log.Record.silent_iff.mpr ⟨hmessage, ?_⟩
  rw [List.forall_mem_singleton]
  exact List.forall_mem_singleton.mpr (hseed.silent_accountKey key)

section

variable (hseed : IsSeed seed) (hc : c.Discreet seed I)

include hseed hc

theorem resolveDestination_writes {address : Field} (haddress : address.Silent seed) :
    Writes I seed (resolveDestination c address) fun destination => AccountKey destination.account := by
  refine (Writes.ask fun w hw => hc.resolve hw haddress).bind fun answer hanswer => ?_
  match answer with
  | .error (.fault f) => exact .throw _
  | .error (.unresolved message) =>
    refine .log_bind (Log.Record.silent_iff.mpr ⟨?_, ?_⟩) (.throw _)
    · exact (hseed.silent_str_append (by decide)).mpr hanswer
    · simp only [List.forall_mem_singleton]
      cases address with
      | text s => exact List.forall_mem_singleton.mpr haddress
      | upload => exact List.forall_mem_nil _
  | .ok record =>
    dsimp only
    split
    · rename_i account hkey
      obtain ⟨-, hvalid⟩ := StrKey.key?_eq_some_iff.mp hkey
      cases hmake : Destination.make account record.memoType record.memo with
      | error cause => exact .throw _
      | ok destination =>
        refine .pure ?_
        rw [Destination.make_account hmake]
        exact StrKey.accountKey_of_isValid hvalid
    · refine .log_bind (Log.Record.silent_iff.mpr ⟨hseed.silent_of_length_lt (by decide), ?_⟩) (.throw _)
      simp only [List.forall_mem_singleton]
      exact List.forall_mem_singleton.mpr hanswer

theorem destinationExists_writes {account : String} (key : AccountKey account) :
    Writes I seed (destinationExists c account) fun _ => True := by
  refine (Writes.ask fun w hw => hc.load hw key).bind fun answer hanswer => ?_
  match answer with
  | .ok _ => exact .pure trivial
  | .error (.fault f) => exact .throw _
  | .error (.error (.accountNotFound _)) =>
    exact .log_bind (silent_of_account hseed key (hseed.silent_of_length_lt (by decide)))
      (.pure trivial)
  | .error (.error (.failed message status)) =>
    exact .log_bind (silent_of_account hseed key ((hseed.silent_append (by decide)).mpr hanswer))
      (.throw _)

/-- What is composed holds the values of the request, for a destination and an issuer that were vetted. -/
theorem composeOperation_writes {destination : Destination} (key : AccountKey destination.account) :
    Writes I seed (composeOperation c request destination) fun operation =>
      ∀ composed, operation = some composed → Composed request destination.account composed := by
  refine (Writes.ofPayment fun type htype => htype).bind fun type htype => ?_
  have htypes : ∀ t : PaymentType, t.value.toList.length < 56 := by
    intro t
    cases t <;> decide
  refine .log_bind (Log.Record.silent_iff.mpr ⟨hseed.silent_of_length_lt (by decide), ?_⟩) ?_
  · rw [List.forall_mem_singleton]
    exact List.forall_mem_singleton.mpr (hseed.silent_of_length_lt (htypes type))
  cases type with
  | none =>
    refine .pure ?_
    rintro _ ⟨⟩
  | pathPayment =>
    refine (Writes.ofPayment fun operation hpath => hpath).bind fun operation hpath => .pure ?_
    rintro _ ⟨⟩
    obtain ⟨_, _, _, hsend, hdestination, hlegs, rfl⟩ := PaymentRequest.pathPayment_eq_ok_iff.mp hpath
    exact .path htype hsend hdestination hlegs
  | payment =>
    refine (Writes.ofExcept fun asset hasset => hasset).bind fun asset hasset => ?_
    have hpays : Composed request destination.account (.payment destination.account asset request.amount) :=
      .payment htype hasset
    cases asset with
    | issued asset =>
      refine (Writes.pure (Q := fun _ => True) trivial).bind fun found _ => .pure ?_
      rintro _ ⟨⟩
      exact hpays
    | native =>
      refine (destinationExists_writes hseed hc key).bind fun found _ => .pure ?_
      rintro _ ⟨⟩
      cases found with
      | true => exact hpays
      | false => exact .creation htype hasset

theorem loadSequence_writes {account : String} (key : AccountKey account) :
    Writes I seed (loadSequence c account) fun _ => True := by
  refine (Writes.ask fun w hw => hc.load hw key).bind fun answer hanswer => ?_
  match answer with
  | .ok _ => exact .pure trivial
  | .error (.fault f) => exact .throw _
  | .error (.error e) =>
    exact .log_bind (silent_of_account hseed key ((hseed.silent_append (by decide)).mpr hanswer))
      (.throw _)

theorem buildEnvelope_writes {transaction : Transaction} {signer : String}
    (hvetted : (Call.build transaction signer).Vetted)
    (hvalues : ∀ value ∈ transaction.operation.values, value.Silent seed) :
    Writes I seed (buildEnvelope c transaction signer) fun _ => True := by
  refine (Writes.ask fun w hw => hc.build hw hvetted hvalues).bind fun answer hanswer => ?_
  match answer with
  | .ok _ => exact .pure trivial
  | .error (.fault f) => exact .throw _
  | .error (.error e) =>
    refine .log_bind (Log.Record.silent_iff.mpr ⟨(hseed.silent_str_append (by decide)).mpr hanswer, ?_⟩)
      (.throw _)
    rw [List.forall_mem_cons, List.forall_mem_singleton]
    exact ⟨List.forall_mem_singleton.mpr (hseed.silent_of_length_lt e.kind.paymentError.code_length_lt),
      List.forall_mem_singleton.mpr (hseed.silent_of_not_mem (Text.not_mem_toString_int _))⟩

theorem submit_writes {envelope : String} : Writes I seed (submit c envelope) fun _ => True := by
  refine (Writes.ask fun w hw => hc.submit hw).bind fun answer hanswer => ?_
  match answer with
  | .ok _ => exact .pure trivial
  | .error (.fault f) => exact .throw _
  | .error (.error e) =>
    exact .log_bind (Log.Record.silent_iff.mpr
      ⟨(hseed.silent_str_append (by decide)).mpr hanswer, List.forall_mem_nil _⟩) (.throw _)

/-! ## Runs -/

theorem execute_writes (hshown : ∀ value ∈ request.shown, value.Silent seed) :
    Writes I seed (execute c config request) fun _ => True := by
  rw [PaymentRequest.shown, List.forall_mem_cons] at hshown
  refine (Writes.ofExcept fun signed hsigned => hsigned).bind fun ⟨signer, source⟩ hsigned => ?_
  have hsource := PaymentRequest.signer_key hsigned
  refine (resolveDestination_writes hseed hc hshown.1).bind fun destination hdestination => ?_
  refine (composeOperation_writes hseed hc hdestination).bind fun operation hoperation => ?_
  refine (Writes.ofExcept (Q := fun _ => True) fun _ _ => trivial).bind fun memo _ => ?_
  refine (loadSequence_writes hseed hc hsource).bind fun sequence _ => ?_
  refine (Writes.ofExcept fun transaction hassembled => hassembled).bind fun transaction hassembled => ?_
  obtain ⟨_, composed, -, hsome, rfl⟩ := Transaction.assemble_eq_ok hassembled
  have hcomposed := hoperation composed hsome
  refine (buildEnvelope_writes hseed hc (.build hsource (hcomposed.vetted hdestination))
    (hcomposed.silent hseed hshown.2)).bind fun envelope _ => ?_
  exact submit_writes hseed hc

/-- A run with discreet collaborators writes no record with a seed that stands in none of the values
that it shows. -/
theorem execute_silent (hshown : ∀ value ∈ request.shown, value.Silent seed) {w : ω} (hw : I w) :
    I ((execute c config request).run { world := w }).2.world ∧
      ∀ record ∈ ((execute c config request).run { world := w }).2.logs, record.Silent seed := by
  have hwrites : Writes I seed (execute c config request) fun _ => True :=
    execute_writes hseed hc hshown
  obtain ⟨hworld, hlogs, -⟩ := hwrites { world := w } hw (List.forall_mem_nil _)
  exact ⟨hworld, hlogs⟩

end

end Pipeline

end Paygate
