import Paygate.Pipeline.Execute
import Paygate.Proofs.Payment.Reading
import Paygate.Proofs.Pipeline.Run

/-!
# The course of a payment

What each stage of the pipeline can come to, and under which answers of the collaborators. The
relations `Resolves`, `Looks`, `Composes`, `Loads`, `Builds` and `Submits` have one constructor for
each end of their stage; `Course` puts the stages in their order and has one constructor for each
stage that can be the last. `execute_course` says that every run takes such a course, so a property
of all runs is a case analysis on `Course`.

* `Prepared`: the stages before the source account is asked for have come to an operation and memo.
* `Composes.unique`: the answers determine what the stages come to.
* `execute_course`, `Course.unique`: a run takes a course, and a request takes one course only.
* `Composed`: the operation that a request asks for.
* `Course.assembled_of_build`, `Course.build_mem_of_assembled`: the builder is given exactly the
  transactions that are assembled.
-/

namespace Paygate.Pipeline

open Run (Ends)

variable {ω : Type}

/-! ## Stages -/

/-- What the resolution of an address comes to. -/
inductive Resolves (c : Collaborators ω) (address : Field) (w : ω) : Except Failure Destination → Prop
  | fault {f : Fault} (answer : (c.resolve address w).value = .error (.fault f)) :
      Resolves c address w (.error (.fault f))
  | unresolved {message : Str} (answer : (c.resolve address w).value = .error (.unresolved message)) :
      Resolves c address w (.error (.payment .cannotResolveDestination))
  | invalid {record : FederationRecord} (answer : (c.resolve address w).value = .ok record)
      (invalid : StrKey.key? .account record.account = none) :
      Resolves c address w (.error (.payment .invalidDestination))
  | malformed {record : FederationRecord} {account : String} {cause : Malformed}
      (answer : (c.resolve address w).value = .ok record)
      (valid : StrKey.key? .account record.account = some account)
      (half : Destination.make account record.memoType record.memo = .error cause) :
      Resolves c address w (.error (.fault (.malformed cause)))
  | found {record : FederationRecord} {account : String} {destination : Destination}
      (answer : (c.resolve address w).value = .ok record)
      (valid : StrKey.key? .account record.account = some account)
      (whole : Destination.make account record.memoType record.memo = .ok destination) :
      Resolves c address w (.ok destination)

theorem resolveDestination_ends (c : Collaborators ω) (address : Field) (w : ω) :
    ∃ result, Ends (resolveDestination c address) w result (c.resolve address w).world
      [.resolve address] ∧ Resolves c address w result := by
  have asked := Ends.ask (.resolve address) (c.resolve address) w
  cases answer : (c.resolve address w).value with
  | error failure =>
    rw [answer] at asked
    cases failure with
    | fault f => exact ⟨_, asked.bind (.throw _ _), .fault answer⟩
    | unresolved message =>
      exact ⟨_, asked.bind ((Ends.log _ _).bind (.throw _ _)), .unresolved answer⟩
  | ok record =>
    rw [answer] at asked
    cases valid : StrKey.key? .account record.account with
    | none =>
      refine ⟨_, asked.bind ?_, .invalid answer valid⟩
      simp only [valid]
      exact (Ends.log _ _).bind (.throw _ _)
    | some account =>
      cases whole : Destination.make account record.memoType record.memo with
      | error cause =>
        refine ⟨_, asked.bind ?_, .malformed answer valid whole⟩
        simp only [valid, whole]
        exact .throw _ _
      | ok destination =>
        refine ⟨_, asked.bind ?_, .found answer valid whole⟩
        simp only [valid, whole]
        exact .pure _ _

/-- What the lookup of an account comes to. Only a confirmed absence is an absence. -/
inductive Looks (c : Collaborators ω) (account : String) (w : ω) : Except Failure Bool → Prop
  | present {record : AccountRecord} (answer : (c.load account w).value = .ok record) :
      Looks c account w (.ok true)
  | absent {id : String} (answer : (c.load account w).value = .error (.error (.accountNotFound id))) :
      Looks c account w (.ok false)
  | failed {message : String} {status : Option Nat}
      (answer : (c.load account w).value = .error (.error (.failed message status))) :
      Looks c account w (.error (.payment .serverError))
  | fault {f : Fault} (answer : (c.load account w).value = .error (.fault f)) :
      Looks c account w (.error (.fault f))

theorem destinationExists_ends (c : Collaborators ω) (account : String) (w : ω) :
    ∃ result, Ends (destinationExists c account) w result (c.load account w).world [.load account] ∧
      Looks c account w result := by
  have asked := Ends.ask (.load account) (c.load account) w
  cases answer : (c.load account w).value with
  | ok record =>
    rw [answer] at asked
    exact ⟨_, asked.bind (.pure _ _), .present answer⟩
  | error failure =>
    rw [answer] at asked
    cases failure with
    | fault f => exact ⟨_, asked.bind (.throw _ _), .fault answer⟩
    | error e =>
      cases e with
      | accountNotFound id =>
        exact ⟨_, asked.bind ((Ends.log _ _).bind (.pure _ _)), .absent answer⟩
      | failed message status =>
        exact ⟨_, asked.bind ((Ends.log _ _).bind (.throw _ _)), .failed answer⟩

/-- What the composition of an operation comes to, in which world, after which calls. -/
inductive Composes (c : Collaborators ω) (request : PaymentRequest) (account : String) (w : ω) :
    Except Failure (Option Operation) → ω → List Call → Prop
  | invalidType {e : PaymentError} (type : PaymentType.parse request.paymentType = .error e) :
      Composes c request account w (.error (.payment e)) w []
  | nothing (type : PaymentType.parse request.paymentType = .ok .none) :
      Composes c request account w (.ok none) w []
  | invalidPath {e : PaymentError} (type : PaymentType.parse request.paymentType = .ok .pathPayment)
      (path : request.pathPayment account = .error e) :
      Composes c request account w (.error (.payment e)) w []
  | path {operation : Operation} (type : PaymentType.parse request.paymentType = .ok .pathPayment)
      (path : request.pathPayment account = .ok operation) :
      Composes c request account w (.ok (some operation)) w []
  | invalidAsset {e : Failure} (type : PaymentType.parse request.paymentType = .ok .payment)
      (asset : request.asset = .error e) : Composes c request account w (.error e) w []
  | issued {asset : IssuedAsset} (type : PaymentType.parse request.paymentType = .ok .payment)
      (asset_eq : request.asset = .ok (.issued asset)) :
      Composes c request account w (.ok (some (.payment account (.issued asset) request.amount))) w []
  | native {found : Bool} (type : PaymentType.parse request.paymentType = .ok .payment)
      (asset : request.asset = .ok .native) (lookup : Looks c account w (.ok found)) :
      Composes c request account w
        (.ok (some (if found then .payment account .native request.amount
          else .createAccount account request.amount)))
        (c.load account w).world [.load account]
  | inconclusive {e : Failure} (type : PaymentType.parse request.paymentType = .ok .payment)
      (asset : request.asset = .ok .native) (lookup : Looks c account w (.error e)) :
      Composes c request account w (.error e) (c.load account w).world [.load account]

theorem composeOperation_ends (c : Collaborators ω) (request : PaymentRequest)
    (destination : Destination) (w : ω) :
    ∃ result w' calls, Ends (composeOperation c request destination) w result w' calls ∧
      Composes c request destination.account w result w' calls := by
  cases type : PaymentType.parse request.paymentType with
  | error e => exact ⟨_, _, _, (Ends.ofPayment type w).bind_error, .invalidType type⟩
  | ok t =>
    have read := Ends.ofPayment type w
    cases t with
    | none => exact ⟨_, _, _, read.bind ((Ends.log _ _).bind (.pure _ _)), .nothing type⟩
    | pathPayment =>
      cases path : request.pathPayment destination.account with
      | error e =>
        exact ⟨_, _, _, read.bind ((Ends.log _ _).bind (Ends.ofPayment path w).bind_error),
          .invalidPath type path⟩
      | ok operation =>
        exact ⟨_, _, _, read.bind ((Ends.log _ _).bind ((Ends.ofPayment path w).bind (.pure _ _))),
          .path type path⟩
    | payment =>
      cases asset : request.asset with
      | error e =>
        exact ⟨_, _, _, read.bind ((Ends.log _ _).bind (Ends.ofExcept asset w).bind_error),
          .invalidAsset type asset⟩
      | ok a =>
        have resolved := Ends.ofExcept asset w
        cases a with
        | issued a =>
          exact ⟨_, _, _,
            read.bind ((Ends.log _ _).bind (resolved.bind ((Ends.pure true w).bind (.pure _ _)))),
            .issued type asset⟩
        | native =>
          obtain ⟨found, looked, looks⟩ := destinationExists_ends c destination.account w
          cases found with
          | error e =>
            exact ⟨_, _, _, read.bind ((Ends.log _ _).bind (resolved.bind looked.bind_error)),
              .inconclusive type asset looks⟩
          | ok found =>
            refine ⟨_, _, _,
              read.bind ((Ends.log _ _).bind (resolved.bind (looked.bind (.pure _ _)))), ?_⟩
            cases found <;> exact .native type asset looks

/-- What the load of the source account comes to. -/
inductive Loads (c : Collaborators ω) (account : String) (w : ω) : Except Failure Str → Prop
  | loaded {record : AccountRecord} (answer : (c.load account w).value = .ok record) :
      Loads c account w (.ok record.sequence)
  | failed {e : LedgerError} (answer : (c.load account w).value = .error (.error e)) :
      Loads c account w (.error (.payment .sourceNotExist))
  | fault {f : Fault} (answer : (c.load account w).value = .error (.fault f)) :
      Loads c account w (.error (.fault f))

theorem loadSequence_ends (c : Collaborators ω) (account : String) (w : ω) :
    ∃ result, Ends (loadSequence c account) w result (c.load account w).world [.load account] ∧
      Loads c account w result := by
  have asked := Ends.ask (.load account) (c.load account) w
  cases answer : (c.load account w).value with
  | ok record =>
    rw [answer] at asked
    exact ⟨_, asked.bind (.pure _ _), .loaded answer⟩
  | error failure =>
    rw [answer] at asked
    cases failure with
    | fault f => exact ⟨_, asked.bind (.throw _ _), .fault answer⟩
    | error e => exact ⟨_, asked.bind ((Ends.log _ _).bind (.throw _ _)), .failed answer⟩

/-- What the building of an envelope comes to. -/
inductive Builds (c : Collaborators ω) (transaction : Transaction) (seed : String) (w : ω) :
    Except Failure String → Prop
  | built {envelope : String} (answer : (c.build transaction seed w).value = .ok envelope) :
      Builds c transaction seed w (.ok envelope)
  | failed {e : BuilderError} (answer : (c.build transaction seed w).value = .error (.error e)) :
      Builds c transaction seed w (.error (.payment e.kind.paymentError))
  | fault {f : Fault} (answer : (c.build transaction seed w).value = .error (.fault f)) :
      Builds c transaction seed w (.error (.fault f))

theorem buildEnvelope_ends (c : Collaborators ω) (transaction : Transaction) (seed : String) (w : ω) :
    ∃ result, Ends (buildEnvelope c transaction seed) w result (c.build transaction seed w).world
      [.build transaction seed] ∧ Builds c transaction seed w result := by
  have asked := Ends.ask (.build transaction seed) (c.build transaction seed) w
  cases answer : (c.build transaction seed w).value with
  | ok envelope =>
    rw [answer] at asked
    exact ⟨_, asked.bind (.pure _ _), .built answer⟩
  | error failure =>
    rw [answer] at asked
    cases failure with
    | fault f => exact ⟨_, asked.bind (.throw _ _), .fault answer⟩
    | error e => exact ⟨_, asked.bind ((Ends.log _ _).bind (.throw _ _)), .failed answer⟩

theorem ledgerBuilder_world (transaction : Transaction) (seed : String) (w : ω) :
    (ledgerBuilder transaction seed w).world = w := by
  unfold ledgerBuilder
  split <;> rfl

/-- The builder of real envelopes returns the text of what is built. -/
theorem ledgerBuilder_value (transaction : Transaction) (seed : String) (w : ω) :
    (ledgerBuilder transaction seed w).value =
      (Builder.envelope transaction seed).map Ledger.Envelope.text := by
  unfold ledgerBuilder
  cases Builder.envelope transaction seed with
  | ok envelope => rfl
  | error e =>
    split
    · contradiction
    · rename_i heq
      cases heq
      rfl
    · rename_i heq
      cases heq
      rfl

/-- What the submission of an envelope comes to. -/
inductive Submits (c : Collaborators ω) (envelope : String) (w : ω) : Except Failure Json → Prop
  | accepted {response : Json} (answer : (c.submit envelope w).value = .ok response) :
      Submits c envelope w (.ok response)
  | failed {e : LedgerError} (answer : (c.submit envelope w).value = .error (.error e)) :
      Submits c envelope w (.error (.payment .serverError))
  | fault {f : Fault} (answer : (c.submit envelope w).value = .error (.fault f)) :
      Submits c envelope w (.error (.fault f))

theorem submit_ends (c : Collaborators ω) (envelope : String) (w : ω) :
    ∃ result, Ends (submit c envelope) w result (c.submit envelope w).world [.submit envelope] ∧
      Submits c envelope w result := by
  have asked := Ends.ask (.submit envelope) (c.submit envelope) w
  cases answer : (c.submit envelope w).value with
  | ok response =>
    rw [answer] at asked
    exact ⟨_, asked.bind (.pure _ _), .accepted answer⟩
  | error failure =>
    rw [answer] at asked
    cases failure with
    | fault f => exact ⟨_, asked.bind (.throw _ _), .fault answer⟩
    | error e => exact ⟨_, asked.bind ((Ends.log _ _).bind (.throw _ _)), .failed answer⟩

/-! ## The stages in their order -/

/-- The stages before the source account is asked for have come to an operation and a memo, in the
world `w'`; `calls` are those after the resolution of the destination. -/
structure Prepared (c : Collaborators ω) (request : PaymentRequest) (w : ω) (seed source : String)
    (destination : Destination) (operation : Option Operation) (memo : Memo) (w' : ω)
    (calls : List Call) : Prop where
  signer : PaymentRequest.signer request.source = .ok (seed, source)
  resolved : Resolves c request.destination w (.ok destination)
  composed : Composes c request destination.account (c.resolve request.destination w).world
    (.ok operation) w' calls
  remembered : Memo.resolve request.memoType request.memo destination = .ok memo

/-- The stages before the building of the envelope have come to a transaction. The world `w'` is the
one in which the source account was asked for. -/
inductive Assembled (c : Collaborators ω) (config : Config) (request : PaymentRequest) (w : ω)
    (seed source : String) (destination : Destination) (transaction : Transaction) (w' : ω)
    (calls : List Call) : Prop
  | intro {operation : Option Operation} {memo : Memo} {sequence : Str}
      (prepared : Prepared c request w seed source destination operation memo w' calls)
      (loaded : Loads c source w' (.ok sequence))
      (assembled : Transaction.assemble source sequence config.passphrase config.baseFee operation
        memo = .ok transaction) :
      Assembled c config request w seed source destination transaction w' calls

/-- The courses of a payment, by the stage at which they end. -/
inductive Course (c : Collaborators ω) (config : Config) (request : PaymentRequest) (w : ω) :
    Except Failure Json → ω → List Call → Prop
  | source {e : Failure} (signer : PaymentRequest.signer request.source = .error e) :
      Course c config request w (.error e) w []
  | destination {seed source : String} {e : Failure}
      (signer : PaymentRequest.signer request.source = .ok (seed, source))
      (resolved : Resolves c request.destination w (.error e)) :
      Course c config request w (.error e) (c.resolve request.destination w).world
        [.resolve request.destination]
  | operation {seed source : String} {destination : Destination} {e : Failure} {w' : ω}
      {calls : List Call} (signer : PaymentRequest.signer request.source = .ok (seed, source))
      (resolved : Resolves c request.destination w (.ok destination))
      (composed : Composes c request destination.account (c.resolve request.destination w).world
        (.error e) w' calls) :
      Course c config request w (.error e) w' (.resolve request.destination :: calls)
  | memo {seed source : String} {destination : Destination} {operation : Option Operation}
      {e : Failure} {w' : ω} {calls : List Call}
      (signer : PaymentRequest.signer request.source = .ok (seed, source))
      (resolved : Resolves c request.destination w (.ok destination))
      (composed : Composes c request destination.account (c.resolve request.destination w).world
        (.ok operation) w' calls)
      (remembered : Memo.resolve request.memoType request.memo destination = .error e) :
      Course c config request w (.error e) w' (.resolve request.destination :: calls)
  | load {seed source : String} {destination : Destination} {operation : Option Operation}
      {memo : Memo} {e : Failure} {w' : ω} {calls : List Call}
      (prepared : Prepared c request w seed source destination operation memo w' calls)
      (loaded : Loads c source w' (.error e)) :
      Course c config request w (.error e) (c.load source w').world
        (.resolve request.destination :: calls ++ [.load source])
  | assembly {seed source : String} {sequence : Str} {destination : Destination}
      {operation : Option Operation} {memo : Memo} {e : Failure} {w' : ω} {calls : List Call}
      (prepared : Prepared c request w seed source destination operation memo w' calls)
      (loaded : Loads c source w' (.ok sequence))
      (assembled : Transaction.assemble source sequence config.passphrase config.baseFee operation
        memo = .error e) :
      Course c config request w (.error e) (c.load source w').world
        (.resolve request.destination :: calls ++ [.load source])
  | building {seed source : String} {destination : Destination} {transaction : Transaction}
      {e : Failure} {w' : ω} {calls : List Call}
      (assembled : Assembled c config request w seed source destination transaction w' calls)
      (built : Builds c transaction seed (c.load source w').world (.error e)) :
      Course c config request w (.error e) (c.build transaction seed (c.load source w').world).world
        (.resolve request.destination :: calls ++ [.load source, .build transaction seed])
  | submission {seed source : String} {destination : Destination} {transaction : Transaction}
      {envelope : String} {result : Except Failure Json} {w' : ω} {calls : List Call}
      (assembled : Assembled c config request w seed source destination transaction w' calls)
      (built : Builds c transaction seed (c.load source w').world (.ok envelope))
      (submitted : Submits c envelope (c.build transaction seed (c.load source w').world).world
        result) :
      Course c config request w result
        (c.submit envelope (c.build transaction seed (c.load source w').world).world).world
        (.resolve request.destination :: calls ++
          [.load source, .build transaction seed, .submit envelope])

variable {c : Collaborators ω} {config : Config} {request : PaymentRequest} {w w' : ω}
  {calls : List Call}

/-! ## What the answers determine -/

section Unique

theorem Resolves.unique {address : Field} {result result' : Except Failure Destination}
    (h : Resolves c address w result) (h' : Resolves c address w result') : result = result' := by
  cases h <;> cases h' <;> simp_all

theorem Looks.unique {account : String} {result result' : Except Failure Bool}
    (h : Looks c account w result) (h' : Looks c account w result') : result = result' := by
  cases h <;> cases h' <;> simp_all

theorem Loads.unique {account : String} {result result' : Except Failure Str}
    (h : Loads c account w result) (h' : Loads c account w result') : result = result' := by
  cases h <;> cases h' <;> simp_all

theorem Builds.unique {transaction : Transaction} {seed : String} {result result' : Except Failure String}
    (h : Builds c transaction seed w result) (h' : Builds c transaction seed w result') :
    result = result' := by
  cases h <;> cases h' <;> simp_all

theorem Submits.unique {envelope : String} {result result' : Except Failure Json}
    (h : Submits c envelope w result) (h' : Submits c envelope w result') : result = result' := by
  cases h <;> cases h' <;> simp_all

theorem Composes.unique {account : String} {w₁ w₂ : ω} {calls₁ calls₂ : List Call}
    {result₁ result₂ : Except Failure (Option Operation)}
    (h : Composes c request account w result₁ w₁ calls₁)
    (h' : Composes c request account w result₂ w₂ calls₂) :
    result₁ = result₂ ∧ w₁ = w₂ ∧ calls₁ = calls₂ := by
  cases h with
  | native type asset lookup =>
    cases h' <;> simp_all
    all_goals cases lookup.unique (by assumption)
    rfl
  | inconclusive type asset lookup =>
    cases h' <;> simp_all
    all_goals cases lookup.unique (by assumption)
    rfl
  | _ => cases h' <;> simp_all

end Unique

/-! ## A course is the run that takes it -/

section Runs

theorem Resolves.ends {address : Field} {result : Except Failure Destination}
    (h : Resolves c address w result) :
    Ends (resolveDestination c address) w result (c.resolve address w).world [.resolve address] := by
  obtain ⟨_, hends, h'⟩ := resolveDestination_ends c address w
  cases h.unique h'
  exact hends

theorem Composes.ends {destination : Destination} {result : Except Failure (Option Operation)}
    (h : Composes c request destination.account w result w' calls) :
    Ends (composeOperation c request destination) w result w' calls := by
  obtain ⟨_, _, _, hends, h'⟩ := composeOperation_ends c request destination w
  obtain ⟨rfl, rfl, rfl⟩ := h.unique h'
  exact hends

theorem Loads.ends {account : String} {result : Except Failure Str}
    (h : Loads c account w result) :
    Ends (loadSequence c account) w result (c.load account w).world [.load account] := by
  obtain ⟨_, hends, h'⟩ := loadSequence_ends c account w
  cases h.unique h'
  exact hends

theorem Builds.ends {transaction : Transaction} {seed : String} {result : Except Failure String}
    (h : Builds c transaction seed w result) :
    Ends (buildEnvelope c transaction seed) w result (c.build transaction seed w).world
      [.build transaction seed] := by
  obtain ⟨_, hends, h'⟩ := buildEnvelope_ends c transaction seed w
  cases h.unique h'
  exact hends

theorem Submits.ends {envelope : String} {result : Except Failure Json}
    (h : Submits c envelope w result) :
    Ends (submit c envelope) w result (c.submit envelope w).world [.submit envelope] := by
  obtain ⟨_, hends, h'⟩ := submit_ends c envelope w
  cases h.unique h'
  exact hends

/-- A course is that of the run. -/
theorem Course.ends {result : Except Failure Json} (h : Course c config request w result w' calls) :
    Ends (execute c config request) w result w' calls := by
  cases h with
  | source signer => exact (Ends.ofExcept signer w).bind_error
  | destination signer resolved => exact (Ends.ofExcept signer w).bind resolved.ends.bind_error
  | operation signer resolved composed =>
    exact (Ends.ofExcept signer w).bind (resolved.ends.bind composed.ends.bind_error)
  | memo signer resolved composed remembered =>
    have hrun : Ends (execute c config request) w _ _ _ :=
      (Ends.ofExcept signer w).bind (resolved.ends.bind (composed.ends.bind
        (Ends.ofExcept remembered _).bind_error))
    simpa using hrun
  | load prepared loaded =>
    obtain ⟨signer, resolved, composed, remembered⟩ := prepared
    have hrun : Ends (execute c config request) w _ _ _ :=
      (Ends.ofExcept signer w).bind (resolved.ends.bind (composed.ends.bind
        ((Ends.ofExcept remembered _).bind loaded.ends.bind_error)))
    simpa using hrun
  | assembly prepared loaded assembled =>
    obtain ⟨signer, resolved, composed, remembered⟩ := prepared
    have hrun : Ends (execute c config request) w _ _ _ :=
      (Ends.ofExcept signer w).bind (resolved.ends.bind (composed.ends.bind
        ((Ends.ofExcept remembered _).bind (loaded.ends.bind
          (Ends.ofExcept assembled _).bind_error))))
    simpa using hrun
  | building whole built =>
    obtain ⟨⟨signer, resolved, composed, remembered⟩, loaded, assembled⟩ := whole
    have hrun : Ends (execute c config request) w _ _ _ :=
      (Ends.ofExcept signer w).bind (resolved.ends.bind (composed.ends.bind
        ((Ends.ofExcept remembered _).bind (loaded.ends.bind
          ((Ends.ofExcept assembled _).bind built.ends.bind_error)))))
    simpa using hrun
  | submission whole built submitted =>
    obtain ⟨⟨signer, resolved, composed, remembered⟩, loaded, assembled⟩ := whole
    have hrun : Ends (execute c config request) w _ _ _ :=
      (Ends.ofExcept signer w).bind (resolved.ends.bind (composed.ends.bind
        ((Ends.ofExcept remembered _).bind (loaded.ends.bind
          ((Ends.ofExcept assembled _).bind (built.ends.bind submitted.ends))))))
    simpa using hrun

/-- A request takes one course only. -/
theorem Course.unique {result result' : Except Failure Json} {w₁ w₂ : ω} {calls₁ calls₂ : List Call}
    (h : Course c config request w result w₁ calls₁)
    (h' : Course c config request w result' w₂ calls₂) :
    result = result' ∧ w₁ = w₂ ∧ calls₁ = calls₂ :=
  h.ends.unique h'.ends

/-- An assembly goes on to the building of its envelope and to the submission. -/
theorem Assembled.exists_course {seed source : String} {destination : Destination}
    {transaction : Transaction}
    (whole : Assembled c config request w seed source destination transaction w' calls) :
    ∃ result w₁ calls₁, Course c config request w result w₁ calls₁ ∧ .build transaction seed ∈ calls₁ := by
  obtain ⟨result, -, built⟩ := buildEnvelope_ends c transaction seed (c.load source w').world
  cases result with
  | error e => exact ⟨_, _, _, .building whole built, by simp⟩
  | ok envelope =>
    obtain ⟨_, -, submitted⟩ := submit_ends c envelope
      (c.build transaction seed (c.load source w').world).world
    exact ⟨_, _, _, .submission whole built submitted, by simp⟩

theorem exists_course (c : Collaborators ω) (config : Config) (request : PaymentRequest) (w : ω) :
    ∃ result w' calls, Course c config request w result w' calls := by
  cases signer : PaymentRequest.signer request.source with
  | error e => exact ⟨_, _, _, .source signer⟩
  | ok signed =>
  obtain ⟨seed, source⟩ := signed
  obtain ⟨result, -, resolved⟩ := resolveDestination_ends c request.destination w
  cases result with
  | error e => exact ⟨_, _, _, .destination signer resolved⟩
  | ok destination =>
  obtain ⟨result, w', calls, -, composed⟩ :=
    composeOperation_ends c request destination (c.resolve request.destination w).world
  cases result with
  | error e => exact ⟨_, _, _, .operation signer resolved composed⟩
  | ok operation =>
  cases remembered : Memo.resolve request.memoType request.memo destination with
  | error e => exact ⟨_, _, _, .memo signer resolved composed remembered⟩
  | ok memo =>
  have prepared : Prepared c request w seed source destination operation memo w' calls :=
    ⟨signer, resolved, composed, remembered⟩
  obtain ⟨result, -, loaded⟩ := loadSequence_ends c source w'
  cases result with
  | error e => exact ⟨_, _, _, .load prepared loaded⟩
  | ok sequence =>
  cases assembled : Transaction.assemble source sequence config.passphrase config.baseFee operation
      memo with
  | error e => exact ⟨_, _, _, .assembly prepared loaded assembled⟩
  | ok transaction =>
  have whole : Assembled c config request w seed source destination transaction w' calls :=
    ⟨prepared, loaded, assembled⟩
  obtain ⟨result, w₁, calls₁, course, -⟩ := whole.exists_course
  exact ⟨result, w₁, calls₁, course⟩

/-- Every run takes a course. -/
theorem execute_course (c : Collaborators ω) (config : Config) (request : PaymentRequest) (w : ω) :
    Course c config request w ((execute c config request).run { world := w }).1
      ((execute c config request).run { world := w }).2.world
      ((execute c config request).run { world := w }).2.calls := by
  obtain ⟨result, w', calls, course⟩ := exists_course c config request w
  obtain ⟨logs, run⟩ := course.ends { world := w } rfl
  rw [run]
  simpa using course

end Runs

/-! ## What is composed -/

/-- The operation of a request, by its kind. -/
inductive Composed (request : PaymentRequest) (account : String) : Operation → Prop
  | path {sendAsset destinationAsset : Asset} {path : List Asset}
      (type : PaymentType.parse request.paymentType = .ok .pathPayment)
      (send : sendAsset.pair = (request.sendAssetCode, request.sendAssetIssuer))
      (destination : destinationAsset.pair =
        (request.destinationAssetCode, request.destinationAssetIssuer))
      (legs : path.map Asset.pair = request.path) :
      Composed request account (.pathPayment account sendAsset request.sendMax destinationAsset
        request.destinationAmount path)
  | payment {asset : Asset} (type : PaymentType.parse request.paymentType = .ok .payment)
      (asset_eq : request.asset = .ok asset) :
      Composed request account (.payment account asset request.amount)
  | creation (type : PaymentType.parse request.paymentType = .ok .payment)
      (asset : request.asset = .ok .native) :
      Composed request account (.createAccount account request.amount)

theorem Composes.operation {account : String} {operation : Operation}
    (h : Composes c request account w (.ok (some operation)) w' calls) :
    Composed request account operation := by
  generalize hresult : (Except.ok (some operation) : Except Failure (Option Operation)) = result at h
  cases h with
  | invalidType | nothing | invalidPath | invalidAsset | inconclusive => cases hresult
  | path type path =>
    cases hresult
    obtain ⟨_, _, _, hsend, hdestination, hlegs, rfl⟩ := PaymentRequest.pathPayment_eq_ok_iff.mp path
    exact .path type hsend hdestination hlegs
  | issued type asset =>
    cases hresult
    exact .payment type asset
  | @native found type asset =>
    cases found with
    | true =>
      cases hresult
      exact .payment type asset
    | false =>
      cases hresult
      exact .creation type asset

/-! ## What a call tells -/

section Calls

theorem Composes.eq_load_of_mem {account : String} {result : Except Failure (Option Operation)}
    (h : Composes c request account w result w' calls) {call : Call} (hcall : call ∈ calls) :
    call = .load account := by
  cases h <;> simp_all

/-- An envelope is built for a transaction that was assembled, after its source was loaded. -/
theorem Course.assembled_of_build {result : Except Failure Json}
    (h : Course c config request w result w' calls) {transaction : Transaction} {seed : String}
    (hbuild : .build transaction seed ∈ calls) :
    ∃ source destination w₁ calls₁,
      Assembled c config request w seed source destination transaction w₁ calls₁ ∧
        calls₁ ⊆ calls ∧ .load source ∈ calls := by
  -- the calls before those of the source account are a resolution and lookups
  have hprepared : ∀ {account w₁ result' w₂ calls₁},
      Composes c request account w₁ result' w₂ calls₁ → .build transaction seed ∉ calls₁ := by
    intro account w₁ result' w₂ calls₁ hcomposes hmem
    cases hcomposes.eq_load_of_mem hmem
  cases h with
  | source => simp at hbuild
  | destination => simp at hbuild
  | operation _ _ composed => simp [hprepared composed] at hbuild
  | memo _ _ composed => simp [hprepared composed] at hbuild
  | load prepared => simp [hprepared prepared.composed] at hbuild
  | assembly prepared => simp [hprepared prepared.composed] at hbuild
  | building assembled =>
    obtain ⟨prepared, loaded, assembled⟩ := assembled
    simp [hprepared prepared.composed] at hbuild
    obtain ⟨rfl, rfl⟩ := hbuild
    exact ⟨_, _, _, _, ⟨prepared, loaded, assembled⟩, List.subset_cons_of_subset _ (by simp), by simp⟩
  | submission assembled =>
    obtain ⟨prepared, loaded, assembled⟩ := assembled
    simp [hprepared prepared.composed] at hbuild
    obtain ⟨rfl, rfl⟩ := hbuild
    exact ⟨_, _, _, _, ⟨prepared, loaded, assembled⟩, List.subset_cons_of_subset _ (by simp), by simp⟩

/-- A transaction that can be assembled is built. -/
theorem Course.build_mem_of_assembled {result : Except Failure Json} {w₀ : ω} {calls₀ : List Call}
    (h : Course c config request w result w' calls) {seed source : String} {destination : Destination}
    {transaction : Transaction}
    (whole : Assembled c config request w seed source destination transaction w₀ calls₀) :
    .build transaction seed ∈ calls := by
  obtain ⟨_, _, _, course, hbuild⟩ := whole.exists_course
  obtain ⟨-, -, rfl⟩ := h.unique course
  exact hbuild

/-- A composition that fails ends the run. -/
theorem Course.error_of_composes {result : Except Failure Json} {signed : String × String}
    {destination : Destination} {e : Failure} {w₁ : ω} {calls₁ : List Call}
    (h : Course c config request w result w' calls)
    (signer : PaymentRequest.signer request.source = .ok signed)
    (resolved : Resolves c request.destination w (.ok destination))
    (composed : Composes c request destination.account (c.resolve request.destination w).world
      (.error e) w₁ calls₁) : result = .error e ∧ w' = w₁ := by
  obtain ⟨hresult, hworld, -⟩ := h.unique (.operation signer resolved composed)
  exact ⟨hresult, hworld⟩

/-- The operation that was composed is the one that is assembled. -/
theorem Assembled.operation_eq {seed source : String} {destination destination' : Destination}
    {transaction : Transaction} {operation : Operation} {w₀ w₁ : ω} {calls₀ calls₁ : List Call}
    (h : Assembled c config request w seed source destination' transaction w₀ calls₀)
    (resolved : Resolves c request.destination w (.ok destination))
    (composed : Composes c request destination.account (c.resolve request.destination w).world
      (.ok (some operation)) w₁ calls₁) : transaction.operation = operation := by
  obtain ⟨prepared, -, assembled⟩ := h
  cases resolved.unique prepared.resolved
  cases (composed.unique prepared.composed).1
  obtain ⟨_, _, -, hsome, rfl⟩ := Transaction.assemble_eq_ok assembled
  cases hsome
  rfl

end Calls

end Paygate.Pipeline
