import Paygate.Proofs.Pipeline.Course

/-!
# What a run adds to its log

A run only adds records, and of its records only one can name the code of an error: that of the builder,
if the builder refuses a transaction. The run then ends in this error.

* `Log.Record.Fits`: what is said of a record of a part, given what the part comes to.
* `Run.Adds`: a part only adds records that fit; the rules follow the constructors of a run.
* `Pipeline.execute_adds`: a run with modest collaborators only adds records that fit.
* `Run.LeadsTo`: a part goes on as another one.
* `Pipeline.exists_record_of_refused`: a run that the builder ends has a record with the code of its error.
-/

namespace Paygate

namespace Log.Record

/-- The record is of another logger than this one and names no error. -/
structure Plain (reserved : Str) (record : Record) : Prop where
  logger_ne : record.logger ≠ reserved
  no_code : record.attribute? "error_code" = none

/-- The record is of another logger than this one, and if it names an error, it is the error of the
result. -/
structure Fits {α : Type} (reserved : Str) (result : Except Failure α) (record : Record) : Prop where
  logger_ne : record.logger ≠ reserved
  code : ∀ value, record.attribute? "error_code" = some value →
    ∃ error, result = .error (.payment error) ∧ value = .text error.code

variable {α β : Type} {reserved : Str} {record : Record}

theorem Plain.fits (h : record.Plain reserved) (result : Except Failure α) : record.Fits reserved result := by
  refine ⟨h.logger_ne, fun value hvalue => ?_⟩
  rw [h.no_code] at hvalue
  cases hvalue

/-- A part that comes to a value has named no error, whatever comes after it. -/
theorem Fits.of_ok {a : α} (h : record.Fits reserved (.ok a)) (result : Except Failure β) :
    record.Fits reserved result := by
  refine ⟨h.logger_ne, fun value hvalue => ?_⟩
  obtain ⟨_, hresult, -⟩ := h.code value hvalue
  cases hresult

theorem Fits.of_error {e : Failure} (h : record.Fits reserved (.error e : Except Failure α)) :
    record.Fits reserved (.error e : Except Failure β) := by
  refine ⟨h.logger_ne, fun value hvalue => ?_⟩
  obtain ⟨error, hresult, hcode⟩ := h.code value hvalue
  cases hresult
  exact ⟨error, rfl, hcode⟩

end Log.Record

namespace Run

variable {ω α β : Type} {reserved : Str} {m : Run ω α} {f : α → Run ω β} {record : Log.Record}

/-- The part adds records to the log that fit what it comes to. -/
def Adds (reserved : Str) (m : Run ω α) : Prop :=
  ∀ s : Session ω, ∃ logs, (m.run s).2.logs = s.logs ++ logs ∧
    ∀ record ∈ logs, record.Fits reserved (m.run s).1

theorem Adds.pure (a : α) : Adds reserved (Pure.pure a : Run ω α) :=
  fun s => ⟨[], (List.append_nil s.logs).symm, List.forall_mem_nil _⟩

theorem Adds.throw (e : Failure) : Adds reserved (throw e : Run ω α) :=
  fun s => ⟨[], (List.append_nil s.logs).symm, List.forall_mem_nil _⟩

theorem Adds.ofExcept (x : Except Failure α) : Adds reserved (ofExcept x : Run ω α) := by
  cases x with
  | ok a => exact .pure a
  | error e => exact .throw e

theorem Adds.ofPayment (x : Except PaymentError α) : Adds reserved (ofPayment x : Run ω α) := by
  cases x with
  | ok a => exact .pure a
  | error e => exact .throw (.payment e)

theorem Adds.log (h : record.Plain reserved) : Adds reserved (log record : Run ω Unit) :=
  fun _ => ⟨[record], rfl, List.forall_mem_singleton.mpr (h.fits _)⟩

theorem Adds.ask {call : Call} {answer : ω → Answer ω α}
    (h : ∀ w, ∀ record ∈ (answer w).logs, record.Plain reserved) : Adds reserved (ask call answer) :=
  fun s => ⟨(answer s.world).logs, rfl, fun record hrecord => (h s.world record hrecord).fits _⟩

/-- One part after another. What the first one has added fits what the second comes to. -/
theorem Adds.bind (hm : Adds reserved m) (hf : ∀ a, Adds reserved (f a)) : Adds reserved (m >>= f) := by
  intro s
  obtain ⟨logs, hlogs, hfits⟩ := hm s
  rw [run_bind]
  rcases hrun : m.run s with ⟨result, s'⟩
  rw [hrun] at hlogs hfits
  cases result with
  | error e => exact ⟨logs, hlogs, fun record hrecord => (hfits record hrecord).of_error⟩
  | ok a =>
    obtain ⟨logs', hlogs', hfits'⟩ := hf a s'
    refine ⟨logs ++ logs', ?_, List.forall_mem_append.mpr
      ⟨fun record hrecord => (hfits record hrecord).of_ok _, hfits'⟩⟩
    show ((f a).run s').2.logs = _
    rw [hlogs', hlogs, List.append_assoc]

/-- A record, and then the rest. -/
theorem Adds.log_bind {rest : Run ω β} (h : record.Plain reserved) (hrest : Adds reserved rest) :
    Adds reserved (do Run.log record; rest) :=
  (Adds.log h).bind fun _ => hrest

/-- A record of the error in which the part ends. -/
theorem Adds.log_fail {error : PaymentError}
    (h : record.Fits reserved (.error (.payment error) : Except Failure β)) :
    Adds reserved (do Run.log record; (Run.fail error : Run ω β)) :=
  fun _ => ⟨[record], rfl, List.forall_mem_singleton.mpr h⟩

theorem run_ask (call : Call) (answer : ω → Answer ω α) (s : Session ω) :
    (ask call answer).run s = (.ok (answer s.world).value,
      { world := (answer s.world).world, calls := s.calls ++ [call]
        logs := s.logs ++ (answer s.world).logs }) := rfl

/-- From the world `w` the part goes on as another one from the world `w'`. -/
def LeadsTo (m : Run ω α) (w : ω) (rest : Run ω α) (w' : ω) : Prop :=
  ∀ s : Session ω, s.world = w → ∃ s', s'.world = w' ∧ m.run s = rest.run s'

theorem LeadsTo.refl (m : Run ω α) (w : ω) : LeadsTo m w m w :=
  fun s hs => ⟨s, hs, rfl⟩

/-- A part that comes to a value goes on as the next one. -/
theorem LeadsTo.bind {a : α} {w w₁ w₂ : ω} {calls : List Call} {rest : Run ω β}
    (hm : Ends m w (.ok a) w₁ calls) (hf : LeadsTo (f a) w₁ rest w₂) : LeadsTo (m >>= f) w rest w₂ := by
  intro s hs
  obtain ⟨logs, hrun⟩ := hm s hs
  obtain ⟨s', hs', hrest⟩ := hf { world := w₁, calls := s.calls ++ calls, logs := s.logs ++ logs } rfl
  exact ⟨s', hs', by rw [run_bind, hrun]; exact hrest⟩

end Run

/-- The collaborators write no records of this logger and name no errors. -/
structure Collaborators.Modest {ω : Type} (c : Collaborators ω) (reserved : Str) : Prop where
  resolve : ∀ address w, ∀ record ∈ (c.resolve address w).logs, record.Plain reserved
  load : ∀ account w, ∀ record ∈ (c.load account w).logs, record.Plain reserved
  build : ∀ transaction seed w, ∀ record ∈ (c.build transaction seed w).logs, record.Plain reserved
  submit : ∀ envelope w, ∀ record ∈ (c.submit envelope w).logs, record.Plain reserved

namespace Pipeline

open Run (Adds Ends)

variable {ω : Type} {c : Collaborators ω} {config : Config} {request : PaymentRequest}

/-! ## Stages -/

section

variable {reserved : Str} (hc : c.Modest reserved) (hpipeline : pipelineLogger ≠ reserved)
  (hdestination : destinationLogger ≠ reserved)

include hc

include hdestination in
theorem resolveDestination_adds (address : Field) : Adds reserved (resolveDestination c address) := by
  refine (Adds.ask fun w => hc.resolve address w).bind fun answer => ?_
  match answer with
  | .error (.fault f) => exact .throw _
  | .error (.unresolved message) => exact .log_bind ⟨hdestination, rfl⟩ (.throw _)
  | .ok record =>
    dsimp only
    split
    · rename_i account _
      cases Destination.make account record.memoType record.memo with
      | error cause => exact .throw _
      | ok destination => exact .pure _
    · exact .log_bind ⟨hdestination, rfl⟩ (.throw _)

include hpipeline

theorem destinationExists_adds (account : String) : Adds reserved (destinationExists c account) := by
  refine (Adds.ask fun w => hc.load account w).bind fun answer => ?_
  match answer with
  | .ok _ => exact .pure _
  | .error (.fault f) => exact .throw _
  | .error (.error (.accountNotFound _)) => exact .log_bind ⟨hpipeline, rfl⟩ (.pure _)
  | .error (.error (.failed message status)) => exact .log_bind ⟨hpipeline, rfl⟩ (.throw _)

theorem composeOperation_adds (destination : Destination) :
    Adds reserved (composeOperation c request destination) := by
  refine (Adds.ofPayment _).bind fun type => .log_bind ⟨hpipeline, rfl⟩ ?_
  cases type with
  | none => exact .pure _
  | pathPayment => exact (Adds.ofPayment _).bind fun operation => .pure _
  | payment =>
    refine (Adds.ofExcept _).bind fun asset => ?_
    cases asset with
    | issued asset => exact (Adds.pure true).bind fun found => .pure _
    | native => exact (destinationExists_adds hc hpipeline destination.account).bind fun found => .pure _

theorem loadSequence_adds (account : String) : Adds reserved (loadSequence c account) := by
  refine (Adds.ask fun w => hc.load account w).bind fun answer => ?_
  match answer with
  | .ok _ => exact .pure _
  | .error (.fault f) => exact .throw _
  | .error (.error e) => exact .log_bind ⟨hpipeline, rfl⟩ (.throw _)

/-- The record of a refusal names the error that it ends in. -/
theorem buildEnvelope_adds (transaction : Transaction) (seed : String) :
    Adds reserved (buildEnvelope c transaction seed) := by
  refine (Adds.ask fun w => hc.build transaction seed w).bind fun answer => ?_
  match answer with
  | .ok _ => exact .pure _
  | .error (.fault f) => exact .throw _
  | .error (.error e) =>
    refine Adds.log_fail ⟨hpipeline, fun value hvalue => ⟨e.kind.paymentError, rfl, ?_⟩⟩
    exact (Option.some.inj hvalue).symm

theorem submit_adds (envelope : String) : Adds reserved (submit c envelope) := by
  refine (Adds.ask fun w => hc.submit envelope w).bind fun answer => ?_
  match answer with
  | .ok _ => exact .pure _
  | .error (.fault f) => exact .throw _
  | .error (.error e) => exact .log_bind ⟨hpipeline, rfl⟩ (.throw _)

/-! ## Runs -/

include hdestination

/-- A run only adds records that fit what it comes to. -/
theorem execute_adds (config : Config) (request : PaymentRequest) :
    Adds reserved (execute c config request) := by
  refine (Adds.ofExcept _).bind fun signed => ?_
  refine (resolveDestination_adds hc hdestination request.destination).bind fun destination => ?_
  refine (composeOperation_adds hc hpipeline destination).bind fun operation => ?_
  refine (Adds.ofExcept _).bind fun memo => ?_
  refine (loadSequence_adds hc hpipeline signed.2).bind fun sequence => ?_
  refine (Adds.ofExcept _).bind fun transaction => ?_
  refine (buildEnvelope_adds hc hpipeline transaction signed.1).bind fun envelope => ?_
  exact submit_adds hc hpipeline envelope

end

/-! ## Refusals -/

section

variable {w w' : ω} {calls : List Call} {transaction : Transaction} {seed source : String}
  {destination : Destination} {e : BuilderError} {error : PaymentError}

/-- A refusal is recorded last, with the code of the error that it ends in. -/
theorem buildEnvelope_of_refused {s : Session ω}
    (answer : (c.build transaction seed s.world).value = .error (.error e)) :
    ∃ s' earlier, ∃ record : Log.Record, (buildEnvelope c transaction seed).run s =
        (.error (.payment e.kind.paymentError), s') ∧ s'.logs = earlier ++ [record] ∧
      record.logger = pipelineLogger ∧
      record.attribute? "error_code" = some (.text e.kind.paymentError.code) := by
  rw [buildEnvelope, Run.run_bind, Run.run_ask, answer]
  exact ⟨_, _, _, rfl, rfl, rfl, rfl⟩

/-- An assembly goes on to the building of its envelope. -/
theorem Assembled.leadsTo (h : Assembled c config request w seed source destination transaction w' calls) :
    Run.LeadsTo (execute c config request) w (buildEnvelope c transaction seed >>= submit c)
      (c.load source w').world := by
  obtain ⟨⟨signer, resolved, composed, remembered⟩, loaded, assembled⟩ := h
  exact .bind (Ends.ofExcept signer w) (.bind resolved.ends (.bind composed.ends
    (.bind (Ends.ofExcept remembered _) (.bind loaded.ends
      (.bind (Ends.ofExcept assembled _) (.refl _ _))))))

/-- A run that fails after the builder was asked, and before anything is submitted, was refused. -/
theorem Course.refused (h : Course c config request w (.error (.payment error)) w' calls)
    (hbuild : .build transaction seed ∈ calls) (hsubmit : ∀ envelope, .submit envelope ∉ calls) :
    ∃ source destination w₀ calls₀ e,
      Assembled c config request w seed source destination transaction w₀ calls₀ ∧
      (c.build transaction seed (c.load source w₀).world).value = .error (.error e) ∧
      error = e.kind.paymentError := by
  obtain ⟨source, destination, w₀, calls₀, whole, -, -⟩ := h.assembled_of_build hbuild
  obtain ⟨result, -, built⟩ := buildEnvelope_ends c transaction seed (c.load source w₀).world
  cases result with
  | ok envelope =>
    obtain ⟨_, -, submitted⟩ := submit_ends c envelope
      (c.build transaction seed (c.load source w₀).world).world
    obtain ⟨-, -, rfl⟩ := h.unique (.submission whole built submitted)
    exact absurd (by simp) (hsubmit envelope)
  | error failure =>
    obtain ⟨hresult, -, -⟩ := h.unique (.building whole built)
    cases hresult
    generalize hended : (Except.error (.payment error) : Except Failure String) = ended at built
    cases built with
    | built => cases hended
    | fault => cases hended
    | failed answer =>
      cases hended
      exact ⟨source, destination, w₀, calls₀, _, whole, answer, rfl⟩

/-- The last record of a run that was refused names the error of the run. -/
theorem exists_record_of_refused (c : Collaborators ω) (config : Config) (request : PaymentRequest) (w : ω)
    (hbuild : .build transaction seed ∈ ((execute c config request).run { world := w }).2.calls)
    (hsubmit : ∀ envelope, .submit envelope ∉ ((execute c config request).run { world := w }).2.calls)
    (hresult : ((execute c config request).run { world := w }).1 = .error (.payment error)) :
    ∃ earlier, ∃ record : Log.Record,
      ((execute c config request).run { world := w }).2.logs = earlier ++ [record] ∧
      record.logger = pipelineLogger ∧ record.attribute? "error_code" = some (.text error.code) := by
  have hcourse := execute_course c config request w
  rw [hresult] at hcourse
  obtain ⟨source, _, w₀, _, e, whole, answer, rfl⟩ := hcourse.refused hbuild hsubmit
  obtain ⟨s, hs, hrun⟩ := whole.leadsTo { world := w } rfl
  rw [← hs] at answer
  obtain ⟨s', earlier, record, hends, hlogs, hrecord⟩ := buildEnvelope_of_refused answer
  refine ⟨earlier, record, ?_, hrecord⟩
  rw [hrun, Run.run_bind, hends]
  exact hlogs

end

end Pipeline

end Paygate
