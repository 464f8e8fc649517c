import Paygate.Proofs.Pipeline.Order
import Paygate.Proofs.Pipeline.Records
import Paygate.Proofs.Service.Success

/-!
# What the log says of a reply

A request to pay that ends in the error of a payment leaves one record of the error handler, the last of
all, which says what the reply says. A failure of another kind leaves one that names no error, and a success
leaves none.

* `Gateway.modest`: the servers and the builder of a gateway write other records.
* `Closes`: a record is the last one, and the only one of its logger.
* `Gateway.closes_of_error`, `Gateway.closes_of_breaks`, `Gateway.silent_of_success`: the ends of a request.
* `Gateway.fits_of_mem`: every code in the log is the code of the reply.
* `Gateway.log_agrees`: all of it.
-/

namespace Paygate

open Http (Network)

/-! ## The records of collaborators -/

theorem Federation.resolver_logs (scheme : String) (address : Field) (network : Network) :
    (resolver scheme address network).logs = [] := by
  cases address with
  | upload => rfl
  | text address =>
    unfold resolver
    dsimp only
    split <;> rfl

namespace Horizon.Client

variable {reserved : Str} (h : logger ≠ reserved)

include h

theorem readObject_plain (response : Http.Response) :
    ∀ record ∈ (readObject response).2, record.Plain reserved := by
  unfold readObject
  split
  · split <;> exact List.forall_mem_nil _
  · split
    · exact List.forall_mem_nil _
    · exact List.forall_mem_singleton.mpr ⟨h, rfl⟩

theorem load_plain (client : Client) (id : String) (network : Network) :
    ∀ record ∈ (client.load id network).logs, record.Plain reserved := by
  unfold load
  split
  · exact List.forall_mem_nil _
  · split
    · exact List.forall_mem_nil _
    · exact readObject_plain h _

theorem submit_plain (client : Client) (envelope : String) (network : Network) :
    ∀ record ∈ (client.submit envelope network).logs, record.Plain reserved := by
  unfold submit
  split
  · exact List.forall_mem_nil _
  · exact readObject_plain h _

end Horizon.Client

theorem Pipeline.ledgerBuilder_plain {ω : Type} {reserved : Str} (h : builderLogger ≠ reserved)
    (transaction : Transaction) (seed : String) (w : ω) :
    ∀ record ∈ (ledgerBuilder transaction seed w).logs, record.Plain reserved := by
  unfold ledgerBuilder
  split
  · exact List.forall_mem_nil _
  · exact List.forall_mem_singleton.mpr ⟨h, rfl⟩
  · exact List.forall_mem_nil _

namespace Service

/-- The record is the last one, and no other is of its logger. -/
def Closes (logs : List Log.Record) (record : Log.Record) : Prop :=
  ∃ earlier, logs = earlier ++ [record] ∧ ∀ other ∈ earlier, other.logger ≠ record.logger

namespace Gateway

open Pipeline

variable {gateway : Gateway} {request : Request} {form : Form} {network : Network} {path : String}

/-- Nothing that the pipeline asks writes records of the error handler. -/
theorem modest (gateway : Gateway) : gateway.collaborators.Modest errorLogger where
  resolve address w := by
    rw [collaborators, Federation.resolver_logs]
    exact List.forall_mem_nil _
  load account w := gateway.ledger.load_plain (by decide) account w
  build transaction seed w := ledgerBuilder_plain (by decide) transaction seed w
  submit envelope w := gateway.ledger.submit_plain (by decide) envelope w

/-- The run of a payment: what it comes to, and its session. -/
abbrev run (gateway : Gateway) (form : Form) (network : Network) : Except Failure Json × Session Network :=
  (execute gateway.collaborators gateway.pipeline (.ofForm form)).run { world := network }

/-- The records before the end of a payment fit what its run comes to. -/
theorem run_fits (gateway : Gateway) (form : Form) (network : Network) :
    ∀ record ∈ receivedRecord (.ofForm form) :: (gateway.run form network).2.logs,
      record.Fits errorLogger (gateway.run form network).1 := by
  have hadds := execute_adds gateway.modest (show (pipelineLogger : Str) ≠ errorLogger by decide)
    (show (destinationLogger : Str) ≠ errorLogger by decide) gateway.pipeline (.ofForm form)
  obtain ⟨logs, hlogs, hfits⟩ := hadds { world := network }
  rw [List.forall_mem_cons, run, hlogs]
  exact ⟨Log.Record.Plain.fits ⟨show (routeLogger : Str) ≠ errorLogger by decide, rfl⟩ _, hfits⟩

/-- An error of the server is recorded as an error, and one of the client as an information. -/
theorem level_errorRecord (error : PaymentError) :
    (errorReply error).status = 500 ∧ (errorRecord path error).level = .error ∨
      (errorReply error).status = 400 ∧ (errorRecord path error).level = .info := by
  cases error with
  | serverError => exact .inl ⟨rfl, rfl⟩
  | _ => exact .inr ⟨rfl, rfl⟩

/-! ## The ends of a request -/

/-- A request to pay ends in a failure that is no error of a payment: that of its form, that of its run, or
that of an answer that has no written form. -/
inductive Breaks (gateway : Gateway) (request : Request) (network : Network) : Prop
  | form {cause : Http.Fault}
      (unread : readForm request.contentType request.body = .error (.fault cause)) :
      Breaks gateway request network
  | run {form : Form} {cause : Fault} (read : readForm request.contentType request.body = .ok form)
      (result : (gateway.run form network).1 = .error (.fault cause)) : Breaks gateway request network
  | answer {form : Form} {body : Json} (read : readForm request.contentType request.body = .ok form)
      (result : (gateway.run form network).1 = .ok body)
      (unwritable : (body.without isHidden).isWritable = false) : Breaks gateway request network

theorem logs_of_form (h : PaysWith request form) :
    (gateway.handle request network).logs = receivedRecord (.ofForm form) ::
      (gateway.run form network).2.logs ++
        (conclude (String.ofList request.path) (gateway.run form network).1).2 := by
  rw [handle_eq_pay h, pay_logs]

/-- What a request to pay leaves, if its end leaves one record. -/
theorem closes_of_form (h : PaysWith request form) {record : Log.Record}
    (hend : (conclude (String.ofList request.path) (gateway.run form network).1).2 = [record])
    (hlogger : record.logger = errorLogger) : Closes (gateway.handle request network).logs record := by
  refine ⟨_, by rw [logs_of_form h, hend], fun other hother => ?_⟩
  rw [hlogger]
  exact (run_fits gateway form network other hother).logger_ne

/-- An error of a payment is recorded as it is answered. -/
theorem closes_of_error (h : PaysWith request form) {error : PaymentError}
    (hrun : (gateway.run form network).1 = .error (.payment error)) :
    (gateway.handle request network).reply = errorReply error ∧
      Closes (gateway.handle request network).logs (errorRecord (String.ofList request.path) error) := by
  refine ⟨?_, closes_of_form h ?_ rfl⟩
  · rw [reply_of_form h, hrun]
    rfl
  · rw [hrun]
    rfl

/-- Any other failure is answered as `serverError`, and its record names no error. -/
theorem closes_of_breaks (h : dispatch request = .ok .payment) (hbreaks : Breaks gateway request network) :
    (gateway.handle request network).reply = errorReply .serverError ∧
      Closes (gateway.handle request network).logs (faultRecord (String.ofList request.path) none) := by
  -- a run that breaks leaves what `conclude` says of its end
  have hended : ∀ form, readForm request.contentType request.body = .ok form →
      conclude (String.ofList request.path) (gateway.run form network).1 =
        (errorReply .serverError, [faultRecord (String.ofList request.path) none]) →
      (gateway.handle request network).reply = errorReply .serverError ∧
        Closes (gateway.handle request network).logs
          (faultRecord (String.ofList request.path) none) := by
    intro form hread hconclude
    exact ⟨by rw [reply_of_form ⟨h, hread⟩, hconclude],
      closes_of_form ⟨h, hread⟩ (by rw [hconclude]) rfl⟩
  cases hbreaks with
  | form unread =>
    refine ⟨reply_of_formFault h unread, [], ?_, List.forall_mem_nil _⟩
    rw [handle_eq_answer h, answer]
    simp only [h, unread]
    rfl
  | run read result => exact hended _ read (by rw [result]; rfl)
  | answer read result unwritable =>
    refine hended _ read ?_
    rw [result]
    unfold conclude
    dsimp only
    rw [if_neg (by rw [unwritable]; decide)]

/-- A form that cannot be read is not recorded. -/
theorem logs_of_formError (h : dispatch request = .ok .payment) {e : FormError}
    (hform : readForm request.contentType request.body = .error (.error e)) :
    (gateway.handle request network).logs = [] := by
  rw [handle_eq_answer h, answer]
  simp only [h, hform]

/-- The ends of a request to pay. -/
theorem ends_cases (gateway : Gateway) (network : Network) (h : dispatch request = .ok .payment) :
    (∃ e, readForm request.contentType request.body = .error (.error e)) ∨
    Breaks gateway request network ∨
    (∃ form error, PaysWith request form ∧ (gateway.run form network).1 = .error (.payment error)) ∨
    ∃ form body, PaysWith request form ∧ (gateway.run form network).1 = .ok body ∧
      (body.without isHidden).isWritable = true := by
  cases hform : readForm request.contentType request.body with
  | error failure =>
    cases failure with
    | error e => exact .inl ⟨e, rfl⟩
    | fault cause => exact .inr (.inl (.form hform))
  | ok form =>
    have hpays : PaysWith request form := ⟨h, hform⟩
    cases hrun : (gateway.run form network).1 with
    | error failure =>
      cases failure with
      | payment error => exact .inr (.inr (.inl ⟨form, error, hpays, hrun⟩))
      | fault cause => exact .inr (.inl (.run hform hrun))
    | ok body =>
      cases hwritable : (body.without isHidden).isWritable with
      | true => exact .inr (.inr (.inr ⟨form, body, hpays, hrun, hwritable⟩))
      | false => exact .inr (.inl (.answer hform hrun hwritable))

/-! ## What the log says -/

/-- A success leaves no record of the error handler. -/
theorem silent_of_success (h : dispatch request = .ok .payment)
    (hstatus : (gateway.handle request network).reply.status = 200) :
    ∀ record ∈ (gateway.handle request network).logs, record.logger ≠ errorLogger := by
  have herror : ∀ error : PaymentError, (errorReply error).status ≠ 200 := by
    intro error
    cases error <;> decide
  rcases ends_cases gateway network h with ⟨e, hform⟩ | hbreaks | ⟨form, error, hpays, hrun⟩ |
    ⟨form, body, hpays, hrun, hwritable⟩
  · rw [logs_of_formError h hform]
    exact List.forall_mem_nil _
  · rw [(closes_of_breaks h hbreaks).1] at hstatus
    exact absurd hstatus (herror .serverError)
  · rw [(closes_of_error hpays hrun).1] at hstatus
    exact absurd hstatus (herror error)
  · have hend : (conclude (String.ofList request.path) (gateway.run form network).1).2 = [] := by
      rw [hrun]
      unfold conclude
      dsimp only
      rw [if_pos hwritable]
    rw [logs_of_form hpays, hend, List.append_nil]
    exact fun record hrecord => (run_fits gateway form network record hrecord).logger_ne

theorem conclude_fits (path : String) (result : Except Failure Json) {record : Log.Record}
    (hrecord : record ∈ (conclude path result).2) {value : Log.Value}
    (hcode : record.attribute? "error_code" = some value) :
    ∃ error, result = .error (.payment error) ∧ value = .text error.code := by
  unfold conclude at hrecord
  split at hrecord
  · dsimp only at hrecord
    split at hrecord
    · cases hrecord
    · cases List.mem_singleton.mp hrecord
      cases hcode
  · rename_i error
    cases List.mem_singleton.mp hrecord
    exact ⟨error, rfl, (Option.some.inj hcode).symm⟩
  · cases List.mem_singleton.mp hrecord
    cases hcode

/-- Every code in the log is the code of the reply. -/
theorem fits_of_mem (h : dispatch request = .ok .payment) {record : Log.Record}
    (hrecord : record ∈ (gateway.handle request network).logs) {value : Log.Value}
    (hcode : record.attribute? "error_code" = some value) :
    ∃ error, (gateway.handle request network).reply = errorReply error ∧ value = .text error.code := by
  cases hform : readForm request.contentType request.body with
  | error failure =>
    cases failure with
    | error e =>
      rw [logs_of_formError h hform] at hrecord
      cases hrecord
    | fault cause =>
      rw [handle_eq_answer h, answer] at hrecord
      simp only [h, hform, List.mem_singleton] at hrecord
      subst hrecord
      cases hcode
  | ok form =>
    have hpays : PaysWith request form := ⟨h, hform⟩
    have hended : ∃ error, (gateway.run form network).1 = .error (.payment error) ∧
        value = .text error.code := by
      rw [logs_of_form hpays] at hrecord
      rcases List.mem_append.mp hrecord with hearlier | hlast
      · exact (run_fits gateway form network record hearlier).code value hcode
      · exact conclude_fits _ _ hlast hcode
    obtain ⟨error, hrun, hvalue⟩ := hended
    exact ⟨error, (closes_of_error hpays hrun).1, hvalue⟩

/-- What the log says of the reply to a request to pay, whatever it brings and whatever the servers answer.

* If the run ends in the error of a payment, the last record is the only one of the error handler. It is an
  error under status 500 and an information under status 400, and it has the code of the reply and the path
  of the request.
* A reply with status 200 leaves no record of the error handler.
* If the request ends in a failure of another kind, the last record is the only one of the error handler.
  It is an error and names no code.
* A form that cannot be read leaves no record at all.
* Every code in the log is the code of the reply, and where the builder ends the run, there is such a record
  of the pipeline. -/
theorem log_agrees (gateway : Gateway) (request : Request) (network : Network)
    (h : dispatch request = .ok .payment) :
    (∀ form error, readForm request.contentType request.body = .ok form →
      (gateway.run form network).1 = .error (.payment error) →
      ∃ record, Closes (gateway.handle request network).logs record ∧
        record.logger = errorLogger ∧
        ((gateway.handle request network).reply.status = 500 ∧ record.level = .error ∨
          (gateway.handle request network).reply.status = 400 ∧ record.level = .info) ∧
        (gateway.handle request network).reply.body =
          some (.obj [("code", .str error.code), ("message", .str error.message)]) ∧
        record.attribute? "error_code" = some (.text error.code) ∧
        record.attribute? "path" = some (.text (String.ofList request.path))) ∧
    ((gateway.handle request network).reply.status = 200 →
      ∀ record ∈ (gateway.handle request network).logs, record.logger ≠ errorLogger) ∧
    (Breaks gateway request network →
      ∃ record, Closes (gateway.handle request network).logs record ∧ record.logger = errorLogger ∧
        record.level = .error ∧ record.attribute? "error_code" = none) ∧
    (∀ e, readForm request.contentType request.body = .error (.error e) →
      (gateway.handle request network).logs = []) ∧
    (∀ record ∈ (gateway.handle request network).logs, ∀ value,
      record.attribute? "error_code" = some value →
      ∃ error, (gateway.handle request network).reply = errorReply error ∧ value = .text error.code) ∧
    ∀ form transaction seed error, readForm request.contentType request.body = .ok form →
      .build transaction seed ∈ (gateway.run form network).2.calls →
      (∀ envelope, .submit envelope ∉ (gateway.run form network).2.calls) →
      (gateway.run form network).1 = .error (.payment error) →
      ∃ record ∈ (gateway.handle request network).logs, record.logger = pipelineLogger ∧
        record.attribute? "error_code" = some (.text error.code) := by
  refine ⟨?_, silent_of_success h, ?_, fun e => logs_of_formError h,
    fun record hrecord value => fits_of_mem h hrecord, ?_⟩
  · intro form error hform hrun
    obtain ⟨hreply, hcloses⟩ := closes_of_error ⟨h, hform⟩ hrun
    refine ⟨_, hcloses, rfl, ?_, by rw [hreply]; rfl, rfl, rfl⟩
    rw [hreply]
    exact level_errorRecord error
  · intro hbreaks
    exact ⟨_, (closes_of_breaks h hbreaks).2, rfl, rfl, rfl⟩
  · intro form transaction seed error hform hbuild hsubmit hrun
    obtain ⟨earlier, record, hlogs, hrecord⟩ := exists_record_of_refused gateway.collaborators
      gateway.pipeline (.ofForm form) network hbuild hsubmit hrun
    refine ⟨record, ?_, hrecord⟩
    rw [logs_of_form ⟨h, hform⟩, run, hlogs]
    simp

end Gateway

/-! ## An amount that the builder refuses -/

namespace ZeroAmount

open Sample (gateway)
open HiddenMember (rules)

def request : Request := Sample.request "0"

theorem pays : PaysWith request (Sample.form "0") := Sample.pays "0"

/-- The last call is that of the builder, and nothing is submitted. -/
theorem run_refused :
    (gateway.run (Sample.form "0") { rules }).1.map (fun _ => ()) = .error (.payment .invalidAmount) ∧
      ((gateway.run (Sample.form "0") { rules }).2.calls.any fun | .build .. => true | _ => false) = true ∧
      (gateway.run (Sample.form "0") { rules }).2.calls.any Call.isSubmit = false := by
  decide +kernel

/-- The builder and the error handler record the code of the reply. Without a form there is no record. -/
theorem zero_recorded : dispatch request = .ok .payment ∧
    (∃ record, Closes (gateway.handle request { rules }).logs record ∧ record.logger = errorLogger ∧
      (gateway.handle request { rules }).reply.body =
        some (.obj [("code", .str "invalid_amount"), ("message", .str "amount parameter is invalid.")]) ∧
      record.attribute? "error_code" = some (.text "invalid_amount")) ∧
    (∃ record ∈ (gateway.handle request { rules }).logs, record.logger = Pipeline.pipelineLogger ∧
      record.attribute? "error_code" = some (.text "invalid_amount")) ∧
    dispatch (NoBody.request "multipart/form-data") = .ok .payment ∧
    (gateway.handle (NoBody.request "multipart/form-data") { rules := [] }).logs = [] := by
  obtain ⟨hmap, hbuilds, hsubmits⟩ := run_refused
  have hresult := map_eq_error.mp hmap
  have hlog := Gateway.log_agrees gateway request { rules } pays.1
  refine ⟨pays.1, ?_, ?_, dispatch_paymentRequest _ _, ?_⟩
  · obtain ⟨record, hcloses, hlogger, -, hbody, hcode, -⟩ := hlog.1 _ _ pays.2 hresult
    exact ⟨record, hcloses, hlogger, hbody, hcode⟩
  · obtain ⟨call, hcall, hbuild⟩ := List.any_eq_true.mp hbuilds
    have hunsent : ∀ envelope, .submit envelope ∉ (gateway.run (Sample.form "0") { rules }).2.calls :=
      fun envelope hmem => List.any_eq_false.mp hsubmits _ hmem rfl
    cases call with
    | build transaction seed => exact hlog.2.2.2.2.2 _ transaction seed _ pays.2 hcall hunsent hresult
    | _ => cases hbuild
  · exact (Gateway.log_agrees gateway _ { rules := [] }
      (dispatch_paymentRequest _ _)).2.2.2.1 _ NoBody.readForm_unbounded

end ZeroAmount

end Service

end Paygate
