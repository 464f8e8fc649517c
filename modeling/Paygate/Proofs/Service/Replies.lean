import Paygate.Proofs.Check
import Paygate.Proofs.Service.Form

/-!
# How a request to pay is answered

A request to pay is answered with the ledger's own answer, with the code and message of an error of a
payment, or, if its form cannot be read, with what is wrong with the form. But for the first kind a
reply is one of eighteen, whatever the request and the servers say.

* `refusals`: the replies that are not the ledger's answer.
* `Gateway.reply_of_form`: the reply to a form is that to the end of its run.
* `Gateway.payment_replies`: the replies to a request to pay.
-/

namespace Paygate

/-- All thirteen errors of a payment. -/
def PaymentError.all : List PaymentError :=
  [invalidSource, cannotResolveDestination, invalidDestination, invalidType, missingMemoParameter,
    cannotUseMemo, invalidMemo, missingAssetParameter, invalidIssuer, malformedAssetCode,
    invalidAmount, sourceNotExist, serverError]

theorem PaymentError.mem_all (error : PaymentError) : error ∈ all := by
  cases error <;> decide

/-- Only the error of the service itself has status 500. -/
theorem PaymentError.status_eq_iff {error : PaymentError} : error.status = 500 ↔ error = .serverError := by
  cases error <;> simp [status]

namespace Service

open Http (Network)

/-- All errors of a form. -/
def FormError.all : List FormError :=
  [missingBoundary, malformed, missingName, tooManyFields, tooManyFiles]

theorem FormError.mem_all (error : FormError) : error ∈ all := by
  cases error <;> decide

/-- The reply to a form that cannot be read. -/
def formReply (error : FormError) : Reply := .detail 400 error.message

open Gateway (errorReply)

/-- The replies to a request to pay that are not the ledger's answer. -/
def refusals : List Reply := PaymentError.all.map errorReply ++ FormError.all.map formReply

theorem errorReply_mem_refusals (error : PaymentError) : errorReply error ∈ refusals :=
  List.mem_append_left _ (List.mem_map_of_mem error.mem_all)

theorem formReply_mem_refusals (error : FormError) : formReply error ∈ refusals :=
  List.mem_append_right _ (List.mem_map_of_mem error.mem_all)

namespace Gateway

open Pipeline (execute)

variable {gateway : Gateway} {request : Request} {network : Network}

/-! ## The ends of a run -/

/-- A run ends with an answer that can be shown, or in the error of a payment. -/
theorem conclude_cases (path : String) (result : Except Failure Json) :
    (∃ body, result = .ok body ∧ (conclude path result).1 =
      { status := 200, body := some (body.without isHidden) }) ∨
    ∃ error, (conclude path result).1 = errorReply error := by
  cases result with
  | ok body =>
    unfold conclude
    dsimp only
    split
    · exact .inl ⟨body, rfl, rfl⟩
    · exact .inr ⟨.serverError, rfl⟩
  | error failure =>
    cases failure with
    | payment e => exact .inr ⟨e, rfl⟩
    | fault f => exact .inr ⟨.serverError, rfl⟩

/-! ## The ways of a request -/

theorem handle_eq_answer (h : dispatch request = .ok .payment) :
    gateway.handle request network = gateway.answer request network := by
  have hmethod : request.method ≠ "HEAD" := by
    rw [method_of_dispatch h]
    decide
  rw [handle, if_neg hmethod]

theorem reply_of_formError (h : dispatch request = .ok .payment) {e : FormError}
    (hform : readForm request.contentType request.body = .error (.error e)) :
    (gateway.handle request network).reply = formReply e := by
  rw [handle_eq_answer h, answer]
  simp only [h, hform]
  rfl

theorem reply_of_formFault (h : dispatch request = .ok .payment) {cause : Http.Fault}
    (hform : readForm request.contentType request.body = .error (.fault cause)) :
    (gateway.handle request network).reply = errorReply .serverError := by
  rw [handle_eq_answer h, answer]
  simp only [h, hform]

/-- The reply to a form is that to the end of its run. -/
theorem reply_of_form {form : Form} (h : PaysWith request form) :
    (gateway.handle request network).reply =
      (conclude (String.ofList request.path) ((execute gateway.collaborators gateway.pipeline
        (.ofForm form)).run { world := network }).1).1 := by
  rw [handle_eq_pay h, pay_reply]

/-- A request to pay is answered with the ledger's answer, with the error of a payment, or with that of
a form. -/
theorem reply_cases (gateway : Gateway) (network : Network) (h : dispatch request = .ok .payment) :
    (gateway.handle request network).reply.status = 200 ∨
    (∃ error, (gateway.handle request network).reply = errorReply error) ∨
    ∃ e, readForm request.contentType request.body = .error (.error e) ∧
      (gateway.handle request network).reply = formReply e := by
  cases hform : readForm request.contentType request.body with
  | error failure =>
    cases failure with
    | error e => exact .inr (.inr ⟨e, rfl, reply_of_formError h hform⟩)
    | fault cause => exact .inr (.inl ⟨_, reply_of_formFault h hform⟩)
  | ok form =>
    rw [reply_of_form ⟨h, hform⟩]
    rcases conclude_cases (String.ofList request.path) ((execute gateway.collaborators
      gateway.pipeline (.ofForm form)).run { world := network }).1 with ⟨_, -, hreply⟩ | herror
    · exact .inl (by rw [hreply])
    · exact .inr (.inl herror)

/-! ## Replies -/

/-- Whatever a request to pay brings and whatever the servers answer:

* the reply has status 200, or it is an object with the code and the message of an error of a payment,
  under the status of that error, or the form cannot be read and the reply says why;
* status 500 goes with `serverError` and with nothing else;
* a reply that is no success is one of `refusals`, so it shows nothing that was received;
* an error of the payment is answered as itself, and a fault, in the form or in the run, as
  `serverError`. -/
theorem payment_replies (gateway : Gateway) (request : Request) (network : Network)
    (h : dispatch request = .ok .payment) :
    ((gateway.handle request network).reply.status = 200 ∨
      (∃ error : PaymentError, (gateway.handle request network).reply.status = error.status ∧
        (gateway.handle request network).reply.body =
          some (.obj [("code", .str error.code), ("message", .str error.message)])) ∨
      ∃ e, readForm request.contentType request.body = .error (.error e) ∧
        (gateway.handle request network).reply = formReply e) ∧
    ((gateway.handle request network).reply.status = 500 ↔
      (gateway.handle request network).reply = errorReply .serverError) ∧
    ((gateway.handle request network).reply.status ≠ 200 →
      (gateway.handle request network).reply ∈ refusals) ∧
    (∀ e, readForm request.contentType request.body = .error (.error e) →
      (gateway.handle request network).reply = formReply e) ∧
    (∀ cause, readForm request.contentType request.body = .error (.fault cause) →
      (gateway.handle request network).reply = errorReply .serverError) ∧
    ∀ form failure, readForm request.contentType request.body = .ok form →
      ((execute gateway.collaborators gateway.pipeline (.ofForm form)).run
        { world := network }).1 = .error failure →
      (gateway.handle request network).reply =
        errorReply (failure.payment?.getD .serverError) := by
  have hcases := reply_cases gateway network h
  refine ⟨?_, ⟨?_, fun hreply => by rw [hreply]; rfl⟩, ?_,
    fun e => reply_of_formError h, fun cause => reply_of_formFault h, ?_⟩
  · rcases hcases with hsuccess | ⟨error, hreply⟩ | hform
    · exact .inl hsuccess
    · exact .inr (.inl ⟨error, by rw [hreply]; rfl, by rw [hreply]; rfl⟩)
    · exact .inr (.inr hform)
  · intro hstatus
    rcases hcases with hsuccess | ⟨error, hreply⟩ | ⟨e, -, hreply⟩
    · rw [hstatus] at hsuccess
      cases hsuccess
    · rw [hreply] at hstatus ⊢
      rw [PaymentError.status_eq_iff.mp hstatus]
    · rw [hreply] at hstatus
      cases hstatus
  · intro hstatus
    rcases hcases with hsuccess | ⟨error, hreply⟩ | ⟨e, -, hreply⟩
    · exact absurd hsuccess hstatus
    · rw [hreply]
      exact errorReply_mem_refusals error
    · rw [hreply]
      exact formReply_mem_refusals e
  · intro form failure hform hrun
    rw [reply_of_form ⟨h, hform⟩, hrun]
    cases failure with
    | payment e => rfl
    | fault f => rfl

end Gateway

/-! ## A request without a body -/

namespace NoBody

open Sample (gateway)

def request (contentType : String) : Request := paymentRequest contentType []

theorem readForm_unbounded :
    readForm "multipart/form-data" [] = .error (.error .missingBoundary) := by
  rw [readForm, readFields, Http.HeaderValue.ofString, String.contains_char_eq]
  decide +kernel

theorem readForm_none : readForm "" [] = .ok [] := by
  rw [readForm, readFields, Http.HeaderValue.ofString, String.contains_char_eq]
  decide +kernel

theorem execute_none :
    ((Pipeline.execute gateway.collaborators gateway.pipeline (.ofForm [])).run
      { world := { rules := [] } }).1 = .error (.payment .invalidSource) := by
  have signer : PaymentRequest.signer (PaymentRequest.ofForm []).source =
      .error (.payment .invalidSource) := by decide +kernel
  have course : Pipeline.Course gateway.collaborators gateway.pipeline (.ofForm []) { rules := [] }
      (.error (.payment .invalidSource)) _ _ := .source signer
  obtain ⟨logs, hrun⟩ := course.ends { world := { rules := [] } } rfl
  rw [hrun]

/-- Parts without a boundary are a fault of the form; without a form there is no source. -/
theorem replies_without_body :
    (dispatch (request "multipart/form-data") = .ok .payment ∧
      (gateway.handle (request "multipart/form-data") { rules := [] }).reply =
        formReply .missingBoundary) ∧
    dispatch (request "") = .ok .payment ∧
      (gateway.handle (request "") { rules := [] }).reply = errorReply .invalidSource := by
  constructor
  · have hreplies := Gateway.payment_replies gateway (request "multipart/form-data") { rules := [] }
      (dispatch_paymentRequest _ _)
    exact ⟨dispatch_paymentRequest _ _, hreplies.2.2.2.1 _ readForm_unbounded⟩
  · have hreplies := Gateway.payment_replies gateway (request "") { rules := [] } (dispatch_paymentRequest _ _)
    exact ⟨dispatch_paymentRequest _ _, hreplies.2.2.2.2.2 [] _ readForm_none execute_none⟩

end NoBody

end Service

end Paygate
