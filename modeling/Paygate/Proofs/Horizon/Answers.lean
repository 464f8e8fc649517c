import Paygate.Proofs.Horizon.Client
import Paygate.Proofs.Http.Asking

/-!
# How the ledger's answers are sorted

A call of the client sends its one request, whatever comes of it, if its URL is one that is sent to anyone.
Then a response comes back or none does, and this decides between an absence, a success and a failure. A call
breaks off where nothing handles what happened: its URL cannot be requested, what came back cannot be taken,
or the response cannot be read.

* `Http.Received`, `Http.exists_received_iff`: what comes back from a request, unless the call breaks off.
* `Client.Looked`, `Client.Submitted`: what a call comes to, given what came back.
* `Client.Escapes`: the faults of a call.
* `Client.answers_sorted`: every lookup and every submission comes to that, and slashes at the end of the
  ledger's address make no difference.
-/

namespace Paygate

/-! ## What comes back -/

namespace Http

/-- What comes back from a request for a URL that ended in this way. There is no response if the exchange
failed, if the content codings of the body cannot be undone, and if a redirection leads to no URL. -/
inductive Received (url : Url) : Outcome → Option Response → Prop
  | failure {timedOut : Bool} {reason : String} : Received url (.failure timedOut reason) none
  | coding {response : Response} {e : Compression.Error} (ascii : response.headers.foreign? = none)
      (broken : Coding.decodeAll (Coding.ofHeaders response.headers) response.body = .error e) :
      Received url (.response response) none
  | redirect {response decoded : Response} {location : String} {e : Url.Error}
      (read : response.decoded = .ok decoded) (status : response.status ∈ Redirect.statuses)
      (header : response.headers.get? "location" = some location)
      (unfit : Url.parse location = .error e) : Received url (.response response) none
  | response {response decoded : Response} (read : response.decoded = .ok decoded)
      (followed : decoded.followed url = .ok decoded) : Received url (.response response) (some decoded)

variable {url : Url} {outcome : Outcome}

/-- Without a response the exchange counts as failed. -/
theorem Received.failed (h : Received url outcome none) :
    ∃ timedOut reason, Network.resultOf url outcome = .error (.failed timedOut reason) := by
  cases h with
  | failure => exact ⟨_, _, rfl⟩
  | coding ascii broken =>
    obtain ⟨timedOut, reason, hfailed⟩ := Response.decoded_failed_iff.mpr ⟨ascii, _, broken⟩
    exact ⟨timedOut, reason, bind_eq_error.mpr (.inl hfailed)⟩
  | redirect read status header unfit =>
    rw [← Response.status_of_decoded read] at status
    rw [← Response.headers_of_decoded read] at header
    obtain ⟨timedOut, reason, hfailed⟩ := Response.followed_failed_iff.mpr ⟨status, _, _, header, unfit⟩
    exact ⟨timedOut, reason, bind_eq_error.mpr (.inr ⟨_, read, hfailed⟩)⟩

theorem Received.answered {response : Response} (h : Received url outcome (some response)) :
    Network.resultOf url outcome = .ok response := by
  cases h with
  | response read followed => exact bind_eq_ok.mpr ⟨_, read, followed⟩

/-- A response that is the result of an exchange is the one that came back. -/
theorem Received.of_result {response : Response} (h : Network.resultOf url outcome = .ok response) :
    Received url outcome (some response) := by
  cases outcome with
  | failure => cases h
  | response received =>
    obtain ⟨decoded, hread, hfollowed⟩ := bind_eq_ok.mp h
    obtain rfl := Response.eq_of_followed hfollowed
    exact .response hread hfollowed

/-- Something comes back, be it no response, unless the exchange breaks off. -/
theorem exists_received_iff :
    (∃ response?, Received url outcome response?) ↔ ∀ cause, ¬ outcome.Breaks url cause := by
  simp only [← Network.resultOf_fault_iff]
  constructor
  · rintro ⟨_ | response, h⟩ cause hfault
    · obtain ⟨_, _, hfailed⟩ := h.failed
      cases hfailed.symm.trans hfault
    · cases h.answered.symm.trans hfault
  · intro h
    cases outcome with
    | failure timedOut reason => exact ⟨none, .failure⟩
    | response response =>
      cases hresult : Network.resultOf url (.response response) with
      | ok answered => exact ⟨_, .of_result hresult⟩
      | error e =>
        cases e with
        | fault cause => exact absurd hresult (h cause)
        | failed timedOut reason =>
          rcases bind_eq_error.mp hresult with hfailed | ⟨decoded, hread, hfailed⟩
          · obtain ⟨hascii, _, hbroken⟩ := Response.decoded_failed_iff.mp ⟨_, _, hfailed⟩
            exact ⟨none, .coding hascii hbroken⟩
          · obtain ⟨hstatus, _, _, hheader, hunfit⟩ := Response.followed_failed_iff.mp ⟨_, _, hfailed⟩
            rw [Response.status_of_decoded hread] at hstatus
            rw [Response.headers_of_decoded hread] at hheader
            exact ⟨none, .redirect hread hstatus hheader hunfit⟩

end Http

/-! ## What it comes to -/

namespace Horizon.Client

open Http (Network Response Request Received Goes)

variable {client : Client} {id envelope : String} {network : Network} {response : Response}

/-- What the lookup of an account with this id comes to, given what came back. -/
structure Looked (id : String) (response? : Option Response)
    (value : Except LedgerFailure AccountRecord) : Prop where
  absent : ∀ asked, value = .error (.error (.accountNotFound asked)) ↔
    asked = id ∧ ∃ response, response? = some response ∧ response.status = 404
  present : ∀ sequence, (∃ account, value = .ok ⟨account, sequence⟩) ↔
    ∃ response, response? = some response ∧ response.Describes sequence
  otherwise : (∀ response, response? = some response →
      response.status ≠ 404 ∧ ∀ sequence, ¬ response.Describes sequence) →
    ∃ message, value = .error (.error (.failed message (response?.map (·.status))))

/-- What a submission comes to, given what came back. -/
structure Submitted (response? : Option Response) (value : Except LedgerFailure Json) : Prop where
  accepted : ∀ body, value = .ok body ↔
    ∃ response members, response? = some response ∧ response.IsObject members ∧ body = .obj members
  otherwise : (∀ response members, response? = some response → ¬ response.IsObject members) →
    ∃ message, value = .error (.error (.failed message (response?.map (·.status))))

/-- What ends a call as a fault: its URL cannot be requested, what came back cannot be taken, or it is a
response that cannot be read. `Reads` says of which responses the call reads more than the status. -/
inductive Escapes (network : Network) (method : Http.Method) (address : String)
    (form : List (String × String)) (Reads : Response → Prop) : Fault → Prop
  | breaks {cause : Http.Fault} (breaks : network.Breaks (.posing method form) address [] cause) :
      Escapes network method address form Reads (.exchange cause)
  | body {url : Url} {response : Response} {cause : Http.Fault} (goes : Goes address [] url)
      (received : Received url (Http.answer (.posing method form url) network.rules).1 (some response))
      (reads : Reads response) (illegible : response.Illegible cause) :
      Escapes network method address form Reads (.exchange cause)

/-- A call sends its one request if its URL is sent to anyone, and comes to what it means that this response
came back, or none. It ends with a fault only if it is one of those that escape. -/
structure Proceeds {α : Type} (network : Network) (method : Http.Method) (address : String)
    (form : List (String × String)) (Reads : Response → Prop)
    (Means : Option Response → Except LedgerFailure α → Prop)
    (answer : Answer Network (Except LedgerFailure α)) : Prop where
  unsent : ∀ url reason, Http.target address [] = .ok url → Http.refusal? url = some reason →
    answer.world = network ∧ Means none answer.value
  sent : ∀ url, Goes address [] url →
    Network.Sends network [.posing method form url] answer.world
  sorted : ∀ url response?, Goes address [] url →
    Received url (Http.answer (.posing method form url) network.rules).1 response? →
    (∀ response ∈ response?, Reads response → ∀ cause, ¬ response.Illegible cause) →
    Means response? answer.value
  fault : ∀ f, answer.value = .error (.fault f) ↔ Escapes network method address form Reads f

theorem failure_failed (url : String) (timedOut : Bool) (reason : String) :
    ∃ message, failure url (.failed timedOut reason) = .error (.failed message none) := by
  cases timedOut <;> exact ⟨_, rfl⟩

section

variable {α : Type} {method : Http.Method} {address : String} {form : List (String × String)}
  {Reads : Response → Prop} {Means : Option Response → Except LedgerFailure α → Prop}
  {answer : Answer Network (Except LedgerFailure α)} {read : Response → Except LedgerFailure α}

theorem failure_fault_iff {e : Http.Error} {f : Fault} :
    failure address e = .fault f ↔ ∃ cause, e = .fault cause ∧ f = .exchange cause := by
  unfold failure
  split <;> simp [eq_comm]

/-- What a call reads off the result of its request ends with a fault only if the request breaks off or the
response cannot be read. -/
theorem escapes_iff {f : Fault}
    (hvalue : answer.value =
      ((network.send method address [] form).1.mapError (failure address) >>= read))
    (hfault : ∀ response f, read response = .error (.fault f) ↔
      Reads response ∧ ∃ cause, response.Illegible cause ∧ f = .exchange cause) :
    answer.value = .error (.fault f) ↔ Escapes network method address form Reads f := by
  rw [hvalue, bind_eq_error]
  simp only [mapError_eq_error, mapError_eq_ok, failure_fault_iff, hfault]
  constructor
  · rintro (⟨_, hsent, cause, rfl, rfl⟩ | ⟨response, hsent, hreads, cause, hillegible, rfl⟩)
    · exact .breaks (Network.send_fault_iff.mp hsent)
    · obtain ⟨url, hgoes, hresult⟩ := Network.send_eq_ok_iff.mp hsent
      exact .body hgoes (.of_result hresult) hreads hillegible
  · rintro (hbreaks | ⟨hgoes, hreceived, hreads, hillegible⟩)
    · exact .inl ⟨_, Network.send_fault_iff.mpr hbreaks, _, rfl, rfl⟩
    · exact .inr ⟨_, Network.send_eq_ok_iff.mpr ⟨_, hgoes, hreceived.answered⟩, hreads, _, hillegible, rfl⟩

/-- It is enough to know what a call makes of the response, and that it takes every failure for none. -/
theorem Proceeds.of_send (hworld : answer.world = (network.send method address [] form).2)
    (hvalue : answer.value =
      ((network.send method address [] form).1.mapError (failure address) >>= read))
    (hnone : ∀ message, Means none (.error (.error (.failed message none))))
    (hread : ∀ response, (Reads response → ∀ cause, ¬ response.Illegible cause) →
      Means (some response) (read response))
    (hfault : ∀ response f, read response = .error (.fault f) ↔
      Reads response ∧ ∃ cause, response.Illegible cause ∧ f = .exchange cause) :
    Proceeds network method address form Reads Means answer where
  unsent url reason htarget hrefusal := by
    rw [Network.send_of_refused htarget hrefusal] at hworld hvalue
    rw [hvalue]
    exact ⟨hworld, hnone _⟩
  sent url hgoes := by
    rw [hworld, Network.send_of_goes hgoes]
    exact ⟨rfl, rfl⟩
  sorted url response? hgoes hreceived hreads := by
    rw [Network.send_of_goes hgoes] at hvalue
    cases response? with
    | none =>
      obtain ⟨timedOut, reason, hresult⟩ := hreceived.failed
      obtain ⟨message, hfailure⟩ := failure_failed address timedOut reason
      have hlost : answer.value = .error (.error (.failed message none)) := by
        rw [hvalue, hresult, ← hfailure]
        rfl
      rw [hlost]
      exact hnone message
    | some response =>
      have hanswered : answer.value = read response := by
        rw [hvalue, hreceived.answered]
        rfl
      rw [hanswered]
      exact hread response (hreads response rfl)
  fault f := escapes_iff hvalue hfault

end

theorem Looked.unanswered (id message : String) :
    Looked id none (.error (.error (.failed message none))) where
  absent := by simp
  present := by simp
  otherwise := fun _ => ⟨message, rfl⟩

theorem Looked.answered
    (hreads : response.status ≠ 404 → ∀ cause, ¬ response.Illegible cause) :
    Looked id (some response) (resultIn id response) := by
  unfold resultIn
  split_ifs with hstatus
  · exact {
      absent := fun asked => by simp [hstatus, eq_comm]
      present := fun sequence => by
        simp only [reduceCtorEq, exists_false, Option.some.injEq, exists_eq_left', false_iff]
        exact fun h => h.status_ne hstatus
      otherwise := fun h => absurd hstatus (h response rfl).1 }
  · exact {
      absent := fun asked => by simp [hstatus, accountIn_ne_absent]
      present := fun sequence => by
        simp only [Option.some.injEq, exists_eq_left']
        exact accountIn_describes_iff
      otherwise := fun h => by
        cases hvalue : accountIn id response with
        | ok record =>
          exact absurd (accountIn_describes_iff.mp ⟨record.id, hvalue⟩) ((h response rfl).2 record.sequence)
        | error e =>
          rcases accountIn_error hvalue with ⟨message, rfl⟩ | ⟨cause, hillegible, -⟩
          · exact ⟨message, rfl⟩
          · exact absurd hillegible (hreads hstatus cause) }

theorem resultIn_fault_iff {f : Fault} : resultIn id response = .error (.fault f) ↔
    response.status ≠ 404 ∧ ∃ cause, response.Illegible cause ∧ f = .exchange cause := by
  unfold resultIn
  split_ifs with hstatus
  · simp [hstatus]
  · simp [hstatus, accountIn_fault_iff]

theorem Submitted.unanswered (message : String) :
    Submitted none (.error (.error (.failed message none))) where
  accepted := by simp
  otherwise := fun _ => ⟨message, rfl⟩

theorem Submitted.answered (hlegible : ∀ cause, ¬ response.Illegible cause) :
    Submitted (some response) (readObject response).1 where
  accepted body := by
    rw [readObject_ok_iff]
    simp
  otherwise h := by
    rcases readObject_cases response with ⟨members, hobject, -⟩ | ⟨-, ⟨message, hread⟩ | ⟨cause, hillegible, -⟩⟩
    · exact absurd hobject (h response members rfl)
    · exact ⟨message, hread⟩
    · exact absurd hillegible (hlegible cause)

theorem load_proceeds (client : Client) (id : String) (network : Network) :
    Proceeds network .get (client.address (accountPath id)) [] (fun response => response.status ≠ 404)
      (Looked id) (client.load id network) :=
  .of_send load_world load_value (fun message => .unanswered id message) (fun _ => .answered)
    fun _ _ => resultIn_fault_iff

theorem submit_proceeds (client : Client) (envelope : String) (network : Network) :
    Proceeds network .post (client.address "/transactions") [("tx", envelope)] (fun _ => True) Submitted
      (client.submit envelope network) :=
  .of_send submit_world submit_value .unanswered (fun _ hreads => .answered (hreads trivial))
    fun _ _ => by rw [readObject_fault_iff, true_and]

/-- Slashes at the end of an address make no difference. -/
theorem ofUrl_append_slashes (base : String) (slashes : Nat) :
    ofUrl (base ++ String.ofList (List.replicate slashes '/')) = ofUrl base := by
  unfold ofUrl Text.trimEnd
  rw [String.toList_append, String.toList_ofList, List.reverse_append, List.reverse_replicate,
    List.dropWhile_append_of_pos (by simp)]

/-- Every lookup of an account and every submission sends one request if its URL is sent to anyone, whatever
comes of it, and comes to what the response says that came back, or to a failure without a status. It ends
with a fault if and only if it is one of those that escape. Slashes at the end of the ledger's address make
no difference. -/
theorem answers_sorted (base id envelope : String) (network : Network) :
    let client := ofUrl base
    Proceeds network .get (client.address (accountPath id)) []
        (fun response => response.status ≠ 404) (Looked id) (client.load id network) ∧
      Proceeds network .post (client.address "/transactions") [("tx", envelope)] (fun _ => True) Submitted
        (client.submit envelope network) ∧
      ∀ slashes, let slashed := ofUrl (base ++ String.ofList (List.replicate slashes '/'))
        slashed.load id network = client.load id network ∧
          slashed.submit envelope network = client.submit envelope network := by
  refine ⟨load_proceeds _ id network, submit_proceeds _ envelope network, fun slashes => ?_⟩
  rw [ofUrl_append_slashes]
  exact ⟨rfl, rfl⟩

-- a redirection to an address at which nobody can be asked
example : ((ofUrl "http://horizon.test").lookup "GA" {
    rules := [{
      method := "GET"
      url := none
      outcome := .response { status := 302, headers := [("location", "mailto:x")], body := [] } }] }).1 =
    .error (.fault (.invalidUrl .pathWithoutSlash)) := by decide +kernel

namespace Slashed

def base : String := "http://horizon.test//"

def url : Url := { scheme := "http", host := "horizon.test", path := "/accounts/GA" }

def found : Response := { status := 200, body := Bytes.ofString "\x7b\"sequence\": \"7\"\x7d" }

def ledger : Network := { rules := [{ method := "GET", url := none, outcome := .response found }] }

/-- The lookup of an account with sequence 7, at an address that ends in slashes. -/
theorem found_behind_slashes : (∃ account, ((ofUrl base).load "GA" ledger).value = .ok ⟨account, "7"⟩) ∧
    ((ofUrl base).load "GA" ledger).world.sent = [⟨.get, "http://horizon.test/accounts/GA", ""⟩] := by
  have hgoes : Goes ((ofUrl base).address (accountPath "GA")) [] url := by
    unfold Goes
    decide +kernel
  have hrequest : Request.posing .get [] url = ⟨.get, "http://horizon.test/accounts/GA", ""⟩ := by
    decide +kernel
  have hdescribes : found.Describes "7" := by
    have hsequence : (accountIn "GA" found).toOption.map (·.sequence) = some "7" := by decide +kernel
    rcases hrecord : accountIn "GA" found with _ | ⟨account, sequence⟩
    · rw [hrecord] at hsequence
      cases hsequence
    · rw [hrecord] at hsequence
      cases hsequence
      exact accountIn_describes_iff.mp ⟨account, hrecord⟩
  have hlegible : ∀ cause, ¬ found.Illegible cause := by
    obtain ⟨_, hobject, -⟩ := hdescribes
    exact hobject.legible
  have hreceived : Received url (Http.answer (.posing .get [] url) ledger.rules).1 (some found) :=
    .response (by decide +kernel) (by decide +kernel)
  obtain ⟨hload, -, -⟩ := answers_sorted base "GA" "" ledger
  have hlooked := hload.sorted url (some found) hgoes hreceived fun _ h _ => Option.some.inj h ▸ hlegible
  refine ⟨(hlooked.present "7").mpr ⟨found, rfl, hdescribes⟩, ?_⟩
  rw [(hload.sent url hgoes).sent, hrequest]
  rfl

end Slashed

end Horizon.Client

end Paygate
