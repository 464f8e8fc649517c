import Paygate.Proofs.Except
import Paygate.Proofs.Http.Exchanges

/-!
# What comes of asking

An address is asked at the URL that it comes to, if it comes to one that is sent to anyone (`Goes`), and
the outcome of that one request decides the result.

* `goes_cases`, `Response.followed_cases`: what an address and a response come to.
* `Network.send_of_goes`, `Network.get_of_unsent`: the request and its result, or neither.
* `Network.Answers`, `Network.get_success_iff`: asking comes to a success.
* `Outcome.Breaks`, `Network.resultOf_fault_iff`: what came back cannot be taken.
* `Network.Breaks`, `Network.send_fault_iff`: asking breaks off.
-/

namespace Paygate.Http

/-! ## Requests -/

/-- The request that asks for a URL. -/
def Request.ask (url : Url) : Request := { method := .get, url := url.toText }

/-- The request for a URL with a form. -/
def Request.posing (method : Method) (form : List (String × String)) (url : Url) : Request :=
  { method, url := url.toText, body := String.ofList (Percent.formPairs form) }

/-- What is asked at an address with these parameters goes to this URL. -/
def Goes (address : Str) (parameters : List (String × Str)) (url : Url) : Prop :=
  target address parameters = .ok url ∧ refusal? url = none

/-- There is one such URL at most. -/
theorem Goes.unique {address : Str} {parameters : List (String × Str)} {url url' : Url}
    (h : Goes address parameters url) (h' : Goes address parameters url') : url = url' :=
  Except.ok.inj (h.1.symm.trans h'.1)

/-- An address comes to no URL, or to one that is sent to nobody, or it goes to a URL. -/
theorem goes_cases (address : Str) (parameters : List (String × Str)) :
    (∃ cause, target address parameters = .error cause) ∨
    (∃ url reason, target address parameters = .ok url ∧ refusal? url = some reason) ∨
    ∃ url, Goes address parameters url := by
  cases htarget : target address parameters with
  | error cause => exact .inl ⟨cause, rfl⟩
  | ok url =>
    cases hrefusal : refusal? url with
    | some reason => exact .inr (.inl ⟨url, reason, rfl, hrefusal⟩)
    | none => exact .inr (.inr ⟨url, htarget, hrefusal⟩)

/-- The outcome is a response with a status from 200 to 299, here without its content codings. -/
def Outcome.Succeeds (outcome : Outcome) (response : Response) : Prop :=
  ∃ received, outcome = .response received ∧ received.decoded = .ok response ∧
    response.isSuccess = true

/-! ## Responses -/

theorem Response.headers_of_decoded {response decoded : Response} (h : response.decoded = .ok decoded) :
    decoded.headers = response.headers := by
  unfold Response.decoded at h
  split at h
  · cases h
  · split at h <;> cases h
    rfl

/-- A success redirects to nowhere. -/
theorem Response.followed_of_isSuccess {response : Response} (h : response.isSuccess = true) (sent : Url) :
    response.followed sent = .ok response := by
  have hstatus : Redirect.statuses.contains response.status = false := by
    simp only [Response.isSuccess, Bool.and_eq_true, decide_eq_true_eq] at h
    simp only [Redirect.statuses, List.contains_eq_mem, List.mem_cons, List.not_mem_nil,
      decide_eq_false_iff_not, or_false]
    omega
  unfold Response.followed
  split
  · rfl
  · rw [hstatus]
    rfl

/-- Taking the codings off a response breaks off only where a header is not ASCII. -/
theorem Response.decoded_fault_iff {response : Response} {cause : Fault} :
    response.decoded = .error (.fault cause) ↔
      ∃ text, response.headers.foreign? = some text ∧ cause = .notAscii text.toList := by
  unfold Response.decoded
  split
  · rename_i text htext
    rw [htext]
    simp [eq_comm]
  · rename_i hnone
    rw [hnone]
    split <;> simp

/-- A response counts as failed where its content codings cannot be undone. -/
theorem Response.decoded_failed_iff {response : Response} :
    (∃ timedOut reason, response.decoded = .error (.failed timedOut reason)) ↔
      response.headers.foreign? = none ∧
        ∃ e, Coding.decodeAll (Coding.ofHeaders response.headers) response.body = .error e := by
  unfold Response.decoded
  split
  · rename_i text htext
    simp [htext]
  · rename_i hnone
    rw [hnone]
    split
    · rename_i e hbroken
      simp [hbroken]
    · rename_i body hread
      simp [hread]

/-- A response that does not redirect stays as it is. A redirection leads to no URL, or to one that is
checked. -/
theorem Response.followed_cases (response : Response) (sent : Url) :
    ((∀ address, response.status ∈ Redirect.statuses → response.headers.get? "location" ≠ some address) ∧
      response.followed sent = .ok response) ∨
    ∃ address, response.status ∈ Redirect.statuses ∧ response.headers.get? "location" = some address ∧
      ((∃ e reason, Url.parse address = .error e ∧
          response.followed sent = .error (.failed false reason)) ∨
        ∃ named, Url.parse address = .ok named ∧
          response.followed sent = ((Redirect.check sent named).mapError .fault).map fun () => response) := by
  unfold Response.followed
  cases haddress : response.headers.get? "location" with
  | none => exact .inl ⟨nofun, rfl⟩
  | some address =>
    simp only [List.contains_eq_mem, decide_eq_true_eq]
    by_cases hstatus : response.status ∈ Redirect.statuses
    · rw [if_pos hstatus]
      refine .inr ⟨address, hstatus, rfl, ?_⟩
      cases hparse : Url.parse address with
      | error e => exact .inl ⟨e, _, rfl, rfl⟩
      | ok named => exact .inr ⟨named, rfl, rfl⟩
    · exact .inl ⟨fun _ hredirects _ => hstatus hredirects, if_neg hstatus⟩

/-- Looking at a redirection breaks off where it leads to an address that cannot be asked next. -/
theorem Response.followed_fault_iff {response : Response} {sent : Url} {cause : Fault} :
    response.followed sent = .error (.fault cause) ↔
      response.status ∈ Redirect.statuses ∧ ∃ address named,
        response.headers.get? "location" = some address ∧ Url.parse address = .ok named ∧
          Redirect.check sent named = .error cause := by
  rcases response.followed_cases sent with ⟨hnone, hsame⟩ |
    ⟨address, hstatus, haddress, ⟨e, reason, hparse, hfailed⟩ | ⟨named, hparse, hchecked⟩⟩
  · rw [hsame]
    exact iff_of_false nofun fun ⟨hstatus, address, _, haddress, _⟩ => hnone address hstatus haddress
  · rw [hfailed]
    simp [haddress, hparse]
  · rw [hchecked]
    simp only [hstatus, haddress, hparse, true_and, Option.some.injEq, Except.ok.injEq,
      exists_and_left, exists_eq_left']
    cases Redirect.check sent named <;> simp [Except.mapError, Except.map]

/-- A redirection counts as failed where it leads to no URL. -/
theorem Response.followed_failed_iff {response : Response} {sent : Url} :
    (∃ timedOut reason, response.followed sent = .error (.failed timedOut reason)) ↔
      response.status ∈ Redirect.statuses ∧ ∃ address e,
        response.headers.get? "location" = some address ∧ Url.parse address = .error e := by
  rcases response.followed_cases sent with ⟨hnone, hsame⟩ |
    ⟨address, hstatus, haddress, ⟨e, reason, hparse, hfailed⟩ | ⟨named, hparse, hchecked⟩⟩
  · rw [hsame]
    exact iff_of_false nofun fun ⟨hstatus, address, _, haddress, _⟩ => hnone address hstatus haddress
  · rw [hfailed]
    exact iff_of_true ⟨_, _, rfl⟩ ⟨hstatus, address, e, haddress, hparse⟩
  · rw [hchecked]
    refine iff_of_false ?_ ?_
    · rintro ⟨_, _, hfailed⟩
      cases hcheck : Redirect.check sent named <;> rw [hcheck] at hfailed <;> cases hfailed
    · rintro ⟨-, other, e, hother, hunfit⟩
      cases haddress.symm.trans hother
      cases hparse.symm.trans hunfit

/-! ## Outcomes -/

/-- What came back has a header that is not ASCII, or redirects to an address that cannot be asked next. -/
inductive Outcome.Breaks (url : Url) : Outcome → Fault → Prop
  | header {received : Response} {text : String} (foreign : received.headers.foreign? = some text) :
      Breaks url (.response received) (.notAscii text.toList)
  | redirect {named : Url} {received decoded : Response} {location : String} {cause : Fault}
      (read : received.decoded = .ok decoded) (status : received.status ∈ Redirect.statuses)
      (header : received.headers.get? "location" = some location)
      (parsed : Url.parse location = .ok named) (unfit : Redirect.check url named = .error cause) :
      Breaks url (.response received) cause

namespace Network

theorem resultOf_fault_iff {url : Url} {outcome : Outcome} {cause : Fault} :
    resultOf url outcome = .error (.fault cause) ↔ outcome.Breaks url cause := by
  constructor
  · intro h
    cases outcome with
    | failure timedOut reason => cases h
    | response received =>
      rcases bind_eq_error.mp h with hdecoded | ⟨decoded, hdecoded, hfollowed⟩
      · obtain ⟨text, htext, rfl⟩ := Response.decoded_fault_iff.mp hdecoded
        exact .header htext
      · obtain ⟨hstatus, location, named, hlocation, hparse, hcheck⟩ :=
          Response.followed_fault_iff.mp hfollowed
        rw [Response.status_of_decoded hdecoded] at hstatus
        rw [Response.headers_of_decoded hdecoded] at hlocation
        exact .redirect hdecoded hstatus hlocation hparse hcheck
  · rintro (hforeign | ⟨hread, hstatus, hheader, hparsed, hunfit⟩)
    · exact bind_eq_error.mpr (.inl (Response.decoded_fault_iff.mpr ⟨_, hforeign, rfl⟩))
    · refine bind_eq_error.mpr (.inr ⟨_, hread, Response.followed_fault_iff.mpr ?_⟩)
      rw [Response.status_of_decoded hread, Response.headers_of_decoded hread]
      exact ⟨hstatus, _, _, hheader, hparsed, hunfit⟩

end Network

/-! ## Asking -/

namespace Network

variable {network : Network} {address : Str} {parameters : List (String × Str)} {url : Url}
  {response : Response} {cause : Fault}

theorem send_of_goes (h : Goes address parameters url) (method : Method) (form : List (String × String)) :
    network.send method address parameters form =
      (resultOf url (answer (.posing method form url) network.rules).1,
        { rules := (answer (.posing method form url) network.rules).2
          sent := network.sent ++ [.posing method form url] }) := by
  unfold send
  rw [h.1]
  simp only [h.2]
  rfl

theorem send_of_unfit (h : target address parameters = .error cause) (method : Method)
    (form : List (String × String)) :
    network.send method address parameters form = (.error (.fault cause), network) := by
  unfold send
  rw [h]

theorem send_of_refused {reason : String} (htarget : target address parameters = .ok url)
    (hrefusal : refusal? url = some reason) (method : Method) (form : List (String × String)) :
    network.send method address parameters form = (.error (.failed false reason), network) := by
  unfold send
  rw [htarget]
  simp only [hrefusal]

/-- A request has a result only at a URL that it goes to, and it is that of the outcome there. -/
theorem send_eq_ok_iff {method : Method} {form : List (String × String)} :
    (network.send method address parameters form).1 = .ok response ↔ ∃ url, Goes address parameters url ∧
      resultOf url (answer (.posing method form url) network.rules).1 = .ok response := by
  constructor
  · intro h
    rcases goes_cases address parameters with ⟨cause, hunfit⟩ | ⟨url, reason, htarget, hrefusal⟩ |
      ⟨url, hgoes⟩
    · rw [send_of_unfit hunfit] at h
      cases h
    · rw [send_of_refused htarget hrefusal] at h
      cases h
    · rw [send_of_goes hgoes] at h
      exact ⟨url, hgoes, h⟩
  · rintro ⟨url, hgoes, hresult⟩
    rw [send_of_goes hgoes]
    exact hresult

theorem get_of_goes (h : Goes address parameters url) : network.get address parameters =
    (resultOf url (answer (.ask url) network.rules).1,
      { rules := (answer (.ask url) network.rules).2, sent := network.sent ++ [.ask url] }) :=
  send_of_goes h .get []

theorem sends_of_goes (h : Goes address parameters url) :
    Sends network [.ask url] (network.get address parameters).2 := by
  rw [get_of_goes h]
  exact ⟨rfl, rfl⟩

theorem get_of_unsent (network : Network) (h : ∀ url, ¬ Goes address parameters url) :
    ∃ e, network.get address parameters = (.error e, network) := by
  rcases goes_cases address parameters with ⟨cause, hunfit⟩ | ⟨url, reason, htarget, hrefusal⟩ |
    ⟨url, hgoes⟩
  · exact ⟨_, send_of_unfit hunfit .get []⟩
  · exact ⟨_, send_of_refused htarget hrefusal .get []⟩
  · exact absurd hgoes (h url)

theorem resultOf_success_iff {outcome : Outcome} :
    resultOf url outcome = .ok response ∧ response.isSuccess = true ↔ outcome.Succeeds response := by
  constructor
  · rintro ⟨hresult, hsuccess⟩
    unfold resultOf at hresult
    split at hresult
    · rename_i received
      obtain ⟨decoded, hdecoded, hfollowed⟩ := bind_eq_ok.mp hresult
      obtain rfl := Response.eq_of_followed hfollowed
      exact ⟨received, rfl, hdecoded, hsuccess⟩
    · cases hresult
  · rintro ⟨received, rfl, hdecoded, hsuccess⟩
    refine ⟨?_, hsuccess⟩
    rw [resultOf, hdecoded]
    exact Response.followed_of_isSuccess hsuccess url

/-- What is asked is answered with a success. -/
def Answers (network : Network) (address : Str) (parameters : List (String × Str))
    (response : Response) : Prop :=
  ∃ url, Goes address parameters url ∧ (answer (.ask url) network.rules).1.Succeeds response

theorem get_success_iff :
    (network.get address parameters).1 = .ok response ∧ response.isSuccess = true ↔
      network.Answers address parameters response := by
  constructor
  · rintro ⟨hresult, hsuccess⟩
    obtain ⟨url, hgoes, hresult⟩ := send_eq_ok_iff.mp hresult
    exact ⟨url, hgoes, resultOf_success_iff.mp ⟨hresult, hsuccess⟩⟩
  · rintro ⟨url, hgoes, hsucceeds⟩
    obtain ⟨hresult, hsuccess⟩ := resultOf_success_iff.mpr hsucceeds
    exact ⟨send_eq_ok_iff.mpr ⟨url, hgoes, hresult⟩, hsuccess⟩

/-- Asking breaks off: the address is no URL or not one that can be asked, or what came back for the request
cannot be taken. -/
inductive Breaks (network : Network) (request : Url → Request) (address : Str)
    (parameters : List (String × Str)) : Fault → Prop
  | address {cause : Fault} (unfit : target address parameters = .error cause) :
      Breaks network request address parameters cause
  | outcome {url : Url} {cause : Fault} (goes : Goes address parameters url)
      (breaks : (answer (request url) network.rules).1.Breaks url cause) :
      Breaks network request address parameters cause

theorem send_fault_iff {method : Method} {form : List (String × String)} :
    (network.send method address parameters form).1 = .error (.fault cause) ↔
      network.Breaks (.posing method form) address parameters cause := by
  constructor
  · intro h
    rcases goes_cases address parameters with ⟨cause', hunfit⟩ | ⟨url, reason, htarget, hrefusal⟩ |
      ⟨url, hgoes⟩
    · rw [send_of_unfit hunfit] at h
      cases h
      exact .address hunfit
    · rw [send_of_refused htarget hrefusal] at h
      cases h
    · rw [send_of_goes hgoes] at h
      exact .outcome hgoes (resultOf_fault_iff.mp h)
  · rintro (hunfit | ⟨hgoes, hbreaks⟩)
    · rw [send_of_unfit hunfit]
    · rw [send_of_goes hgoes]
      exact resultOf_fault_iff.mpr hbreaks

theorem get_fault_iff : (network.get address parameters).1 = .error (.fault cause) ↔
    network.Breaks .ask address parameters cause := send_fault_iff

end Network

end Paygate.Http
