import Paygate.Proofs.Json.Without
import Paygate.Proofs.Service.Form
import Paygate.Proofs.Service.Replies

/-!
# What a success is answered with

A payment is answered with status 200 if and only if the ledger accepted its submission and the answer of
the ledger has a written form once its hidden members are dropped.

* `Accepts`: the ledger accepted what a request posted, with an object as its answer.
* `Gateway.reply_of_accepts`, `Gateway.accepts_of_success`: the reply to such a request, and the only
  requests that have such a reply.
* `Gateway.success_iff_accepted`: both together, and when the answer is shown as it is.
-/

namespace Paygate

namespace Http

variable {rules : List Rule} {before after : Network} {request posted : Request} {outcome : Outcome}

theorem mem_of_mem_exchanges {requests : List Request} (h : (posted, outcome) ∈ exchanges rules requests) :
    posted ∈ requests := by
  induction requests generalizing rules with
  | nil => cases h
  | cons first rest ih =>
    rw [exchanges, List.mem_cons] at h
    rcases h with h | h
    · exact (Prod.mk.inj h).1 ▸ List.mem_cons_self
    · exact List.mem_cons_of_mem _ (ih h)

/-- Where everything before only asked, what was posted is the last request, with its outcome. -/
theorem exchange_of_posted (hasks : Network.Asks { rules } before)
    (hsends : Network.Sends before [request] after)
    (hexchange : (posted, outcome) ∈ exchanges rules after.sent) (hpost : posted.method = .post) :
    posted = request ∧ outcome = (answer request before.rules).1 := by
  obtain ⟨asked, hasked, hgets⟩ := hasks
  have hsent : after.sent = asked ++ [request] := by
    rw [hsends.sent, hasked.sent, List.nil_append]
  rw [hsent, exchanges_append, List.mem_append, ← hasked.rules] at hexchange
  rcases hexchange with hearlier | hlast
  · have hget := hgets posted (mem_of_mem_exchanges hearlier)
    rw [hpost] at hget
    cases hget
  · exact Prod.mk.inj (List.mem_singleton.mp hlast)

/-- The last request and its outcome are among the exchanges. -/
theorem mem_exchanges_last (hasks : Network.Asks { rules } before)
    (hsends : Network.Sends before [request] after) :
    (request, (answer request before.rules).1) ∈ exchanges rules after.sent := by
  obtain ⟨asked, hasked, -⟩ := hasks
  rw [hsends.sent, hasked.sent, List.nil_append, exchanges_append, ← hasked.rules]
  exact List.mem_append_right _ (List.mem_singleton.mpr rfl)

end Http

namespace Horizon.Client

open Http (Network)

/-- A submission sends nothing and fails, or posts the envelope and comes to what is read from the
response. -/
theorem submit_cases (client : Client) (envelope : String) (network : Network) :
    ((∃ e, (client.submit envelope network).value = .error e) ∧
      (client.submit envelope network).world = network) ∨
    ∃ url, Http.target (client.address "/transactions") [] = .ok url ∧
      let request : Http.Request :=
        ⟨.post, url.toText, String.ofList (Percent.formPairs [("tx", envelope)])⟩
      Network.Sends network [request] (client.submit envelope network).world ∧
      ∀ body, (client.submit envelope network).value = .ok body ↔
        ∃ response, Network.resultOf url (Http.answer request network.rules).1 = .ok response ∧
          (readObject response).1 = .ok body := by
  rw [submit_world, submit_value]
  rcases network.send_cases .post (client.address "/transactions") [] [("tx", envelope)] with
    ⟨⟨e, herror⟩, hsame⟩ | ⟨url, hurl, hsends, hresult⟩
  · rw [herror]
    exact .inl ⟨⟨_, rfl⟩, hsame⟩
  · refine .inr ⟨url, hurl, hsends, fun body => ?_⟩
    rw [hresult]
    simp only [bind_eq_ok, mapError_eq_ok]

end Horizon.Client

namespace Service

open Http (Network)

/-- The ledger accepted what a request posted: the exchange of the submission came back with a success
and with an object that has these members. -/
def Accepts (gateway : Gateway) (rules : List Http.Rule) (sent : List Http.Request)
    (members : List (Str × Json)) : Prop :=
  ∃ posted outcome url response, (posted, outcome) ∈ Http.exchanges rules sent ∧ posted.method = .post ∧
    Http.target (gateway.ledger.address "/transactions") [] = .ok url ∧ posted.url = url.toText ∧
    Network.resultOf url outcome = .ok response ∧ response.isSuccess = true ∧
    response.json? = .ok (some (.obj members))

namespace Gateway

open Pipeline

variable {gateway : Gateway} {rules : List Http.Rule} {request : Request} {form : Form}
  {config : Config} {payment : PaymentRequest} {w' : Network} {calls : List Call}
  {result : Except Failure Json}

/-- The ledger accepted what was posted after asking if and only if the submission comes to a value. -/
theorem submit_ok_iff {envelope : String} {w : Network} (hasks : Network.Asks { rules } w) {body : Json} :
    (gateway.ledger.submit envelope w).value = .ok body ↔ ∃ members,
      Accepts gateway rules (gateway.ledger.submit envelope w).world.sent members ∧
        body = .obj members := by
  rcases gateway.ledger.submit_cases envelope w with
    ⟨⟨e, herror⟩, hsame⟩ | ⟨url, hurl, hsends, hvalue⟩
  · rw [herror, hsame]
    refine ⟨nofun, ?_⟩
    rintro ⟨members, ⟨posted, outcome, _, _, hexchange, hpost, -⟩, -⟩
    exact absurd hpost (hasks.method_ne_post (Http.mem_of_mem_exchanges hexchange))
  · rw [hvalue]
    constructor
    · rintro ⟨response, hresult, hread⟩
      obtain ⟨members, ⟨hsuccess, hjson⟩, rfl⟩ := Horizon.Client.readObject_ok_iff.mp hread
      exact ⟨members, ⟨_, _, url, response, Http.mem_exchanges_last hasks hsends, rfl, hurl, rfl, hresult,
        hsuccess, hjson⟩, rfl⟩
    · rintro ⟨members, ⟨posted, outcome, url', response, hexchange, hpost, hurl', -, hresult, hsuccess,
        hjson⟩, rfl⟩
      obtain ⟨-, rfl⟩ := Http.exchange_of_posted hasks hsends hexchange hpost
      cases hurl.symm.trans hurl'
      exact ⟨response, hresult, Horizon.Client.readObject_ok_iff.mpr ⟨members, ⟨hsuccess, hjson⟩, rfl⟩⟩

/-- A submission follows requests that only ask. -/
theorem asks_of_assembled {seed source : String} {destination : Destination} {transaction : Transaction}
    {w : Network} (h : Assembled gateway.collaborators config payment { rules } seed source destination
      transaction w calls) : Network.Asks { rules } (gateway.ledger.load source w).world := by
  obtain ⟨prepared, -, -⟩ := h
  exact (prepared_asks prepared).trans (gateway.ledger.load_asks source w)

/-- Building sends nothing. -/
theorem build_world (transaction : Transaction) (seed : String) (w : Network) :
    (gateway.collaborators.build transaction seed w).world = w :=
  ledgerBuilder_world transaction seed w

/-- A run that comes to a value ends with a submission that does. -/
theorem submit_of_course {body : Json}
    (h : Course gateway.collaborators config payment { rules } (.ok body) w' calls) :
    ∃ envelope w, Network.Asks { rules } w ∧ (gateway.ledger.submit envelope w).value = .ok body ∧
      w' = (gateway.ledger.submit envelope w).world := by
  generalize hresult : (Except.ok body : Except Failure Json) = result at h
  cases h with
  | submission whole built submitted =>
    cases submitted with
    | accepted answer =>
      cases hresult
      rw [build_world] at answer ⊢
      exact ⟨_, _, asks_of_assembled whole, answer, rfl⟩
    | _ => cases hresult
  | _ => cases hresult

/-- A run comes to a value if and only if the ledger accepted its submission. -/
theorem course_ok_iff (h : Course gateway.collaborators config payment { rules } result w' calls)
    {body : Json} : result = .ok body ↔ ∃ members, Accepts gateway rules w'.sent members ∧
      body = .obj members := by
  constructor
  · rintro rfl
    obtain ⟨envelope, w, hasks, hvalue, rfl⟩ := submit_of_course h
    exact (submit_ok_iff hasks).mp hvalue
  · intro haccepts
    rcases course_cases h with hasks | ⟨seed, source, _, transaction, w₀, calls₀, built, whole, hbuilt, rfl⟩
    · obtain ⟨members, ⟨posted, outcome, _, _, hexchange, hpost, -⟩, -⟩ := haccepts
      exact absurd hpost (hasks.method_ne_post (Http.mem_of_mem_exchanges hexchange))
    · have hvalue := (submit_ok_iff (asks_of_assembled whole)).mpr haccepts
      have hbuilds : Builds gateway.collaborators transaction seed (gateway.ledger.load source w₀).world
          (.ok built.text) := .built (by
        show (ledgerBuilder transaction seed _).value = _
        rw [ledgerBuilder_value, hbuilt]
        rfl)
      have hsubmits : Submits gateway.collaborators built.text (gateway.collaborators.build transaction seed
          (gateway.ledger.load source w₀).world).world (.ok body) := by
        rw [build_world]
        exact .accepted hvalue
      exact (h.unique (.submission whole hbuilds hsubmits)).1

/-! ## Replies -/

/-- What the ledger answered is shown without its hidden members. If that has no written form, the
payment is answered as a fault. -/
theorem reply_of_accepts {members : List (Str × Json)}
    (h : Accepts gateway rules (gateway.handle request { rules }).network.sent members) :
    (gateway.handle request { rules }).reply =
      if ((Json.obj members).without isHidden).isWritable then
        { status := 200, body := some ((Json.obj members).without isHidden) }
      else errorReply .serverError := by
  have hpays : ∃ form, PaysWith request form := by
    by_contra hnot
    obtain ⟨posted, outcome, _, _, hexchange, hpost, -⟩ := h
    exact absurd hpost ((handle_asks hnot).method_ne_post (Http.mem_of_mem_exchanges hexchange))
  obtain ⟨form, hpays⟩ := hpays
  rw [reply_of_form hpays]
  rw [handle_eq_pay hpays, pay_network] at h
  have hcourse := execute_course gateway.collaborators gateway.pipeline (.ofForm form) { rules }
  rw [(course_ok_iff hcourse).mpr ⟨members, h, rfl⟩]
  unfold conclude
  dsimp only
  split <;> rfl

/-- A payment is answered with status 200 only if the ledger accepted its submission. -/
theorem accepts_of_success (h : dispatch request = .ok .payment)
    (hstatus : (gateway.handle request { rules }).reply.status = 200) :
    ∃ members, Accepts gateway rules (gateway.handle request { rules }).network.sent members ∧
      ((Json.obj members).without isHidden).isWritable = true := by
  cases hform : readForm request.contentType request.body with
  | error failure =>
    cases failure with
    | error e =>
      rw [reply_of_formError h hform] at hstatus
      cases hstatus
    | fault cause =>
      rw [reply_of_formFault h hform] at hstatus
      cases hstatus
  | ok form =>
    have hpays : PaysWith request form := ⟨h, hform⟩
    have hcourse := execute_course gateway.collaborators gateway.pipeline (.ofForm form) { rules }
    rw [reply_of_form hpays] at hstatus
    rw [handle_eq_pay hpays, pay_network]
    generalize (Pipeline.execute gateway.collaborators gateway.pipeline
      (.ofForm form)).run { world := { rules } } = run at hcourse hstatus ⊢
    obtain ⟨result, session⟩ := run
    have herror : ∀ error : PaymentError, error.status ≠ 200 := by
      intro error
      cases error <;> decide
    cases result with
    | error failure =>
      cases failure with
      | payment e => exact absurd hstatus (herror e)
      | fault f => exact absurd hstatus (herror .serverError)
    | ok body =>
      obtain ⟨members, haccepts, rfl⟩ := (course_ok_iff hcourse).mp rfl
      refine ⟨members, haccepts, ?_⟩
      by_contra hwritable
      unfold conclude at hstatus
      dsimp only at hstatus
      rw [if_neg hwritable] at hstatus
      exact herror .serverError hstatus

/-- When a payment is a success, and what is shown of it.

* If the ledger accepted what was posted, its answer is shown without its hidden members, or the payment is
  answered as a fault if that has no written form.
* In no other case is a payment answered with status 200.
* The answer of the ledger is shown as it is if and only if it has no hidden members and has a written
  form. -/
theorem success_iff_accepted (gateway : Gateway) (rules : List Http.Rule) (request : Request) :
    (∀ members, Accepts gateway rules (gateway.handle request { rules }).network.sent members →
      (gateway.handle request { rules }).reply =
        if ((Json.obj members).without isHidden).isWritable then
          { status := 200, body := some ((Json.obj members).without isHidden) }
        else errorReply .serverError) ∧
    (dispatch request = .ok .payment → (gateway.handle request { rules }).reply.status = 200 →
      ∃ members, Accepts gateway rules (gateway.handle request { rules }).network.sent members ∧
        ((Json.obj members).without isHidden).isWritable = true) ∧
    ∀ members, Accepts gateway rules (gateway.handle request { rules }).network.sent members →
      ((gateway.handle request { rules }).reply = { status := 200, body := some (.obj members) } ↔
        (∀ name ∈ (Json.obj members).names, isHidden name = false) ∧
          (Json.obj members).isWritable = true) := by
  refine ⟨fun members => reply_of_accepts, accepts_of_success, fun members haccepts => ?_⟩
  rw [reply_of_accepts haccepts, ← Json.without_eq_self_iff]
  constructor
  · intro hreply
    split at hreply
    · rename_i hwritable
      have hsame := Option.some.inj (Reply.mk.inj hreply).2.1
      exact ⟨hsame, hsame ▸ hwritable⟩
    · cases (Reply.mk.inj hreply).1
  · rintro ⟨hsame, hwritable⟩
    rw [hsame, if_pos hwritable]

end Gateway

/-! ## An answer with a hidden member -/

namespace HiddenMember

open Sample (gateway)

/-- The ledger describes every account, and accepts every submission. -/
def rules : List Http.Rule := [
  { method := "GET", url := none
    outcome := .response { status := 200, body := Bytes.ofString "\x7b\"sequence\":\"7\"\x7d" } },
  { method := "POST", url := none
    outcome := .response {
      status := 200, body := Bytes.ofString "\x7b\"hash\":\"abc\",\"_sa_id\":1\x7d" } }]

def request : Request := Sample.request "2"

theorem pays : PaysWith request (Sample.form "2") := Sample.pays "2"

/-- The reply has status 200 and shows only one of the two members. -/
theorem reply_shown : (gateway.handle request { rules }).reply.status = 200 ∧
    (gateway.handle request { rules }).reply.body.map Json.names = some [.whole "hash"] := by
  rw [Gateway.handle_eq_pay pays]
  decide +kernel

/-- The submission was accepted, and the answer is shown without its hidden member. -/
theorem accepted_without_hidden : dispatch request = .ok .payment ∧
    (gateway.handle request { rules }).reply.status = 200 ∧ ∃ members,
      Accepts gateway rules (gateway.handle request { rules }).network.sent members ∧
      (gateway.handle request { rules }).reply =
        { status := 200, body := some ((Json.obj members).without Gateway.isHidden) } ∧
      ((gateway.handle request { rules }).reply = { status := 200, body := some (.obj members) } ↔
        (∀ name ∈ (Json.obj members).names, Gateway.isHidden name = false) ∧
          (Json.obj members).isWritable = true) := by
  have hsuccess := Gateway.success_iff_accepted gateway rules request
  obtain ⟨members, haccepts, hwritable⟩ := hsuccess.2.1 pays.1 reply_shown.1
  have hreply := hsuccess.1 members haccepts
  rw [if_pos hwritable] at hreply
  exact ⟨pays.1, reply_shown.1, members, haccepts, hreply, hsuccess.2.2 members haccepts⟩

end HiddenMember

end Service

end Paygate
