import Paygate.Proofs.Bytes.Base32
import Paygate.Proofs.Payment.Reading
import Paygate.Proofs.Service.Form

/-!
# Accounts are created only on confirmed absence

A gateway posts an envelope that creates an account only after the ledger answered the lookup of that
account with status 404. A lookup that is neither this nor a usable account ends the payment.

* `ConfirmedAbsent`: what stands behind an envelope that creates an account.
* `LooksUp`: a payment in the native asset has come to the lookup of its destination.
* `Gateway.creates_only_if_absent`: for all requests, rules and addresses of the ledger.
-/

namespace Paygate.Service

open Http (Network)

/-- The request `posted` is the last of those sent for a native payment. Before it the account with
this key was asked for, and the answer had status 404. -/
structure ConfirmedAbsent (gateway : Gateway) (rules : List Http.Rule) (request : Request)
    (sent : List Http.Request) (posted : Http.Request) (key : Bytes) : Prop where
  form : ∃ form, PaysWith request form ∧ form.value "type" = "payment" ∧
    form.value "asset_code" = "" ∧ form.value "asset_issuer" = ""
  url : ∃ url, Http.target (gateway.ledger.address "/transactions") [] = .ok url ∧
    posted.url = url.toText
  absent : ∃ earlier url received, sent = earlier ++ [posted] ∧
    Http.target (gateway.ledger.address ("/accounts/" ++ StrKey.encode .account key)) [] = .ok url ∧
    (⟨.get, url.toText, ""⟩, .response received) ∈ Http.exchanges rules earlier ∧
    received.status = 404

/-- A request for a payment in the native asset has come to the lookup of this account, and the network
stands at `before`. -/
structure LooksUp (gateway : Gateway) (rules : List Http.Rule) (request : Request) (form : Form)
    (account : String) (before : Network) : Prop where
  pays : PaysWith request form
  type : form.value "type" = "payment"
  code : form.value "asset_code" = ""
  issuer : form.value "asset_issuer" = ""
  signer : ∃ signed, PaymentRequest.signer (form.value "source") = .ok signed
  resolved : ∃ record,
    (Federation.resolver gateway.scheme (form.value "destination") { rules }).value = .ok record ∧
      record.account = account
  valid : StrKey.isValid .account account = true
  network : (Federation.resolver gateway.scheme (form.value "destination") { rules }).world = before

/-- The outcome of a lookup that is neither an absence nor a usable account. -/
def Inconclusive (result : Except Http.Error Http.Response) : Prop :=
  ¬ ∃ response, result = .ok response ∧ (response.status = 404 ∨ response.IsAccount)

namespace Gateway

open Pipeline

variable {gateway : Gateway} {rules : List Http.Rule} {request : Request} {form : Form}

/-! ## Envelopes that create accounts -/

theorem performs_createAccount {operation : Operation} {key : Bytes} {balance : Int}
    (h : Wire.Body.Performs operation (.createAccount key balance)) :
    ∃ startingBalance, operation = .createAccount (StrKey.encode .account key) startingBalance := by
  cases h with
  | createAccount decoded _ => exact ⟨_, by rw [StrKey.encode_of_decode? decoded]⟩

/-- An account is created only after its lookup in a payment in the native asset. -/
theorem composes_createAccount {payment : PaymentRequest} {account destination : String}
    {startingBalance : Field} {w w' : Network} {calls : List Call}
    (h : Composes gateway.collaborators payment account w
      (.ok (some (.createAccount destination startingBalance))) w' calls) :
    payment.paymentType = "payment" ∧ payment.assetCode = "" ∧ payment.assetIssuer = "" ∧
      destination = account ∧ w' = (gateway.ledger.load account w).world ∧
      ∃ id, (gateway.ledger.load account w).value = .error (.error (.accountNotFound id)) := by
  generalize hresult : (Except.ok (some (.createAccount destination startingBalance)) :
    Except Failure (Option Operation)) = result at h
  cases h with
  | invalidType | nothing | invalidPath | invalidAsset | issued | inconclusive => cases hresult
  | path type path =>
    cases hresult
    obtain ⟨_, _, _, -, -, -, hpath⟩ := PaymentRequest.pathPayment_eq_ok_iff.mp path
    cases hpath
  | native type asset lookup =>
    obtain ⟨hcode, hissuer⟩ := PaymentRequest.asset_eq_native_iff.mp asset
    have htype := PaymentType.parse_eq_ok_iff.mp type
    cases lookup with
    | present => cases hresult
    | absent answer =>
      cases hresult
      exact ⟨htype, hcode, hissuer, rfl, rfl, _, answer⟩

/-- A request that is posted is the last one, and posts the envelope that is submitted. -/
theorem posted_of_submission {envelope : String} {w : Network} {posted : Http.Request}
    (hasks : Network.Asks { rules } w)
    (hmem : posted ∈ (gateway.ledger.submit envelope w).world.sent) (hpost : posted.method = .post) :
    ∃ url, Http.target (gateway.ledger.address "/transactions") [] = .ok url ∧
      posted = ⟨.post, url.toText, String.ofList (Percent.formPairs [("tx", envelope)])⟩ ∧
      (gateway.ledger.submit envelope w).world.sent = w.sent ++ [posted] := by
  have hearlier : posted ∉ w.sent := by
    intro hmem
    exact hasks.method_ne_post hmem hpost
  rcases Horizon.Client.submit_sends with hsends | ⟨url, hurl, hsends⟩
  · rw [hsends.sent, List.append_nil] at hmem
    exact absurd hmem hearlier
  · have hsent := hsends.sent
    rw [hsent, List.mem_append, List.mem_singleton] at hmem
    obtain rfl := hmem.resolve_left hearlier
    exact ⟨url, hurl, rfl, hsent⟩

section Payments

variable {config : Config} {seed source : String} {destination : Destination}
  {transaction : Transaction} {w₀ : Network} {calls₀ : List Call} {built : Ledger.Envelope}
  {posted : Http.Request} {read : Wire.Envelope}

/-- What stands behind an envelope that was submitted and creates an account. -/
theorem confirmedAbsent_of_submission {key : Bytes} {balance : Int} (hpays : PaysWith request form)
    (whole : Assembled gateway.collaborators config (.ofForm form) { rules } seed source destination
      transaction w₀ calls₀)
    (hbuilt : Builder.envelope transaction seed = .ok built)
    (hmem : posted ∈ (gateway.ledger.submit built.text (gateway.ledger.load source w₀).world).world.sent)
    (hposts : Posts posted read)
    (hcreates : ∃ operation ∈ read.transaction.operations,
      operation.body = .createAccount key balance) :
    ConfirmedAbsent gateway rules request
      (gateway.ledger.submit built.text (gateway.ledger.load source w₀).world).world.sent posted
      key := by
  obtain ⟨prepared, loaded, assembled⟩ := whole
  obtain ⟨next, operation, -, rfl, rfl⟩ := Transaction.assemble_eq_ok assembled
  have hasks := (prepared_asks prepared).trans (gateway.ledger.load_asks source w₀)
  obtain ⟨url, hurl, hposted, hsent⟩ := posted_of_submission hasks hmem hposts.1
  obtain rfl := posts_submission_iff.mp (hposted ▸ hposts)
  obtain ⟨body, hoperations, hperforms⟩ := (Builder.wire_carries hbuilt).transaction.operation
  obtain ⟨operation', hmem', hbody⟩ := hcreates
  rw [hoperations, List.mem_singleton] at hmem'
  subst hmem'
  subst hbody
  -- the operation that was read is the one that was composed, so its account was looked up
  obtain ⟨startingBalance, hoperation⟩ := performs_createAccount hperforms
  have hcomposed := prepared.composed
  rw [show operation = _ from hoperation] at hcomposed
  obtain ⟨htype, hcode, hissuer, haccount, rfl, id, habsent⟩ := composes_createAccount hcomposed
  obtain ⟨url', received, hurl', hget, hexchange, hstatus⟩ := Horizon.Client.load_absent habsent
  rw [← haccount] at hurl'
  obtain ⟨before, hbefore, -⟩ := Federation.resolver_asks gateway.scheme
    (PaymentRequest.ofForm form).destination { rules }
  obtain ⟨after, hafter, -⟩ := gateway.ledger.load_asks source (gateway.ledger.load destination.account
    (Federation.resolver gateway.scheme (PaymentRequest.ofForm form).destination { rules }).world).world
  have hearlier := ((hbefore.trans hget).trans hafter).sent
  rw [List.nil_append] at hearlier
  exact {
    form := ⟨form, hpays, htype, hcode, hissuer⟩
    url := ⟨url, hurl, congrArg Http.Request.url hposted⟩
    absent := ⟨_, url', received, hsent, hurl', hearlier ▸ hbefore.mem_exchanges hexchange, hstatus⟩ }

end Payments

/-! ## Lookups -/

section Lookups

variable {account : String} {before : Network}

theorem resolves_of_looksUp (h : LooksUp gateway rules request form account before) :
    ∃ destination, destination.account = account ∧ Resolves gateway.collaborators
      (PaymentRequest.ofForm form).destination { rules } (.ok destination) := by
  obtain ⟨record, hrecord, hnamed⟩ := h.resolved
  obtain ⟨destination, hmake⟩ := Federation.make_of_resolver hrecord account
  have hkey : StrKey.key? .account record.account = some account :=
    StrKey.key?_eq_some_iff.mpr ⟨hnamed, h.valid⟩
  exact ⟨destination, Destination.make_account hmake, .found hrecord hkey hmake⟩

theorem native_of_looksUp (h : LooksUp gateway rules request form account before) :
    PaymentType.parse (PaymentRequest.ofForm form).paymentType = .ok .payment ∧
      (PaymentRequest.ofForm form).asset = .ok .native :=
  ⟨PaymentType.parse_eq_ok_iff.mpr h.type,
    PaymentRequest.asset_eq_native_iff.mpr ⟨h.code, h.issuer⟩⟩

/-- A lookup that is neither an absence nor a usable account ends the composition. -/
theorem composes_of_inconclusive (h : LooksUp gateway rules request form account before)
    (hlookup : Inconclusive (gateway.ledger.lookup account before).1) :
    ∃ e, (e = .payment .serverError ∨ ∃ f, e = .fault f) ∧
      Composes gateway.collaborators (.ofForm form) account before (.error e)
        (gateway.ledger.lookup account before).2 [.load account] := by
  obtain ⟨htype, hasset⟩ := native_of_looksUp h
  rw [← Horizon.Client.load_world]
  cases hvalue : (gateway.ledger.load account before).value with
  | ok record =>
    obtain ⟨response, hresponse, haccount⟩ := Horizon.Client.load_ok_iff.mp ⟨record, hvalue⟩
    exact absurd ⟨response, hresponse, .inr haccount⟩ hlookup
  | error failure =>
    cases failure with
    | fault f => exact ⟨_, .inr ⟨f, rfl⟩, .inconclusive htype hasset (.fault hvalue)⟩
    | error e =>
      cases e with
      | failed message status =>
        exact ⟨_, .inl rfl, .inconclusive htype hasset (.failed hvalue)⟩
      | accountNotFound id =>
        obtain ⟨response, hresponse, hstatus⟩ := Horizon.Client.load_absent_iff.mp ⟨id, hvalue⟩
        exact absurd ⟨response, hresponse, .inl hstatus⟩ hlookup

/-- A usable account is paid. -/
theorem composes_of_usable (h : LooksUp gateway rules request form account before)
    (hlookup : ∃ response, (gateway.ledger.lookup account before).1 = .ok response ∧
      response.IsAccount) :
    Composes gateway.collaborators (.ofForm form) account before
      (.ok (some (.payment account .native (form.value "amount"))))
      (gateway.ledger.load account before).world [.load account] := by
  obtain ⟨record, hrecord⟩ := Horizon.Client.load_ok_iff.mpr hlookup
  obtain ⟨htype, hasset⟩ := native_of_looksUp h
  exact .native htype hasset (.present hrecord)

/-- A lookup without an answer that counts is the last request, and the payment ends with
`serverError`. -/
theorem handle_of_inconclusive (h : LooksUp gateway rules request form account before)
    (hlookup : Inconclusive (gateway.ledger.lookup account before).1) :
    (gateway.handle request { rules }).reply = errorReply .serverError ∧
      (gateway.handle request { rules }).network = (gateway.ledger.lookup account before).2 := by
  obtain ⟨destination, rfl, hresolves⟩ := resolves_of_looksUp h
  obtain ⟨e, he, hcomposes⟩ := composes_of_inconclusive h hlookup
  obtain ⟨signed, hsigned⟩ := h.signer
  obtain rfl := h.network
  have hcourse := execute_course gateway.collaborators gateway.pipeline (.ofForm form) { rules }
  obtain ⟨hresult, hworld⟩ := hcourse.error_of_composes hsigned hresolves hcomposes
  rw [handle_eq_pay h.pays, pay_reply, pay_network, hresult, hworld]
  rcases he with rfl | ⟨f, rfl⟩
  · exact ⟨rfl, rfl⟩
  · exact ⟨rfl, rfl⟩

theorem performs_payment {destination : String} {asset : Asset} {amount : Field} {body : Wire.Body}
    (h : Wire.Body.Performs (.payment destination asset amount) body) :
    ∃ account asset amount, body = .payment account asset amount := by
  cases h with
  | payment => exact ⟨_, _, _, rfl⟩

/-- An absent account is created. -/
theorem composes_of_absent (h : LooksUp gateway rules request form account before)
    (hlookup : ∃ response, (gateway.ledger.lookup account before).1 = .ok response ∧
      response.status = 404) :
    Composes gateway.collaborators (.ofForm form) account before
      (.ok (some (.createAccount account (form.value "amount"))))
      (gateway.ledger.load account before).world [.load account] := by
  obtain ⟨id, habsent⟩ := Horizon.Client.load_absent_iff.mpr hlookup
  obtain ⟨htype, hasset⟩ := native_of_looksUp h
  exact .native htype hasset (.absent habsent)

/-- What is posted after the lookup carries the operation that was composed. -/
theorem posts_composed {operation : Operation} {w : Network} {calls : List Call}
    (h : LooksUp gateway rules request form account before)
    (hcomposes : Composes gateway.collaborators (.ofForm form) account before (.ok (some operation)) w
      calls)
    {posted : Http.Request} (hmem : posted ∈ (gateway.handle request { rules }).network.sent)
    (hpost : posted.method = .post) :
    (∃ read, Posts posted read) ∧ ∀ read, Posts posted read →
      ∃ body, read.transaction.operations = [⟨none, body⟩] ∧ Wire.Body.Performs operation body := by
  obtain ⟨destination, rfl, hresolves⟩ := resolves_of_looksUp h
  obtain rfl := h.network
  rw [handle_eq_pay h.pays, pay_network] at hmem
  rcases course_cases (execute_course gateway.collaborators gateway.pipeline (.ofForm form)
    { rules }) with hasks | ⟨seed, source, _, transaction, w₀, calls₀, built, whole, hbuilt, hworld⟩
  · exact absurd hpost (hasks.method_ne_post hmem)
  · rw [hworld] at hmem
    have hoperation := whole.operation_eq hresolves hcomposes
    obtain ⟨prepared, -, -⟩ := whole
    have hasks := (prepared_asks prepared).trans (gateway.ledger.load_asks source w₀)
    obtain ⟨url, -, rfl, -⟩ := posted_of_submission hasks hmem hpost
    obtain ⟨body, hoperations, hperforms⟩ := (Builder.wire_carries hbuilt).transaction.operation
    refine ⟨⟨_, posts_submission_iff.mpr rfl⟩, ?_⟩
    intro read hposts
    obtain rfl := posts_submission_iff.mp hposts
    exact ⟨body, hoperations, hoperation ▸ hperforms⟩

/-- What is posted after the lookup of a usable account is a payment. -/
theorem posts_payment_of_usable (h : LooksUp gateway rules request form account before)
    (hlookup : ∃ response, (gateway.ledger.lookup account before).1 = .ok response ∧
      response.IsAccount) {posted : Http.Request} {read : Wire.Envelope}
    (hmem : posted ∈ (gateway.handle request { rules }).network.sent) (hposts : Posts posted read) :
    ∃ destination asset amount,
      read.transaction.operations = [⟨none, .payment destination asset amount⟩] := by
  obtain ⟨body, hoperations, hperforms⟩ :=
    (posts_composed h (composes_of_usable h hlookup) hmem hposts.1).2 read hposts
  obtain ⟨account, asset, amount, rfl⟩ := performs_payment hperforms
  exact ⟨account, asset, amount, hoperations⟩

/-- What is posted after the lookup of an absent account creates an account. -/
theorem posts_createAccount_of_absent (h : LooksUp gateway rules request form account before)
    (hlookup : ∃ response, (gateway.ledger.lookup account before).1 = .ok response ∧
      response.status = 404) {posted : Http.Request}
    (hmem : posted ∈ (gateway.handle request { rules }).network.sent)
    (hpost : posted.method = .post) :
    ∃ read key balance, Posts posted read ∧
      ∃ operation ∈ read.transaction.operations, operation.body = .createAccount key balance := by
  obtain ⟨⟨read, hposts⟩, hcarries⟩ := posts_composed h (composes_of_absent h hlookup) hmem hpost
  obtain ⟨body, hoperations, hperforms⟩ := hcarries read hposts
  cases hperforms with
  | createAccount => exact ⟨read, _, _, hposts, _, hoperations ▸ List.mem_singleton_self _, rfl⟩

end Lookups

/-- Whatever is asked of a gateway: it posts an envelope that creates an account only after the ledger
confirmed that the account is absent; a lookup that is neither an absence nor a usable account is the
last request and is answered with `serverError`; and after a usable account only a payment is posted. -/
theorem creates_only_if_absent (gateway : Gateway) (rules : List Http.Rule) (request : Request) :
    (∀ posted ∈ (gateway.handle request { rules }).network.sent, ∀ read key balance,
      Posts posted read →
      (∃ operation ∈ read.transaction.operations, operation.body = .createAccount key balance) →
      ConfirmedAbsent gateway rules request (gateway.handle request { rules }).network.sent posted
        key) ∧
    ∀ form account before, LooksUp gateway rules request form account before →
      (Inconclusive (gateway.ledger.lookup account before).1 →
        (gateway.handle request { rules }).reply = errorReply .serverError ∧
        (errorReply .serverError).status = 500 ∧
        (gateway.handle request { rules }).network = (gateway.ledger.lookup account before).2 ∧
        ∀ sent ∈ (gateway.handle request { rules }).network.sent, sent.method = .get) ∧
      ((∃ response, (gateway.ledger.lookup account before).1 = .ok response ∧ response.IsAccount) →
        ∀ posted ∈ (gateway.handle request { rules }).network.sent, ∀ read, Posts posted read →
          ∃ destination asset amount,
            read.transaction.operations = [⟨none, .payment destination asset amount⟩]) := by
  constructor
  · intro posted hmem read key balance hposts hcreates
    by_cases hpays : ∃ form, PaysWith request form
    · obtain ⟨form, hpays⟩ := hpays
      rw [handle_eq_pay hpays, pay_network] at hmem ⊢
      rcases course_cases (execute_course gateway.collaborators gateway.pipeline (.ofForm form)
        { rules }) with hasks | ⟨seed, source, _, transaction, w₀, calls₀, built, whole, hbuilt, hworld⟩
      · exact absurd hposts.1 (hasks.method_ne_post hmem)
      · rw [hworld] at hmem ⊢
        exact confirmedAbsent_of_submission hpays whole hbuilt hmem hposts hcreates
    · exact absurd hposts.1 ((handle_asks hpays).method_ne_post hmem)
  · intro form account before h
    constructor
    · intro hlookup
      obtain ⟨hreply, hnetwork⟩ := handle_of_inconclusive h hlookup
      refine ⟨hreply, rfl, hnetwork, ?_⟩
      obtain rfl := h.network
      have hasks := (Federation.resolver_asks gateway.scheme (form.value "destination")
        { rules }).trans (gateway.ledger.load_asks account _)
      rw [Horizon.Client.load_world, ← hnetwork] at hasks
      exact hasks.method_eq
    · intro hlookup posted hmem read hposts
      exact posts_payment_of_usable h hlookup hmem hposts

end Gateway

/-! ## A payment to an absent account -/

namespace NewAccount

open Sample (gateway source destination)

/-- The ledger knows the account that pays, and no other. -/
def rules : List Http.Rule := [
  { method := "GET"
    url := some ("https://ledger.example/accounts/" ++ source)
    outcome := .response { status := 200, body := Bytes.ofString "\x7b\"sequence\":\"7\"\x7d" } },
  { method := "POST", url := none
    outcome := .response { status := 200, body := Bytes.ofString "\x7b\x7d" } }]

def request : Request := Sample.request "2"

theorem looksUp : LooksUp gateway rules request (Sample.form "2") destination { rules } where
  pays := Sample.pays "2"
  type := rfl
  code := rfl
  issuer := rfl
  signer := ⟨_, Sample.signer_seed⟩
  resolved := ⟨{ account := destination }, by decide +kernel, rfl⟩
  valid := Sample.isValid_destination
  network := by decide +kernel

theorem absent : ∃ response, (gateway.ledger.lookup destination { rules }).1 = .ok response ∧
    response.status = 404 :=
  ⟨{ status := 404, body := [] }, by decide +kernel, rfl⟩

theorem submits : ∃ posted ∈ (gateway.handle request { rules }).network.sent, posted.method = .post := by
  rw [request, Gateway.handle_eq_pay (Sample.pays "2")]
  decide +kernel

theorem created_on_absence : ∃ posted ∈ (gateway.handle request { rules }).network.sent,
    ∃ read key balance, Posts posted read ∧
      (∃ operation ∈ read.transaction.operations, operation.body = .createAccount key balance) ∧
      ConfirmedAbsent gateway rules request (gateway.handle request { rules }).network.sent posted
        key := by
  obtain ⟨posted, hmem, hpost⟩ := submits
  obtain ⟨read, key, balance, hposts, hcreates⟩ :=
    Gateway.posts_createAccount_of_absent looksUp absent hmem hpost
  exact ⟨posted, hmem, read, key, balance, hposts, hcreates,
    (Gateway.creates_only_if_absent _ _ _).1 posted hmem read key balance hposts hcreates⟩

end NewAccount

end Paygate.Service
