import Paygate.Http.Network

/-!
# What was asked and what was answered

The rules of a network decide the outcome of every request that is sent, one after the other
(`exchanges`). `Network.Sends` follows a network from one state to a later one by the requests that
it sent in between.

* `Network.send_cases`: sending comes to nothing, or to one request and its outcome.
* `Network.Sends.trans`, `Network.Asks.trans`: stretches of requests follow each other.
* `exchanges_append`: the outcomes of a stretch do not depend on what is sent after it.
-/

namespace Paygate.Http

/-- The rules that are left after some requests. -/
def rulesAfter : List Rule → List Request → List Rule
  | rules, [] => rules
  | rules, request :: rest => rulesAfter (answer request rules).2 rest

/-- Requests that are sent one after the other, each with its outcome. -/
def exchanges : List Rule → List Request → List (Request × Outcome)
  | _, [] => []
  | rules, request :: rest =>
    (request, (answer request rules).1) :: exchanges (answer request rules).2 rest

theorem rulesAfter_append (rules : List Rule) (xs ys : List Request) :
    rulesAfter rules (xs ++ ys) = rulesAfter (rulesAfter rules xs) ys := by
  induction xs generalizing rules with
  | nil => rfl
  | cons x xs ih => exact ih _

theorem exchanges_append (rules : List Rule) (xs ys : List Request) :
    exchanges rules (xs ++ ys) = exchanges rules xs ++ exchanges (rulesAfter rules xs) ys := by
  induction xs generalizing rules with
  | nil => rfl
  | cons x xs ih =>
    rw [List.cons_append, exchanges, exchanges, ih]
    rfl

/-- Between two states a network has sent these requests. -/
structure Network.Sends (before : Network) (requests : List Request) (after : Network) : Prop where
  sent : after.sent = before.sent ++ requests
  rules : after.rules = rulesAfter before.rules requests

namespace Network

variable {before middle after : Network} {xs ys : List Request}

theorem Sends.refl (network : Network) : Sends network [] network := ⟨by simp, rfl⟩

theorem Sends.trans (h : Sends before xs middle) (h' : Sends middle ys after) :
    Sends before (xs ++ ys) after where
  sent := by rw [h'.sent, h.sent, List.append_assoc]
  rules := by rw [h'.rules, h.rules, rulesAfter_append]

/-- What was exchanged in a stretch was exchanged in the whole. -/
theorem Sends.mem_exchanges {rules : List Rule} {zs : List Request} {exchange : Request × Outcome}
    (h : Sends { rules } xs before) (hexchange : exchange ∈ exchanges before.rules ys) :
    exchange ∈ exchanges rules (xs ++ ys ++ zs) := by
  rw [exchanges_append, exchanges_append, List.mem_append, List.mem_append, ← h.rules]
  exact .inl (.inr hexchange)

/-- Between two states a network has sent requests that change nothing at a server. -/
def Asks (before after : Network) : Prop :=
  ∃ requests, Sends before requests after ∧ ∀ request ∈ requests, request.method = .get

theorem Asks.refl (network : Network) : Asks network network := ⟨[], .refl network, by simp⟩

theorem Asks.trans (h : Asks before middle) (h' : Asks middle after) : Asks before after := by
  obtain ⟨xs, hxs, hgets⟩ := h
  obtain ⟨ys, hys, hgets'⟩ := h'
  refine ⟨xs ++ ys, hxs.trans hys, ?_⟩
  intro request hrequest
  exact (List.mem_append.mp hrequest).elim (hgets request) (hgets' request)

theorem Asks.method_eq {rules : List Rule} (h : Asks { rules } after) :
    ∀ request ∈ after.sent, request.method = .get := by
  obtain ⟨requests, hsends, hgets⟩ := h
  rw [hsends.sent, List.nil_append]
  exact hgets

/-- A network that has only asked has posted nothing. -/
theorem Asks.method_ne_post {rules : List Rule} (h : Asks { rules } after) {request : Request}
    (hmem : request ∈ after.sent) : request.method ≠ .post := by
  rw [h.method_eq request hmem]
  nofun

/-- What the outcome of a request for a URL comes to. -/
def resultOf (url : Url) : Outcome → Except Error Response
  | .response response => response.decoded.bind (·.followed url)
  | .failure timedOut reason => .error (.failed timedOut reason)

/-- Sending comes to nothing, or to one request and its outcome. -/
theorem send_cases (method : Method) (address : Str) (parameters : List (String × Str))
    (form : List (String × String)) (network : Network) :
    ((∃ e, (network.send method address parameters form).1 = .error e) ∧
      (network.send method address parameters form).2 = network) ∨
    ∃ url, target address parameters = .ok url ∧
      let request : Request :=
        { method, url := url.toText, body := String.ofList (Percent.formPairs form) }
      Sends network [request] (network.send method address parameters form).2 ∧
        (network.send method address parameters form).1 =
          resultOf url (answer request network.rules).1 := by
  unfold send
  cases htarget : target address parameters with
  | error cause => exact .inl ⟨⟨_, rfl⟩, rfl⟩
  | ok url =>
    cases hrefusal : refusal? url with
    | some reason => exact .inl (by simp [hrefusal])
    | none =>
      simp only [hrefusal]
      refine .inr ⟨url, rfl, ⟨rfl, rfl⟩, ?_⟩
      cases houtcome : (answer ⟨method, url.toText, String.ofList (Percent.formPairs form)⟩
          network.rules).1 with
      | response response => simp only [exchange, resultOf, houtcome]
      | failure timedOut reason => simp only [exchange, resultOf, houtcome]

theorem get_asks (address : Str) (parameters : List (String × Str)) (network : Network) :
    Asks network (network.send .get address parameters []).2 := by
  rcases network.send_cases .get address parameters [] with ⟨-, hsame⟩ | ⟨url, -, hsends, -⟩
  · rw [hsame]
    exact .refl network
  · exact ⟨_, hsends, by simp⟩

end Network

theorem Response.status_of_decoded {response decoded : Response} (h : response.decoded = .ok decoded) :
    decoded.status = response.status := by
  unfold Response.decoded at h
  split at h
  · cases h
  · split at h <;> cases h
    rfl

theorem Response.eq_of_followed {response followed : Response} {sent : Url}
    (h : response.followed sent = .ok followed) : followed = response := by
  unfold Response.followed at h
  split at h
  · cases h
    rfl
  · split at h
    · split at h
      · cases h
      · generalize (Redirect.check sent _).mapError Error.fault = checked at h
        cases checked <;> cases h
        rfl
    · cases h
      rfl

/-- A response keeps its status on its way. -/
theorem status_of_resultOf {url : Url} {outcome : Outcome} {response : Response}
    (h : Network.resultOf url outcome = .ok response) :
    ∃ received, outcome = .response received ∧ received.status = response.status := by
  unfold Network.resultOf at h
  split at h
  · rename_i received
    refine ⟨received, rfl, ?_⟩
    cases hdecoded : received.decoded with
    | error e =>
      rw [hdecoded] at h
      cases h
    | ok decoded =>
      rw [hdecoded] at h
      rw [Response.eq_of_followed h, Response.status_of_decoded hdecoded]
  · cases h

end Paygate.Http
