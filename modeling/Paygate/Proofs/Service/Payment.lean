import Paygate.Proofs.Federation.Resolver
import Paygate.Proofs.Horizon.Client
import Paygate.Proofs.Ledger.Content
import Paygate.Proofs.Pipeline.Course
import Paygate.Proofs.Url.FormEncoding
import Paygate.Service.Gateway

/-!
# What a gateway sends for a request

Only a payment can post anything, and only at its very end: everything before is asking.

* `Gateway.handle_asks`: a request that is no payment only asks.
* `Gateway.course_cases`: a payment only asks, or it was assembled, built and submitted.
* `Posts`: the envelope that a request posts; `posts_submission_iff`: it is the one that was built.
-/

namespace Paygate.Service

open Http (Network)

/-- A request to pay, with the form that it brings. -/
def PaysWith (request : Request) (form : Form) : Prop :=
  dispatch request = .ok .payment ∧ readForm request.contentType request.body = .ok form

/-- The envelope that a request posts, read from its body. -/
def Posts (posted : Http.Request) (read : Wire.Envelope) : Prop :=
  posted.method = .post ∧ ∃ text bytes, Percent.readPairs posted.body.toList = [("tx", text)] ∧
    Base64.decode? text = some bytes ∧ Wire.Envelope.decode? bytes = some read

/-- The body of a submission holds the envelope that was built, and no other. -/
theorem posts_submission_iff {url : String} {built : Ledger.Envelope} {read : Wire.Envelope} :
    Posts ⟨.post, url, String.ofList (Percent.formPairs [("tx", built.text)])⟩ read ↔
      read = built.wire := by
  have hpairs : Percent.readPairs (String.ofList (Percent.formPairs [("tx", built.text)])).toList =
      [("tx", built.text)] := by
    rw [String.toList_ofList, Percent.readPairs_formPairs]
  have htext : Base64.decode? built.text = some built.xdr := Base64.decode?_encode _
  constructor
  · rintro ⟨-, text, bytes, hread, hbytes, henvelope⟩
    cases hpairs.symm.trans hread
    cases htext.symm.trans hbytes
    cases built.decode?_xdr.symm.trans henvelope
    rfl
  · rintro rfl
    exact ⟨rfl, built.text, built.xdr, hpairs, htext, built.decode?_xdr⟩

namespace Gateway

variable {gateway : Gateway} {request : Request} {form : Form} {network : Network}

/-! ## Requests -/

/-- A request that has a route is for its path, by its method. -/
theorem of_dispatch {route : Route} (h : dispatch request = .ok route) :
    Route.ofPath? request.path = some route ∧ request.method = route.method := by
  unfold dispatch at h
  split at h
  · rename_i hroute
    split at h <;> cases h
    exact ⟨hroute, by assumption⟩
  · split at h
    · split at h <;> cases h
    · cases h

theorem method_of_dispatch {route : Route} (h : dispatch request = .ok route) :
    request.method = route.method :=
  (of_dispatch h).2

theorem path_of_dispatch (h : dispatch request = .ok .payment) : String.ofList request.path = "/payment" := by
  have hpath := List.find?_some (of_dispatch h).1
  rw [← eq_of_beq hpath]
  rfl

/-- A request to pay runs a payment. -/
theorem handle_eq_pay (h : PaysWith request form) :
    gateway.handle request network = gateway.pay (String.ofList request.path) form network := by
  obtain ⟨hroute, hform⟩ := h
  have hmethod : request.method ≠ "HEAD" := by
    rw [method_of_dispatch hroute]
    decide
  rw [handle, if_neg hmethod, answer]
  simp only [hroute, hform]

theorem isHealthy_asks (client : Horizon.Client) (network : Network) :
    Network.Asks network (client.isHealthy network).2 := by
  have hasks := network.get_asks (client.address "/") []
  unfold Horizon.Client.isHealthy Network.get
  split <;> simp_all

theorem checkReadiness_asks (path : String) (network : Network) :
    Network.Asks network (gateway.checkReadiness path network).network := by
  unfold checkReadiness
  split
  · exact .refl network
  · rename_i client _
    have hasks := isHealthy_asks client network
    split <;> simp_all

/-- A request that is no payment asks at most whether the ledger is there. -/
theorem handle_network (h : ¬ ∃ form, PaysWith request form) :
    (gateway.handle request network).network = network ∨
      ∃ path, (gateway.handle request network).network = (gateway.checkReadiness path network).network := by
  have hanswer : (gateway.handle request network).network = (gateway.answer request network).network := by
    unfold handle
    dsimp only
    split <;> rfl
  rw [hanswer]
  unfold answer
  split
  · exact .inl rfl
  · exact .inl rfl
  · exact .inr ⟨_, rfl⟩
  · rename_i hroute
    split
    · exact .inl rfl
    · exact .inl rfl
    · rename_i form hform
      exact absurd ⟨form, hroute, hform⟩ h

/-- A request that is no payment only asks. -/
theorem handle_asks (h : ¬ ∃ form, PaysWith request form) :
    Network.Asks network (gateway.handle request network).network := by
  rcases handle_network h with hsame | ⟨path, hprobe⟩
  · rw [hsame]
    exact .refl network
  · rw [hprobe]
    exact checkReadiness_asks path network

/-! ## Payments -/

open Pipeline

theorem pay_reply (gateway : Gateway) (path : String) (form : Form) (network : Network) :
    (gateway.pay path form network).reply = (conclude path ((execute gateway.collaborators
      gateway.pipeline (.ofForm form)).run { world := network }).1).1 := rfl

theorem pay_network (gateway : Gateway) (path : String) (form : Form) (network : Network) :
    (gateway.pay path form network).network = ((execute gateway.collaborators gateway.pipeline
      (.ofForm form)).run { world := network }).2.world := rfl

theorem pay_logs (gateway : Gateway) (path : String) (form : Form) (network : Network) :
    (gateway.pay path form network).logs = receivedRecord (.ofForm form) ::
      ((execute gateway.collaborators gateway.pipeline (.ofForm form)).run { world := network }).2.logs ++
        (conclude path ((execute gateway.collaborators gateway.pipeline (.ofForm form)).run
          { world := network }).1).2 := rfl

theorem ledgerBuilder_ok {transaction : Transaction} {seed envelope : String}
    (h : (ledgerBuilder transaction seed network).value = .ok envelope) :
    ∃ built, Builder.envelope transaction seed = .ok built ∧ envelope = built.text := by
  rw [ledgerBuilder_value] at h
  cases hbuilt : Builder.envelope transaction seed with
  | error e =>
    rw [hbuilt] at h
    cases h
  | ok built =>
    rw [hbuilt] at h
    cases h
    exact ⟨built, rfl, rfl⟩

variable {payment : PaymentRequest} {config : Config} {w w' : Network} {calls : List Call}
  {seed source : String} {destination : Destination} {transaction : Transaction}

theorem composes_asks {account : String} {result : Except Failure (Option Operation)}
    (h : Composes gateway.collaborators payment account w result w' calls) : Network.Asks w w' := by
  cases h with
  | native | inconclusive => exact gateway.ledger.load_asks account w
  | _ => exact .refl w

theorem prepared_asks {operation : Option Operation} {memo : Memo}
    (h : Prepared gateway.collaborators payment w seed source destination operation memo w' calls) :
    Network.Asks w w' :=
  (Federation.resolver_asks gateway.scheme payment.destination w).trans (composes_asks h.composed)

/-- A payment only asks, or it was assembled, built and submitted. -/
theorem course_cases {result : Except Failure Json}
    (h : Course gateway.collaborators config payment w result w' calls) :
    Network.Asks w w' ∨ ∃ seed source destination transaction w₀ calls₀ built,
      Assembled gateway.collaborators config payment w seed source destination transaction w₀ calls₀ ∧
      Builder.envelope transaction seed = .ok built ∧
      w' = (gateway.ledger.submit built.text (gateway.ledger.load source w₀).world).world := by
  have hload := gateway.ledger.load_asks
  cases h with
  | source => exact .inl (.refl w)
  | destination => exact .inl (Federation.resolver_asks _ _ _)
  | operation _ _ composed =>
    exact .inl ((Federation.resolver_asks _ _ _).trans (composes_asks composed))
  | memo _ _ composed =>
    exact .inl ((Federation.resolver_asks _ _ _).trans (composes_asks composed))
  | load prepared => exact .inl ((prepared_asks prepared).trans (hload _ _))
  | assembly prepared => exact .inl ((prepared_asks prepared).trans (hload _ _))
  | building whole =>
    obtain ⟨prepared, -, -⟩ := whole
    refine .inl ((prepared_asks prepared).trans ?_)
    show Network.Asks _ (ledgerBuilder _ _ _).world
    rw [ledgerBuilder_world]
    exact hload _ _
  | submission whole built submitted =>
    cases built with
    | built answer =>
      obtain ⟨built, hbuilt, rfl⟩ := ledgerBuilder_ok answer
      refine .inr ⟨_, _, _, _, _, _, built, whole, hbuilt, ?_⟩
      show (gateway.ledger.submit built.text (ledgerBuilder _ _ _).world).world = _
      rw [ledgerBuilder_world]
      rfl

end Gateway

end Paygate.Service
