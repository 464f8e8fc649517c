import Paygate.Proofs.Pipeline.Keys
import Paygate.Proofs.Service.Payment

/-!
# What a gateway asks of its ledger

Whatever a form and a federation server say, the requests that a gateway sends to its ledger are of
three kinds, and the only keys in their addresses are account keys.

* `AskedOfLedger`: an account by its key, a submission, or whether the server is there.
* `Gateway.handle_asksLedger`: a request is answered by asking the resolver's servers and the ledger.
* `Gateway.passes_only_keys`: the calls of the pipeline and the requests of a gateway together.
-/

namespace Paygate.Service

open Http (Network)
open StrKey (AccountKey)

/-- A request that a gateway makes of its ledger. The address of an account is that of the ledger,
followed by `/accounts/` and an account key. -/
inductive AskedOfLedger (gateway : Gateway) : Http.Request → Prop
  | account {key : String} {url : Url} (valid : AccountKey key)
      (target : Http.target (gateway.ledger.address ("/accounts/" ++ key)) [] = .ok url) :
      AskedOfLedger gateway ⟨.get, url.toText, ""⟩
  | submission {url : Url} {body : String}
      (target : Http.target (gateway.ledger.address "/transactions") [] = .ok url) :
      AskedOfLedger gateway ⟨.post, url.toText, body⟩
  | probe {client : Horizon.Client} {url : Url} (probe : gateway.probe = some client)
      (target : Http.target (client.address "/") [] = .ok url) :
      AskedOfLedger gateway ⟨.get, url.toText, ""⟩

namespace Gateway

/-- Between two states a gateway has asked its ledger only. -/
def AsksLedger (gateway : Gateway) (before after : Network) : Prop :=
  ∃ asked, Network.Sends before asked after ∧ ∀ request ∈ asked, AskedOfLedger gateway request

/-- The servers were asked for an address if at all, and after that the ledger. -/
def AsksFor (gateway : Gateway) (address : Field) (before after : Network) : Prop :=
  gateway.AsksLedger before after ∨
    gateway.AsksLedger (Federation.resolver gateway.scheme address before).world after

variable {gateway : Gateway} {request : Request} {form : Form} {before middle after : Network}

theorem AsksLedger.refl (gateway : Gateway) (network : Network) : gateway.AsksLedger network network :=
  ⟨[], .refl network, List.forall_mem_nil _⟩

theorem AsksLedger.trans (h : gateway.AsksLedger before middle) (h' : gateway.AsksLedger middle after) :
    gateway.AsksLedger before after := by
  obtain ⟨xs, hxs, hasked⟩ := h
  obtain ⟨ys, hys, hasked'⟩ := h'
  exact ⟨xs ++ ys, hxs.trans hys, List.forall_mem_append.mpr ⟨hasked, hasked'⟩⟩

/-! ## Single requests -/

/-- What is sent to one address is asked of the ledger. -/
theorem asksLedger_send {method : Http.Method} {address : String} {form : List (String × String)}
    (h : ∀ url, Http.target address [] = .ok url →
      AskedOfLedger gateway ⟨method, url.toText, String.ofList (Percent.formPairs form)⟩)
    (network : Network) : gateway.AsksLedger network (network.send method address [] form).2 := by
  rcases network.send_cases method address [] form with ⟨-, hsame⟩ | ⟨url, hurl, hsends, -⟩
  · rw [hsame]
    exact .refl gateway network
  · exact ⟨_, hsends, List.forall_mem_singleton.mpr (h url hurl)⟩

theorem load_asksLedger {key : String} (valid : AccountKey key) (network : Network) :
    gateway.AsksLedger network (gateway.ledger.load key network).world := by
  rw [Horizon.Client.load_world]
  exact asksLedger_send (fun url hurl => .account valid hurl) network

theorem submit_asksLedger (envelope : String) (network : Network) :
    gateway.AsksLedger network (gateway.ledger.submit envelope network).world := by
  rw [Horizon.Client.submit_world]
  exact asksLedger_send (fun url hurl => .submission hurl) network

theorem checkReadiness_asksLedger (path : String) (network : Network) :
    gateway.AsksLedger network (gateway.checkReadiness path network).network := by
  unfold checkReadiness
  split
  · exact .refl gateway network
  · rename_i client hprobe
    have hasks : gateway.AsksLedger network (network.get (client.address "/") []).2 :=
      asksLedger_send (fun url hurl => .probe hprobe hurl) network
    have hworld : (client.isHealthy network).2 = (network.get (client.address "/") []).2 := by
      unfold Horizon.Client.isHealthy
      split <;> simp_all
    rw [← hworld] at hasks
    split <;> simp_all

/-! ## Payments -/

open Pipeline

section

variable {payment : PaymentRequest} {config : Config} {w w' : Network} {calls : List Call}

theorem composes_asksLedger {account : String} {result : Except Failure (Option Operation)}
    (key : AccountKey account)
    (h : Composes gateway.collaborators payment account w result w' calls) :
    gateway.AsksLedger w w' := by
  cases h with
  | native | inconclusive => exact load_asksLedger key w
  | _ => exact .refl gateway w

/-- After its destination is known, a payment that is prepared has asked for the two accounts at most. -/
theorem prepared_asksLedger {seed source : String} {destination : Destination}
    {operation : Option Operation} {memo : Memo}
    (h : Prepared gateway.collaborators payment w seed source destination operation memo w' calls) :
    gateway.AsksLedger (Federation.resolver gateway.scheme payment.destination w).world
      (gateway.ledger.load source w').world := by
  have hcomposed := composes_asksLedger h.resolved.key h.composed
  exact hcomposed.trans (load_asksLedger h.source_key w')

/-- A payment asks for its destination and then the ledger, for account keys only. -/
theorem course_asksFor {result : Except Failure Json}
    (h : Course gateway.collaborators config payment w result w' calls) :
    gateway.AsksFor payment.destination w w' := by
  cases h with
  | source => exact .inl (.refl gateway w)
  | destination => exact .inr (.refl gateway _)
  | operation _ resolved composed | memo _ resolved composed =>
    exact .inr (composes_asksLedger resolved.key composed)
  | load prepared | assembly prepared => exact .inr (prepared_asksLedger prepared)
  | building whole =>
    obtain ⟨prepared, -, -⟩ := whole
    refine .inr ?_
    show gateway.AsksLedger _ (ledgerBuilder _ _ _).world
    rw [ledgerBuilder_world]
    exact prepared_asksLedger prepared
  | submission whole =>
    obtain ⟨prepared, -, -⟩ := whole
    refine .inr ?_
    show gateway.AsksLedger _ (gateway.ledger.submit _ (ledgerBuilder _ _ _).world).world
    rw [ledgerBuilder_world]
    exact (prepared_asksLedger prepared).trans (submit_asksLedger _ _)

end

/-! ## Requests -/

theorem pay_asksFor (gateway : Gateway) (path : String) (form : Form) (network : Network) :
    gateway.AsksFor (form.value "destination") network (gateway.pay path form network).network := by
  rw [pay_network]
  exact course_asksFor (execute_course gateway.collaborators gateway.pipeline (.ofForm form) network)

/-- A request is answered by asking the ledger only, or, if it is a payment, by asking for its
destination first. -/
theorem handle_asksLedger (gateway : Gateway) (request : Request) (network : Network) :
    gateway.AsksLedger network (gateway.handle request network).network ∨
      ∃ form, PaysWith request form ∧ gateway.AsksLedger
        (Federation.resolver gateway.scheme (form.value "destination") network).world
        (gateway.handle request network).network := by
  by_cases hpays : ∃ form, PaysWith request form
  · obtain ⟨form, hpays⟩ := hpays
    rw [handle_eq_pay hpays]
    rcases pay_asksFor gateway (String.ofList request.path) form network with hledger | hresolved
    · exact .inl hledger
    · exact .inr ⟨form, hpays, hresolved⟩
  · refine .inl ?_
    rcases handle_network hpays with hsame | ⟨path, hprobe⟩
    · rw [hsame]
      exact .refl gateway network
    · rw [hprobe]
      exact checkReadiness_asksLedger path network

/-- Only account keys are passed on. Every call of a run of the pipeline is vetted, whatever the
collaborators answer, and whatever the servers of a gateway answer, everything that it sends, but for
the requests of the resolver, is asked of the ledger. -/
theorem passes_only_keys {ω : Type} (c : Collaborators ω) (config : Config) (payment : PaymentRequest)
    (w : ω) (gateway : Gateway) (request : Request) (network : Network) :
    (∀ call ∈ ((execute c config payment).run { world := w }).2.calls, call.Vetted) ∧
    (gateway.AsksLedger network (gateway.handle request network).network ∨
      ∃ form, PaysWith request form ∧ gateway.AsksLedger
        (Federation.resolver gateway.scheme (form.value "destination") network).world
        (gateway.handle request network).network) :=
  ⟨(execute_course c config payment w).vetted, handle_asksLedger gateway request network⟩

end Gateway

end Paygate.Service
