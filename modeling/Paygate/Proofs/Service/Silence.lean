import Paygate.Proofs.Horizon.Silence
import Paygate.Proofs.Ledger.Silence
import Paygate.Proofs.Service.Form
import Paygate.Proofs.Service.Replies

/-!
# What a gateway writes into its log

The records of a gateway show the type and the destination of a payment, what its operation is composed
of, and what its servers say. So a seed is in them only if it stands in one of these: the source and the
memo of a payment are never shown.

* `Gateway.discreet`: the collaborators of a gateway are discreet as long as its servers are silent.
* `Gateway.records_silent`: a seed is in no record unless a shown value or a server mentions it.
-/

namespace Paygate

namespace Service.Gateway

open Http (Network)

variable {seed : String} {gateway : Gateway} {request : Request} {form : Form} {network : Network}

/-- The seed is in no address of the gateway's own. -/
def Silent (seed : String) (gateway : Gateway) : Prop :=
  Paygate.Silent seed gateway.scheme ∧ Paygate.Silent seed gateway.ledger.base

/-- The collaborators of a gateway are discreet as long as its servers are silent. -/
theorem discreet (hseed : IsSeed seed) (h : gateway.Silent seed) :
    gateway.collaborators.Discreet seed (Network.Silent seed) where
  resolve hw haddress := Federation.resolver_keeps hseed h.1 haddress hw
  load hw key := gateway.ledger.load_keeps hseed h.2 key hw
  build hw hvetted hvalues := by
    cases hvetted with
    | build _ operation => exact Pipeline.ledgerBuilder_keeps hseed hw operation hvalues
  submit hw := gateway.ledger.submit_keeps hseed h.2 hw

/-! ## Its own records -/

open Pipeline (execute execute_silent)

section

variable (hseed : IsSeed seed)

include hseed

theorem conclude_silent (result : Except Failure Json) :
    ∀ record ∈ (conclude "/payment" result).2, record.Silent seed := by
  have hfault : (faultRecord "/payment" none).Silent seed :=
    Log.Record.silent_iff.mpr ⟨hseed.silent_of_length_lt (by decide), List.forall_mem_nil _⟩
  unfold conclude
  split
  · dsimp only
    split
    · exact List.forall_mem_nil _
    · exact List.forall_mem_singleton.mpr hfault
  · rename_i e
    refine List.forall_mem_singleton.mpr (Log.Record.silent_iff.mpr ⟨?_, ?_⟩)
    · refine (hseed.silent_append (by decide)).mpr ?_
      have hmessage : 'S' ∉ e.message.toList ∨ e.message.toList.length < 56 := by
        cases e <;> decide
      exact hmessage.elim (fun h => hseed.silent_of_not_mem h) (fun h => hseed.silent_of_length_lt h)
    · rw [List.forall_mem_cons, List.forall_mem_singleton]
      exact ⟨List.forall_mem_singleton.mpr (hseed.silent_of_length_lt e.code_length_lt),
        List.forall_mem_singleton.mpr (hseed.silent_of_length_lt (by decide))⟩
  · exact List.forall_mem_singleton.mpr hfault

omit hseed in
theorem field_silent {value : Field} (h : value.Silent seed) :
    ∀ text ∈ (Log.Value.ofField value).texts, Paygate.Silent seed text := by
  cases value with
  | text s => exact List.forall_mem_singleton.mpr h
  | upload => exact List.forall_mem_nil _

theorem pay_silent (hgateway : gateway.Silent seed) (hnetwork : network.Silent seed)
    (hshown : ∀ value ∈ form.value "type" :: (PaymentRequest.ofForm form).shown, value.Silent seed) :
    ∀ record ∈ (gateway.pay "/payment" form network).logs, record.Silent seed := by
  obtain ⟨htype, hshown⟩ := List.forall_mem_cons.mp hshown
  have hrun : ∀ record ∈ ((execute gateway.collaborators gateway.pipeline (.ofForm form)).run
      { world := network }).2.logs, record.Silent seed :=
    (execute_silent hseed (discreet hseed hgateway) hshown hnetwork).2
  have hreceived : (receivedRecord (.ofForm form)).Silent seed := by
    refine Log.Record.silent_iff.mpr ⟨hseed.silent_of_length_lt (by decide), ?_⟩
    rw [List.forall_mem_cons, List.forall_mem_singleton]
    exact ⟨field_silent htype, field_silent (List.forall_mem_cons.mp hshown).1⟩
  rw [pay_logs]
  refine List.forall_mem_append.mpr ⟨List.forall_mem_cons.mpr ⟨hreceived, hrun⟩, ?_⟩
  exact conclude_silent hseed _

theorem handle_silent (h : dispatch request = .ok .payment) (hgateway : gateway.Silent seed)
    (hnetwork : network.Silent seed)
    (hshown : ∀ form, readForm request.contentType request.body = .ok form →
      ∀ value ∈ form.value "type" :: (PaymentRequest.ofForm form).shown, value.Silent seed) :
    ∀ record ∈ (gateway.handle request network).logs, record.Silent seed := by
  cases hform : readForm request.contentType request.body with
  | ok form =>
    rw [handle_eq_pay ⟨h, hform⟩, path_of_dispatch h]
    exact pay_silent hseed hgateway hnetwork (hshown form hform)
  | error failure =>
    rw [handle_eq_answer h, answer]
    simp only [h, hform, path_of_dispatch h]
    cases failure with
    | error e => exact List.forall_mem_nil _
    | fault cause =>
      -- the record of a form that is at fault is that of a run that is
      exact conclude_silent hseed (.error (.fault (.exchange cause)))

end

/-- A seed in the address or in the type of a payment is in the first record of it. -/
theorem received_not_silent {form : Form} (hpays : PaysWith request form) {text : Str}
    (htext : form.value "destination" = .text text ∨ form.value "type" = .text text)
    (hholds : Holds text.readable.toList seed) :
    ∃ record ∈ (gateway.handle request network).logs, ¬ record.Silent seed := by
  rw [handle_eq_pay hpays, pay_logs]
  refine ⟨receivedRecord (.ofForm form), by simp, fun hsilent => ?_⟩
  refine hsilent text ?_ hholds
  have hfields : (Log.Record.texts (receivedRecord (.ofForm form))) =
      .whole "Payment request received" :: ((Log.Value.ofField (form.value "type")).texts ++
        (Log.Value.ofField (form.value "destination")).texts) := by
    simp [Log.Record.texts, receivedRecord, PaymentRequest.ofForm]
  rw [hfields]
  rcases htext with htext | htext <;>
    simp [htext, Log.Value.ofField, Log.Value.texts, Log.Value.text, Json.shown]

/-- Where a seed can get into a log, and where it cannot.

* A run of the pipeline with discreet collaborators writes no record with a seed that stands in none of
  the values that it shows, which are the address and what the operation is composed of.
* A gateway whose servers are silent writes no record with a seed that stands neither in these values nor
  in the type, whatever the source, the memo and the values of another type of payment are.
* A seed in the address or in the type is in the first record of every payment. -/
theorem records_silent (seed : String) (hseed : IsSeed seed) :
    (∀ {ω : Type} {c : Collaborators ω} {I : ω → Prop} (config : Pipeline.Config)
      (payment : PaymentRequest) (w : ω), c.Discreet seed I → I w →
      (∀ value ∈ payment.shown, value.Silent seed) →
      ∀ record ∈ ((execute c config payment).run { world := w }).2.logs, record.Silent seed) ∧
    (∀ (gateway : Gateway) (request : Request) (network : Network), dispatch request = .ok .payment →
      gateway.Silent seed → network.Silent seed →
      (∀ form, readForm request.contentType request.body = .ok form →
        ∀ value ∈ form.value "type" :: (PaymentRequest.ofForm form).shown, value.Silent seed) →
      ∀ record ∈ (gateway.handle request network).logs, record.Silent seed) ∧
    ∀ (gateway : Gateway) (request : Request) (network : Network) (form : Form) (text : Str),
      PaysWith request form →
      (form.value "destination" = .text text ∨ form.value "type" = .text text) →
      Holds text.readable.toList seed →
      ∃ record ∈ (gateway.handle request network).logs, ¬ record.Silent seed :=
  ⟨fun _ _ _ hc hw hshown => (execute_silent hseed hc hshown hw).2,
    fun _ _ _ h hgateway hnetwork hshown => handle_silent hseed h hgateway hnetwork hshown,
    fun _ _ _ _ _ hpays htext hholds => received_not_silent hpays htext hholds⟩

end Service.Gateway

/-! ## A payment with its seed in other fields -/

namespace Service.SeedInFields

open Http (Network)

open Sample (seed destination gateway)

/-- No server is available. -/
def network : Network where
  rules := [{ method := "GET", url := none
              outcome := .response { status := 503, body := Bytes.ofString "unavailable" } }]

/-- The fields of a payment that has the seed as its source, as its memo, and as a value that a payment of
its type does not use. -/
def fields (destination : String) : List (String × String) :=
  [("source", seed), ("memo_type", "text"), ("memo", seed), ("send_max", seed), ("type", "payment"),
    ("amount", "2"), ("destination", destination)]

def request (destination : String) : Request := formRequest (fields destination)

def form (destination : String) : Form := formOf (fields destination)

theorem isSeed : IsSeed seed := Option.isSome_iff_exists.mpr ⟨_, Sample.decode_seed⟩

theorem pays (destination : String) : PaysWith (request destination) (form destination) :=
  pays_formRequest (show (7 : Nat) ≤ fieldLimit by decide)

/-- Nothing that the form shows mentions the seed. -/
theorem shown_silent : ∀ value ∈ (form destination).value "type" ::
    (PaymentRequest.ofForm (form destination)).shown, value.Silent seed := by
  have hshort : ∀ text : String, text.toList.length < 56 → Silent seed text :=
    fun text htext => isSeed.silent_of_length_lt htext
  have hshown : (form destination).value "type" :: (PaymentRequest.ofForm (form destination)).shown =
      [.text "payment", .text destination, .text "2", .text ""] := rfl
  rw [hshown]
  simp only [List.forall_mem_cons]
  have hkey := StrKey.accountKey_of_isValid Sample.isValid_destination
  exact ⟨hshort "payment" (by decide), isSeed.silent_accountKey hkey,
    hshort "2" (by decide), hshort "" (by decide), List.forall_mem_nil _⟩

theorem gateway_silent : gateway.Silent seed :=
  ⟨isSeed.silent_of_length_lt (by decide), isSeed.silent_of_length_lt (by decide)⟩

theorem network_silent : network.Silent seed := by
  refine List.forall_mem_singleton.mpr fun url => ?_
  have hresult : Network.resultOf url (.response { status := 503, body := Bytes.ofString "unavailable" }) =
      .ok { status := 503, body := Bytes.ofString "unavailable" } := rfl
  rw [hresult]
  refine ⟨nofun, ?_, ?_, ?_⟩
  · rintro _ text ⟨⟩ htext
    rw [Http.Response.text_ofString] at htext
    cases htext
    exact isSeed.not_holds (by decide)
  · rintro _ source server ⟨⟩ hserver
    cases hserver
  · rintro _ server record ⟨⟩ hrecord
    cases hrecord

/-- The seed stands in three fields of the first form and gets into no record; as the destination it
does. -/
theorem seed_in_fields :
    (IsSeed seed ∧ gateway.Silent seed ∧ network.Silent seed ∧
      PaysWith (request destination) (form destination) ∧ (form destination).value "source" = .text seed ∧
      ∀ record ∈ (gateway.handle (request destination) network).logs, record.Silent seed) ∧
    (∀ record ∈ ((Pipeline.execute gateway.collaborators gateway.pipeline
      (.ofForm (form destination))).run { world := network }).2.logs, record.Silent seed) ∧
    PaysWith (request seed) (form seed) ∧ (form seed).value "destination" = .text seed ∧
      ∃ record ∈ (gateway.handle (request seed) network).logs, ¬ record.Silent seed := by
  have hrecords := Gateway.records_silent seed isSeed
  have hseed : (form seed).value "destination" = .text seed := rfl
  refine ⟨⟨isSeed, gateway_silent, network_silent, pays destination, rfl, ?_⟩, ?_,
    pays seed, hseed, ?_⟩
  · refine hrecords.2.1 gateway _ network (pays destination).1 gateway_silent network_silent ?_
    intro form' hform
    rw [(pays destination).2] at hform
    cases hform
    exact shown_silent
  · exact hrecords.1 gateway.pipeline _ network (Gateway.discreet isSeed gateway_silent) network_silent
      (List.forall_mem_cons.mp shown_silent).2
  · exact hrecords.2.2 gateway _ network _ seed (pays seed) (.inl hseed) List.infix_rfl

end Service.SeedInFields

end Paygate
