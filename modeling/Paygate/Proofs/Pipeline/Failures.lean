import Paygate.Proofs.Federation.Resolver
import Paygate.Proofs.Pipeline.Intent
import Paygate.Proofs.Pipeline.Stages

/-!
# Every failure is an error of the payment, but for numbers that are too long

Collaborators that keep to their protocol answer with a value or with an error of their own. A run
with such collaborators ends with the answer to its submission or with an error of the payment. There
is one exception: where a number is read, a run of digits may be too long to be converted, and nothing
handles that fault. It is the memo, from the form or from the record of the destination, or the
sequence of the source account.

* `Collaborators.KeepsProtocol`: what the collaborators may answer.
* `ReadsOverlong`: a run reads a number that is too long.
* `Answered`: a run has ended as it should.
* `execute_answered`: a run ends as it should, or with that fault; `overlongMemo_fault` is such a run.
-/

namespace Paygate

variable {ω : Type}

/-- The collaborators answer with a value or with an error of their own. A record has both memo fields or
neither, and envelopes are made by the ledger's builder. -/
structure Collaborators.KeepsProtocol (c : Collaborators ω) : Prop where
  resolve : ∀ address w, address ≠ .upload →
    (∃ record, (c.resolve address w).value = .ok record ∧ record.Paired) ∨
      ∃ message, (c.resolve address w).value = .error (.unresolved message)
  load : ∀ account w, (∃ record, (c.load account w).value = .ok record) ∨
    ∃ e, (c.load account w).value = .error (.error e)
  build : c.build = Pipeline.ledgerBuilder
  submit : ∀ envelope w, (∃ response, (c.submit envelope w).value = .ok response) ∨
    ∃ e, (c.submit envelope w).value = .error (.error e)

theorem Collaborators.KeepsProtocol.submit_ne_fault {c : Collaborators ω} (hc : c.KeepsProtocol)
    (envelope : String) (w : ω) (f : Fault) : (c.submit envelope w).value ≠ .error (.fault f) := by
  intro hfault
  have hprotocol := hc.submit envelope w
  simp [hfault] at hprotocol

namespace Pipeline

open Numeral (Overlong)

/-- A run comes to read a number from a run of digits that is too long to be converted. -/
inductive ReadsOverlong (c : Collaborators ω) (config : Config) (request : PaymentRequest) (w : ω) : Prop
  | memo {signed : String × String} {destination : Destination} {operation : Option Operation}
      {w' : ω} {calls : List Call} {text : Str}
      (signer : PaymentRequest.signer request.source = .ok signed)
      (resolved : Resolves c request.destination w (.ok destination))
      (composed : Composes c request destination.account (c.resolve request.destination w).world
        (.ok operation) w' calls)
      (reads : Memo.ReadsNumber request.memoType request.memo destination text)
      (long : Overlong text) : ReadsOverlong c config request w
  | sequence {seed source : String} {text : Str} {destination : Destination} {operation : Option Operation}
      {memo : Memo} {w' : ω} {calls : List Call}
      (prepared : Prepared c request w seed source destination operation memo w' calls)
      (loaded : Loads c source w' (.ok text)) (long : Overlong text) :
      ReadsOverlong c config request w

/-- A run has ended as it should: with the answer to the envelope that it submitted, or with an error of
the payment. -/
inductive Answered (c : Collaborators ω) : Except Failure Json → List Call → Prop
  | response {envelope : String} {response : Json} {w : ω} {calls : List Call}
      (submitted : .submit envelope ∈ calls) (answer : (c.submit envelope w).value = .ok response) :
      Answered c (.ok response) calls
  | error (e : PaymentError) (calls : List Call) : Answered c (.error (.payment e)) calls

section

variable {c : Collaborators ω} {config : Config} {request : PaymentRequest} {w w' : ω}
  {calls : List Call}

theorem Answered.of_error {e : Failure} (h : ∃ error, e = .payment error) :
    Answered c (.error e) calls := by
  obtain ⟨error, rfl⟩ := h
  exact .error error calls

/-! ## Stages -/

section Stages

variable {e : Failure} (hc : c.KeepsProtocol) (htexts : .upload ∉ request.values)

include hc

theorem Resolves.error_payment {address : Field} (htext : address ≠ .upload)
    (h : Resolves c address w (.error e)) : ∃ error, e = .payment error := by
  have hprotocol := hc.resolve address w htext
  cases h with
  | unresolved | invalid => exact ⟨_, rfl⟩
  | fault answer => simp [answer] at hprotocol
  | @malformed _ account _ answer _ half =>
    simp only [answer, Except.ok.injEq, exists_eq_left', reduceCtorEq, exists_false, or_false]
      at hprotocol
    obtain ⟨destination, whole⟩ := Federation.make_of_paired hprotocol account
    cases half.symm.trans whole

theorem Looks.error_payment {account : String} (h : Looks c account w (.error e)) :
    ∃ error, e = .payment error := by
  have hprotocol := hc.load account w
  cases h with
  | failed => exact ⟨_, rfl⟩
  | fault answer => simp [answer] at hprotocol

theorem Loads.error_payment {account : String} (h : Loads c account w (.error e)) :
    ∃ error, e = .payment error := by
  have hprotocol := hc.load account w
  cases h with
  | failed => exact ⟨_, rfl⟩
  | fault answer => simp [answer] at hprotocol

include htexts

theorem Composes.error_payment {account : String}
    (h : Composes c request account w (.error e) w' calls) : ∃ error, e = .payment error := by
  cases h with
  | invalidType | invalidPath => exact ⟨_, rfl⟩
  | invalidAsset _ hasset =>
    obtain ⟨-, -, hissuer, -⟩ := PaymentRequest.ne_upload htexts
    exact (PaymentRequest.asset_decided hissuer).error_payment hasset
  | inconclusive _ _ lookup => exact lookup.error_payment hc

theorem Builds.error_payment {seed source : String} {destination : Destination}
    {transaction : Transaction} {w₀ : ω} (hfee : 0 ≤ config.baseFee ∧ config.baseFee < UInt32.size)
    (assembled : Assembled c config request w seed source destination transaction w' calls)
    (h : Builds c transaction seed w₀ (.error e)) : ∃ error, e = .payment error := by
  have hbuilder := assembled.ledgerBuilder_decided htexts hfee w₀
  rw [← hc.build] at hbuilder
  exact (h.decided hbuilder).error_payment rfl

end Stages

/-! ## Runs -/

/-- A number that is too long is a fault. -/
theorem Course.error_of_readsOverlong {result : Except Failure Json}
    (h : Course c config request w result w' calls) (hlong : ReadsOverlong c config request w) :
    result = .error (.fault .numeralTooLong) := by
  cases hlong with
  | memo signer resolved composed reads long =>
    exact (h.unique (.memo signer resolved composed (Memo.resolve_of_overlong reads long))).1
  | sequence prepared loaded long =>
    exact (h.unique (.assembly prepared loaded (assemble_of_overlong long))).1

/-- Without such a number a run ends as it should. -/
theorem Course.answered {result : Except Failure Json} (hc : c.KeepsProtocol)
    (htexts : .upload ∉ request.values) (hfee : 0 ≤ config.baseFee ∧ config.baseFee < UInt32.size)
    (hshort : ¬ ReadsOverlong c config request w)
    (h : Course c config request w result w' calls) : Answered c result calls := by
  obtain ⟨hsource, hdestination, -, hmemo⟩ := PaymentRequest.ne_upload htexts
  cases h with
  | source signer => exact .of_error ((signer_decided hsource).error_payment signer)
  | destination _ resolved => exact .of_error (resolved.error_payment hc hdestination)
  | operation _ _ composed => exact .of_error (composed.error_payment hc htexts)
  | memo signer resolved composed remembered =>
    have hdecided := Memo.resolve_decided hmemo fun text reads long =>
      hshort (.memo signer resolved composed reads long)
    exact .of_error (hdecided.error_payment remembered)
  | load prepared loaded => exact .of_error (loaded.error_payment hc)
  | assembly prepared loaded assembled =>
    have hsequence : ¬ Overlong _ := fun long => hshort (.sequence prepared loaded long)
    exact .of_error ((assemble_decided hsequence).error_payment assembled)
  | building assembled built => exact .of_error (built.error_payment hc htexts hfee assembled)
  | submission assembled built submitted =>
    cases submitted with
    | accepted answer => exact .response (by simp) answer
    | failed => exact .error _ _
    | fault answer => exact absurd answer (hc.submit_ne_fault _ _ _)

/-- A run of texts with a fee from 1 to 4294967295, and with collaborators that keep to their protocol,
ends as it should if and only if it reads no number that is too long. If it reads one, that is its fault. -/
theorem execute_answered (hc : c.KeepsProtocol) (htexts : .upload ∉ request.values)
    (hfee : 1 ≤ config.baseFee ∧ config.baseFee ≤ 4294967295) :
    (ReadsOverlong c config request w →
      ((execute c config request).run { world := w }).1 = .error (.fault .numeralTooLong)) ∧
    (¬ ReadsOverlong c config request w →
      Answered c ((execute c config request).run { world := w }).1
        ((execute c config request).run { world := w }).2.calls) := by
  have hcourse := execute_course c config request w
  have hsize := Builder.fee_fits hfee
  exact ⟨hcourse.error_of_readsOverlong, fun hshort => hcourse.answered hc htexts hsize hshort⟩

end

/-! ## A memo of 4301 digits -/

namespace OverlongMemo

/-- Collaborators that know one destination and accept everything. -/
def collaborators : Collaborators Unit where
  resolve _ w := { value := .ok ⟨Sample.destination, none, none⟩, world := w }
  load account w := { value := .ok ⟨.str account, "7"⟩, world := w }
  build := ledgerBuilder
  submit _ w := { value := .ok .null, world := w }

def memo : String := String.ofList (List.replicate 4301 '1')

def request : PaymentRequest where
  source := Sample.seed
  destination := Sample.destination
  paymentType := "payment"
  amount := "10"
  memoType := "id"
  memo := memo

theorem keepsProtocol : collaborators.KeepsProtocol where
  resolve _ _ _ := .inl ⟨_, rfl, rfl⟩
  load _ _ := .inl ⟨_, rfl⟩
  build := rfl
  submit _ _ := .inl ⟨_, rfl⟩

theorem overlong_replicate {n : Nat} (h : Numeral.digitLimit < n) :
    Overlong (String.ofList (List.replicate n '1')) := by
  have hpos : 0 < n := Nat.zero_lt_of_lt h
  rw [Overlong, String.toList_ofList, List.length_replicate]
  refine ⟨?_, h⟩
  have hne : (List.replicate n '1').isEmpty = false := by simp [hpos.ne']
  have hdigits : (List.replicate n '1').all Char.isDigit = true := by simp [List.all_replicate]
  rw [Numeral.isRun, hne, hdigits]
  rfl

theorem readsOverlong : ReadsOverlong collaborators ⟨"network", 100⟩ request () := by
  have hlooks : Looks collaborators Sample.destination () (.ok true) := .present rfl
  have hcomposed : Composes collaborators request Sample.destination ()
      (.ok (some (.payment Sample.destination .native "10"))) () [.load Sample.destination] :=
    .native rfl rfl hlooks
  exact .memo Sample.signer_seed (.found rfl Sample.key?_destination rfl) hcomposed (.request rfl rfl rfl)
    (overlong_replicate (by decide))

end OverlongMemo

/-- A memo of 4301 digits ends in a fault, with collaborators that keep to their protocol. -/
theorem overlongMemo_fault : OverlongMemo.collaborators.KeepsProtocol ∧
    .upload ∉ OverlongMemo.request.values ∧
    ((execute OverlongMemo.collaborators ⟨"network", 100⟩ OverlongMemo.request).run { world := () }).1 =
      .error (.fault .numeralTooLong) := by
  have htexts : .upload ∉ OverlongMemo.request.values := by
    simp [PaymentRequest.values, OverlongMemo.request]
  refine ⟨OverlongMemo.keepsProtocol, htexts, ?_⟩
  exact (execute_answered OverlongMemo.keepsProtocol htexts (by decide)).1 OverlongMemo.readsOverlong

end Pipeline

end Paygate
