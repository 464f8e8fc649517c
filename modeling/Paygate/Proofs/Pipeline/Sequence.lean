import Paygate.Proofs.Pipeline.World
import Paygate.Proofs.Sample

/-!
# Sequence numbers over many payments

Payments that follow each other in a world that advances. Each one reads the sequence of its source
anew, and the account that it loads last is its source, so a submission adds one to the account whose
number it used, and to no other. A payment that fails changes no account.

* `Pipeline.payments`: the payments of some requests, one after the other.
* `Course.after_ok`, `Course.after_error`: what one payment leaves behind.
* `numbers_payments`: the numbers that an account submits follow each other without a gap.
* `payments_sequence`: the steps, the numbers of each account, and that no number is submitted twice.
-/

namespace Paygate

/-- Reading the decimal digits of a number gives it back. -/
theorem Numeral.ofDigits_toString (n : Nat) : Numeral.ofDigits (toString n).toList = n := by
  have hdigits : (toString n).toList = Nat.toDigits 10 n := String.toList_ofList
  rw [hdigits]
  exact Nat.ofDigitChars_ten_toDigits

/-- The transaction that a call has built. -/
def Call.built? : Call → Option Transaction
  | .build transaction _ => some transaction
  | _ => none

/-- The number that the sequence of an account writes, zero for an account that is not there or whose
sequence is broken. -/
def World.current (world : World) (account : String) : Nat :=
  Numeral.ofDigits (((world.accounts.lookup account).bind Str.whole?).getD "").toList

theorem World.current_of_lookup {world : World} {account : String} {n : Nat}
    (h : world.accounts.lookup account = some (.whole (toString n))) : world.current account = n := by
  rw [World.current, h]
  exact Numeral.ofDigits_toString n

theorem World.current_congr {world world' : World} {account : String}
    (h : world'.accounts.lookup account = world.accounts.lookup account) :
    world'.current account = world.current account := by
  rw [World.current, World.current, h]

namespace Pipeline

/-- One of several payments. -/
structure Step where
  request : PaymentRequest
  before : World
  result : Except Failure Json
  calls : List Call
  after : World

namespace Step

/-- The payment of a request in a world. -/
def run (config : Config) (world : World) (request : PaymentRequest) : Step :=
  let (result, session) := (execute World.collaborators config request).run { world }
  ⟨request, world, result, session.calls, session.world⟩

/-- The source account and the number that a payment has submitted. -/
def number? (step : Step) : Option (String × Int) :=
  match step.result with
  | .ok _ => (step.calls.findSome? Call.built?).map fun t => (t.source, t.sequence)
  | .error _ => none

/-- The payment has submitted this transaction: it is the only one that was built, from the account of
the source of the request, whose sequence became its number. All other accounts are as they were. -/
structure Submitted (step : Step) (transaction : Transaction) : Prop where
  built : ∃ seed, PaymentRequest.signer step.request.source = .ok (seed, transaction.source) ∧
    .build transaction seed ∈ step.calls ∧
    ∀ call ∈ step.calls, call.built?.isSome → call = .build transaction seed
  number : step.number? = some (transaction.source, transaction.sequence)
  next : transaction.sequence = (step.before.current transaction.source + 1 : Nat)
  account : step.after.accounts.lookup transaction.source = some (toString transaction.sequence)
  changed : step.after.accounts.lookup transaction.source ≠
    step.before.accounts.lookup transaction.source
  others : ∀ account, account ≠ transaction.source →
    step.after.accounts.lookup account = step.before.accounts.lookup account

end Step

/-- The payments of these requests, each in the world that the one before it has left. -/
def payments (config : Config) : List PaymentRequest → World → List Step
  | [], _ => []
  | request :: rest, world =>
    let step := Step.run config world request
    step :: payments config rest step.after

/-- The numbers that an account has submitted, in their order. -/
def numbers (account : String) (steps : List Step) : List Int :=
  ((steps.filterMap Step.number?).filter fun entry => entry.1 = account).map Prod.snd

/-! ## One payment -/

section

variable {world w' : World} {config : Config} {request : PaymentRequest} {calls : List Call}

/-- A payment that fails leaves all accounts as they were. -/
theorem Course.after_error {e : Failure}
    (h : Course World.collaborators config request world (.error e) w' calls) :
    World.AsBefore world w' := by
  cases h with
  | source => exact .refl world
  | destination =>
    rw [resolve_same]
    exact .refl world
  | operation _ _ composed => exact composed.asBefore
  | memo _ _ composed => exact composed.asBefore
  | load prepared => exact prepared.asBefore.trans (World.load_world _ _)
  | assembly prepared => exact prepared.asBefore.trans (World.load_world _ _)
  | building assembled =>
    rw [build_same]
    exact assembled.asBefore
  | @submission _ _ _ _ envelope _ _ _ assembled _ submitted =>
    rw [build_same] at submitted ⊢
    cases submitted with
    | failed answer | fault answer =>
      have hsame : (World.collaborators.submit envelope _).world = _ :=
        World.submit_eq_error envelope _ answer
      rw [hsame]
      exact assembled.asBefore

/-- The only envelope that is built before a submission is the one that is submitted. -/
theorem Prepared.eq_build {seed source : String} {destination : Destination}
    {operation : Option Operation} {memo : Memo}
    (h : Prepared World.collaborators request world seed source destination operation memo w' calls)
    (transaction : Transaction) (envelope : String) :
    ∀ call ∈ .resolve request.destination :: calls ++
      [.load source, .build transaction seed, .submit envelope],
      call.built?.isSome → call = .build transaction seed := by
  intro call hcall hbuilt
  simp only [List.cons_append, List.mem_cons, List.mem_append, List.not_mem_nil, or_false] at hcall
  rcases hcall with rfl | hcomposed | rfl | rfl | rfl
  · cases hbuilt
  · cases h.composed.eq_load_of_mem hcomposed
    cases hbuilt
  · cases hbuilt
  · rfl
  · cases hbuilt

/-- A submission in a world that advances counts up the account that was loaded for it. -/
theorem submit_loaded (world : World) (envelope : String) {source sequence : String} {response : Json}
    (hadvance : world.advance = true)
    (loaded : Loads World.collaborators source world (.ok (.whole sequence)))
    (hrun : Numeral.isRun sequence.toList = true)
    (submitted : (World.submit envelope (World.load source world).world).value = .ok response) :
    world.accounts.lookup source = some (.whole sequence) ∧
      (World.submit envelope (World.load source world).world).world = { world with
        accounts := Entries.set source (toString (Numeral.ofDigits sequence.toList + 1)) world.accounts
        lastLoaded := some source } := by
  generalize hsequence : Str.whole sequence = text at loaded
  cases loaded with
  | loaded answer =>
    obtain ⟨hlookup, hworld⟩ := World.load_eq_ok answer
    refine ⟨hlookup, ?_⟩
    rw [hworld] at submitted ⊢
    have hadvanced := World.submit_eq_ok (w := { world with lastLoaded := some source }) hadvance submitted
    rw [hadvanced]
    exact World.advanced_eq rfl (hsequence ▸ hlookup) hrun

/-- A payment that succeeds has built one transaction, and its number is now that of its source. -/
theorem Course.after_ok {response : Json} (hadvance : world.advance = true)
    (h : Course World.collaborators config request world (.ok response) w' calls) :
    ∃ seed transaction, PaymentRequest.signer request.source = .ok (seed, transaction.source) ∧
      .build transaction seed ∈ calls ∧
      (∀ call ∈ calls, call.built?.isSome → call = .build transaction seed) ∧
      transaction.sequence = (world.current transaction.source + 1 : Nat) ∧
      w' = { world with
        accounts := Entries.set transaction.source (toString transaction.sequence) world.accounts
        lastLoaded := some transaction.source } := by
  cases h with
  | @submission seed source _ transaction envelope _ w₁ _ whole built submitted =>
    obtain ⟨prepared, loaded, assembled⟩ := whole
    obtain ⟨next, operation, hnext, rfl, rfl⟩ := Transaction.assemble_eq_ok assembled
    obtain ⟨digits, rfl, hrun, rfl⟩ := nextSequence_eq_ok hnext
    obtain ⟨last, rfl⟩ := prepared.asBefore
    rw [build_same] at submitted ⊢
    cases submitted with
    | accepted answer =>
    obtain ⟨hlookup, hworld⟩ :=
      submit_loaded { world with lastLoaded := last } envelope hadvance loaded hrun answer
    refine ⟨seed, _, prepared.signer, by simp, prepared.eq_build _ _, ?_, hworld⟩
    have hsequence : world.accounts.lookup source = some _ := hlookup
    rw [World.current, hsequence]
    rfl

end

namespace Step

variable {config : Config} {world : World} {request : PaymentRequest}

theorem number?_of_error {step : Step} {e : Failure} (h : step.result = .error e) :
    step.number? = none := by
  rw [number?, h]

/-- The only transaction that was built is found among the calls. -/
theorem findSome?_built {calls : List Call} {transaction : Transaction} {seed : String}
    (hmem : .build transaction seed ∈ calls)
    (hall : ∀ call ∈ calls, call.built?.isSome → call = .build transaction seed) :
    calls.findSome? Call.built? = some transaction := by
  cases hfind : calls.findSome? Call.built? with
  | none =>
    have hnone := List.findSome?_eq_none_iff.mp hfind _ hmem
    cases hnone
  | some found =>
    obtain ⟨call, hcall, hbuilt⟩ := List.exists_of_findSome?_eq_some hfind
    have heq := hall call hcall (by rw [hbuilt]; rfl)
    rw [heq] at hbuilt
    exact hbuilt.symm

/-- After a submission the account of the source has the number of the transaction. -/
theorem Submitted.current_eq {step : Step} {transaction : Transaction}
    (h : step.Submitted transaction) :
    step.after.current transaction.source = step.before.current transaction.source + 1 := by
  have hlookup := h.account
  rw [h.next] at hlookup
  exact World.current_of_lookup hlookup

/-- A payment fails and leaves all accounts as they were, or it has submitted a transaction. -/
theorem run_cases (config : Config) (request : PaymentRequest) (hadvance : world.advance = true) :
    let step := run config world request
    step.after.advance = true ∧
      ((∃ e, step.result = .error e) ∧ step.after.accounts = step.before.accounts ∨
        (∃ response, step.result = .ok response) ∧ ∃ transaction, step.Submitted transaction) := by
  intro step
  have hcourse := execute_course World.collaborators config request world
  cases hresult : ((execute World.collaborators config request).run { world }).1 with
  | error e =>
    rw [hresult] at hcourse
    obtain ⟨last, hafter⟩ := hcourse.after_error
    have hworld : step.after = { world with lastLoaded := last } := hafter
    rw [hworld]
    exact ⟨hadvance, .inl ⟨⟨e, hresult⟩, rfl⟩⟩
  | ok response =>
    rw [hresult] at hcourse
    obtain ⟨seed, transaction, hsigner, hbuild, hall, hnext, hafter⟩ := hcourse.after_ok hadvance
    have hworld : step.after = { world with
        accounts := Entries.set transaction.source (toString transaction.sequence) world.accounts
        lastLoaded := some transaction.source } := hafter
    have hlookup : ∀ account, step.after.accounts.lookup account =
        if account = transaction.source then some (.whole (toString transaction.sequence))
        else world.accounts.lookup account := by
      intro account
      rw [hworld]
      exact Entries.lookup_set _ _ _ _
    have hsource : step.after.accounts.lookup transaction.source =
        some (toString transaction.sequence) := (hlookup transaction.source).trans (if_pos rfl)
    refine ⟨by rw [hworld]; exact hadvance, .inr ⟨⟨response, hresult⟩, transaction, ?_⟩⟩
    exact {
      built := ⟨seed, hsigner, hbuild, hall⟩
      number := by
        have hok : step.result = .ok response := hresult
        rw [number?, hok]
        exact congrArg (Option.map _) (findSome?_built hbuild hall)
      next := hnext
      account := hsource
      changed := by
        intro hsame
        rw [hnext] at hsource
        have hafter := World.current_of_lookup hsource
        have hbefore := World.current_congr hsame
        have hworld : step.before.current transaction.source = world.current transaction.source := rfl
        omega
      others := fun account hne => (hlookup account).trans (if_neg hne) }

end Step

/-! ## Many payments -/

section

variable {config : Config} {requests : List PaymentRequest} {world : World} {account : String}

/-- What holds of every payment in a world that advances holds of all payments that follow each other. -/
theorem forall_payments {P : Step → Prop}
    (h : ∀ world request, world.advance = true → P (Step.run config world request))
    (hadvance : world.advance = true) : ∀ step ∈ payments config requests world, P step := by
  induction requests generalizing world with
  | nil => exact List.forall_mem_nil _
  | cons request rest ih =>
    have hafter := (Step.run_cases config request hadvance).1
    exact List.forall_mem_cons.mpr ⟨h world request hadvance, ih hafter⟩

theorem mem_numbers {steps : List Step} {number : Int} :
    number ∈ numbers account steps ↔ (account, number) ∈ steps.filterMap Step.number? := by
  simp only [numbers, List.mem_map, List.mem_filter, decide_eq_true_eq]
  constructor
  · rintro ⟨⟨other, n⟩, ⟨hmem, rfl⟩, rfl⟩
    exact hmem
  · intro hmem
    exact ⟨(account, number), ⟨hmem, rfl⟩, rfl⟩

theorem numbers_cons_none {step : Step} {steps : List Step} (h : step.number? = none) :
    numbers account (step :: steps) = numbers account steps := by
  rw [numbers, List.filterMap_cons_none h]
  rfl

theorem numbers_cons_some {step : Step} {steps : List Step} {source : String} {number : Int}
    (h : step.number? = some (source, number)) :
    numbers account (step :: steps) =
      if source = account then number :: numbers account steps else numbers account steps := by
  rw [numbers, List.filterMap_cons_some h, List.filter_cons]
  by_cases hsource : source = account
  · simp [hsource, numbers]
  · simp [hsource, numbers]

/-- The numbers of an account follow each other without a gap, from the one after its sequence. -/
theorem numbers_payments (config : Config) (requests : List PaymentRequest) (account : String)
    (hadvance : world.advance = true) :
    ∃ count, numbers account (payments config requests world) =
      (List.range' (world.current account + 1) count).map Nat.cast := by
  induction requests generalizing world with
  | nil => exact ⟨0, rfl⟩
  | cons request rest ih =>
    obtain ⟨hafter, hcases⟩ := Step.run_cases config request hadvance
    obtain ⟨count, hrest⟩ := ih hafter
    rw [payments]
    rcases hcases with ⟨⟨e, hresult⟩, hsame⟩ | ⟨-, transaction, hsubmitted⟩
    · have hnone := Step.number?_of_error hresult
      have hcurrent : (Step.run config world request).after.current account = world.current account :=
        World.current_congr (congrArg (List.lookup account) hsame)
      refine ⟨count, ?_⟩
      rw [numbers_cons_none hnone, hrest, hcurrent]
    · rw [numbers_cons_some hsubmitted.number, hrest]
      by_cases hsource : transaction.source = account
      · refine ⟨count + 1, ?_⟩
        subst hsource
        rw [if_pos rfl, hsubmitted.current_eq, hsubmitted.next, List.range'_succ, List.map_cons]
        rfl
      · have hcurrent : (Step.run config world request).after.current account = world.current account :=
          World.current_congr (hsubmitted.others account (Ne.symm hsource))
        refine ⟨count, ?_⟩
        rw [if_neg hsource, hcurrent]

/-- No number of an account is submitted twice. -/
theorem nodup_payments (hadvance : world.advance = true) :
    ((payments config requests world).filterMap Step.number?).Nodup := by
  induction requests generalizing world with
  | nil => exact List.nodup_nil
  | cons request rest ih =>
    obtain ⟨hafter, hcases⟩ := Step.run_cases config request hadvance
    have hrest := ih hafter
    rw [payments]
    rcases hcases with ⟨⟨e, hresult⟩, -⟩ | ⟨-, transaction, hsubmitted⟩
    · rw [List.filterMap_cons_none (Step.number?_of_error hresult)]
      exact hrest
    · rw [List.filterMap_cons_some hsubmitted.number, List.nodup_cons]
      refine ⟨fun hmem => ?_, hrest⟩
      -- what is submitted later comes after the number that the account has now
      obtain ⟨count, hnumbers⟩ := numbers_payments config rest transaction.source hafter
      rw [← mem_numbers, hnumbers, hsubmitted.next, hsubmitted.current_eq] at hmem
      obtain ⟨n, hn, heq⟩ := List.mem_map.mp hmem
      have hle := (List.mem_range'_1.mp hn).1
      omega

/-- In a world that advances, a payment that fails changes no account, and one that succeeds changes that
of its source only, to the number that it has submitted. So the numbers that an account submits follow each
other without a gap, and none is submitted twice. -/
theorem payments_sequence (config : Config) (requests : List PaymentRequest) (world : World)
    (hadvance : world.advance = true) :
    (∀ step ∈ payments config requests world,
      (∃ e, step.result = .error e) ∧ step.after.accounts = step.before.accounts ∨
      (∃ response, step.result = .ok response) ∧ ∃ transaction, step.Submitted transaction) ∧
    (∀ account, ∃ count, numbers account (payments config requests world) =
      (List.range' (world.current account + 1) count).map Nat.cast) ∧
    ((payments config requests world).filterMap Step.number?).Nodup := by
  refine ⟨?_, fun account => numbers_payments config requests account hadvance,
    nodup_payments hadvance⟩
  exact forall_payments (fun world request hadvance => (Step.run_cases config request hadvance).2) hadvance

end

/-! ## An account that pays itself, nobody, and another -/

namespace TwoPayments

open Sample (seed source destination)

def payTo (recipient amount : String) : PaymentRequest where
  source := seed
  destination := recipient
  paymentType := "payment"
  amount := amount

def world : World where
  accounts := [(source, "007")]
  builder := .recording
  advance := true

def config : Config := ⟨"network", 100⟩

def requests : List PaymentRequest :=
  [payTo source "1", payTo "nobody" "2", payTo destination "3"]

theorem submitted : (payments config requests world).filterMap Step.number? =
    [(source, 8), (source, 9)] := by decide +kernel

end TwoPayments

/-- Of three payments the second fails. The other two use the numbers after that of their source. -/
theorem twoPayments_sequence :
    (payments TwoPayments.config TwoPayments.requests TwoPayments.world).filterMap Step.number? =
      [(Sample.source, 8), (Sample.source, 9)] ∧
    ((payments TwoPayments.config TwoPayments.requests TwoPayments.world).filterMap
      Step.number?).Nodup := by
  have hruns := payments_sequence TwoPayments.config TwoPayments.requests TwoPayments.world rfl
  exact ⟨TwoPayments.submitted, hruns.2.2⟩

end Pipeline

end Paygate
