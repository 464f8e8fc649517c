import Paygate.Horizon.Client
import Paygate.Proofs.Except
import Paygate.Proofs.Http.Exchanges

/-!
# What the ledger's answers mean

An account is absent if and only if the answer for it has status 404, and present if and only if the
answer is a success with an object that has a sequence. Everything else is neither.

* `Http.Response.Illegible`: why a response cannot be read.
* `Client.readObject_cases`, `Client.accountIn_error`: what a response is read as.
* `Client.load_absent_iff`, `Client.load_ok_iff`: what the answer says about an account.
* `Client.load_absent`: an absence was confirmed by the outcome of a request for the account.
* `Client.submit_sends`: a submission sends at most one request, which posts the envelope.
-/

namespace Paygate

/-- A response that describes an account: a success with an object whose sequence is a text. -/
def Http.Response.IsAccount (response : Http.Response) : Prop :=
  response.isSuccess = true ∧ ∃ members sequence, response.json? = .ok (some (.obj members)) ∧
    ((Json.obj members).get? "sequence").bind Json.text? = some sequence

namespace Http.Response

variable {response : Response}

/-- A success whose body is an object. -/
def IsObject (response : Response) (members : List (Str × Json)) : Prop :=
  response.isSuccess = true ∧ response.json? = .ok (some (.obj members))

/-- A success whose body is an object with this text as its sequence. -/
def Describes (response : Response) (sequence : Str) : Prop :=
  ∃ members, response.IsObject members ∧
    ((Json.obj members).get? "sequence").bind Json.text? = some sequence

/-- A response cannot be read: the values in a success stand too deep inside each other, or the body of any
other response is no text in its charset. -/
inductive Illegible (response : Response) : Fault → Prop
  | json (success : response.isSuccess = true) (deep : response.json? = .error .tooDeep) :
      Illegible response .tooDeep
  | text {cause : Fault} (failure : response.isSuccess = false) (unread : response.text = .error cause) :
      Illegible response cause

theorem isAccount_iff : response.IsAccount ↔ ∃ sequence, response.Describes sequence := by
  constructor
  · rintro ⟨hsuccess, members, sequence, hjson, hsequence⟩
    exact ⟨sequence, members, ⟨hsuccess, hjson⟩, hsequence⟩
  · rintro ⟨sequence, members, ⟨hsuccess, hjson⟩, hsequence⟩
    exact ⟨hsuccess, members, sequence, hjson, hsequence⟩

/-- A success is not a status that confirms an absence. -/
theorem Describes.status_ne {sequence : Str} (h : response.Describes sequence) :
    response.status ≠ 404 := by
  intro hstatus
  obtain ⟨_, ⟨hsuccess, -⟩, -⟩ := h
  rw [isSuccess, hstatus] at hsuccess
  cases hsuccess

/-- What holds an object can be read. -/
theorem IsObject.legible {members : List (Str × Json)} (h : response.IsObject members) (cause : Fault) :
    ¬ response.Illegible cause := by
  rintro (⟨-, hdeep⟩ | ⟨hfailure, -⟩)
  · cases h.2.symm.trans hdeep
  · cases h.1.symm.trans hfailure

theorem fault_of_json? {cause : Fault} (h : response.json? = .error cause) : cause = .tooDeep := by
  unfold json? at h
  split at h <;> cases h
  rfl

end Http.Response

namespace Horizon.Client

open Http (Network)

variable {client : Client} {id envelope : String} {network : Network}

/-- What is asked of the server for an account. -/
def lookup (client : Client) (id : String) (network : Network) :
    Except Http.Error Http.Response × Network :=
  network.send .get (client.address (accountPath id)) [] []

/-- What a response to the lookup of an account comes to, unless its status is 404. -/
def accountIn (id : String) (response : Http.Response) : Except LedgerFailure AccountRecord :=
  (readObject response).1.bind fun body => (accountOf id response.status body).mapError .error

theorem load_world : (client.load id network).world = (client.lookup id network).2 := by
  unfold load request lookup
  dsimp only
  generalize network.send .get (client.address (accountPath id)) [] [] = sent
  rcases sent with ⟨e | response, after⟩
  · rfl
  · dsimp only
    split <;> rfl

/-- What a response to the lookup of an account comes to. -/
def resultIn (id : String) (response : Http.Response) : Except LedgerFailure AccountRecord :=
  if response.status = 404 then .error (.error (.accountNotFound id)) else accountIn id response

theorem load_value : (client.load id network).value =
    ((client.lookup id network).1.mapError (failure (client.address (accountPath id))) >>= resultIn id) := by
  unfold load request lookup
  dsimp only
  generalize network.send .get (client.address (accountPath id)) [] [] = sent
  rcases sent with ⟨e | response, after⟩
  · rfl
  · show (if response.status = 404 then _ else _ : Answer Network _).value = resultIn id response
    unfold resultIn
    split <;> rfl

/-- A response holds an object, or is a failure with its status, or cannot be read. -/
theorem readObject_cases (response : Http.Response) :
    (∃ members, response.IsObject members ∧ (readObject response).1 = .ok (.obj members)) ∨
    (∀ members, ¬ response.IsObject members) ∧
      ((∃ message,
          (readObject response).1 = .error (.error (.failed message (some response.status)))) ∨
        ∃ cause, response.Illegible cause ∧ (readObject response).1 = .error (.fault (.exchange cause))) := by
  unfold readObject Http.Response.IsObject
  split
  · rename_i hsuccess
    split
    · rename_i cause hjson
      obtain rfl := Http.Response.fault_of_json? hjson
      exact .inr ⟨by simp [hjson], .inr ⟨_, .json hsuccess hjson, rfl⟩⟩
    · rename_i hjson
      exact .inr ⟨by simp [hjson], .inl ⟨_, rfl⟩⟩
    · rename_i members hjson
      exact .inl ⟨members, ⟨hsuccess, hjson⟩, rfl⟩
    · rename_i body hobject hjson
      refine .inr ⟨?_, .inl ⟨_, rfl⟩⟩
      rintro members ⟨-, hmembers⟩
      rw [hjson, Except.ok.injEq, Option.some.injEq] at hmembers
      exact hobject members hmembers
  · rename_i hfailure
    rw [Bool.not_eq_true] at hfailure
    refine .inr ⟨by simp [hfailure], ?_⟩
    dsimp only
    split
    · rename_i cause htext
      exact .inr ⟨cause, .text hfailure htext, rfl⟩
    · exact .inl ⟨_, rfl⟩

theorem readObject_ok_iff {response : Http.Response} {body : Json} :
    (readObject response).1 = .ok body ↔ ∃ members, response.IsObject members ∧ body = .obj members := by
  rcases readObject_cases response with
    ⟨members, hobject, hread⟩ | ⟨hnone, ⟨_, hread⟩ | ⟨_, -, hread⟩⟩
  · rw [hread]
    constructor
    · intro h
      exact ⟨members, hobject, (Except.ok.inj h).symm⟩
    · rintro ⟨members', hobject', rfl⟩
      exact congrArg Except.ok (Option.some.inj (Except.ok.inj (hobject.2.symm.trans hobject'.2)))
  · simp [hread, hnone]
  · simp [hread, hnone]

/-- Reading ends with a fault if and only if the response cannot be read. -/
theorem readObject_fault_iff {response : Http.Response} {f : Fault} :
    (readObject response).1 = .error (.fault f) ↔ ∃ cause, response.Illegible cause ∧ f = .exchange cause := by
  constructor
  · intro h
    rcases readObject_cases response with ⟨_, -, hread⟩ | ⟨-, ⟨_, hread⟩ | ⟨cause, hillegible, hread⟩⟩
    · cases h.symm.trans hread
    · cases h.symm.trans hread
    · cases h.symm.trans hread
      exact ⟨cause, hillegible, rfl⟩
  · rintro ⟨cause, ⟨hsuccess, hdeep⟩ | ⟨hfailure, hunread⟩, rfl⟩
    · simp [readObject, hsuccess, hdeep]
    · simp [readObject, hfailure, hunread]

theorem accountOf_ok_iff {status : Nat} {body : Json} {sequence : Str} :
    (∃ account, accountOf id status body = .ok ⟨account, sequence⟩) ↔
      (body.get? "sequence").bind Json.text? = some sequence := by
  unfold accountOf
  split
  · rename_i found hfound
    simp [hfound]
  · rename_i hnone
    simp [hnone]

theorem accountOf_failed {status : Nat} {body : Json} {e : LedgerError}
    (h : accountOf id status body = .error e) : ∃ message, e = .failed message (some status) := by
  unfold accountOf at h
  split at h <;> cases h
  exact ⟨_, rfl⟩

theorem accountIn_describes_iff {response : Http.Response} {sequence : Str} :
    (∃ account, accountIn id response = .ok ⟨account, sequence⟩) ↔ response.Describes sequence := by
  constructor
  · rintro ⟨account, h⟩
    obtain ⟨body, hread, haccount⟩ := bind_eq_ok.mp h
    obtain ⟨members, hobject, rfl⟩ := readObject_ok_iff.mp hread
    exact ⟨members, hobject, accountOf_ok_iff.mp ⟨account, mapError_eq_ok.mp haccount⟩⟩
  · rintro ⟨members, hobject, hsequence⟩
    obtain ⟨account, haccount⟩ := accountOf_ok_iff.mpr hsequence
    exact ⟨account, bind_eq_ok.mpr
      ⟨_, readObject_ok_iff.mpr ⟨members, hobject, rfl⟩, mapError_eq_ok.mpr haccount⟩⟩

/-- A response that describes no account is a failure with its status, or cannot be read. -/
theorem accountIn_error {response : Http.Response} {e : LedgerFailure}
    (h : accountIn id response = .error e) :
    (∃ message, e = .error (.failed message (some response.status))) ∨
      ∃ cause, response.Illegible cause ∧ e = .fault (.exchange cause) := by
  rcases bind_eq_error.mp h with hread | ⟨_, -, haccount⟩
  · rcases readObject_cases response with ⟨_, -, hread'⟩ | ⟨-, ⟨message, hread'⟩ | ⟨cause, hillegible, hread'⟩⟩
    · cases hread.symm.trans hread'
    · cases hread.symm.trans hread'
      exact .inl ⟨message, rfl⟩
    · cases hread.symm.trans hread'
      exact .inr ⟨cause, hillegible, rfl⟩
  · obtain ⟨_, hfailed, rfl⟩ := mapError_eq_error.mp haccount
    obtain ⟨message, rfl⟩ := accountOf_failed hfailed
    exact .inl ⟨message, rfl⟩

theorem accountIn_fault_iff {response : Http.Response} {f : Fault} :
    accountIn id response = .error (.fault f) ↔ ∃ cause, response.Illegible cause ∧ f = .exchange cause := by
  constructor
  · intro h
    rcases accountIn_error h with ⟨_, hfailed⟩ | ⟨cause, hillegible, hfault⟩
    · cases hfailed
    · cases hfault
      exact ⟨cause, hillegible, rfl⟩
  · intro h
    exact bind_eq_error.mpr (.inl (readObject_fault_iff.mpr h))

theorem accountIn_ok_iff {response : Http.Response} :
    (∃ record, accountIn id response = .ok record) ↔ response.IsAccount := by
  rw [Http.Response.isAccount_iff]
  constructor
  · rintro ⟨⟨account, sequence⟩, h⟩
    exact ⟨sequence, accountIn_describes_iff.mp ⟨account, h⟩⟩
  · rintro ⟨sequence, h⟩
    obtain ⟨account, hrecord⟩ := accountIn_describes_iff.mpr h
    exact ⟨_, hrecord⟩

/-- The answer for an account says that it is absent only by its status. -/
theorem accountIn_ne_absent {response : Http.Response} {id' : String} :
    accountIn id response ≠ .error (.error (.accountNotFound id')) := by
  intro h
  rcases accountIn_error h with ⟨_, hfailed⟩ | ⟨_, -, hfault⟩
  · cases hfailed
  · cases hfault

theorem resultIn_ok_iff {response : Http.Response} :
    (∃ record, resultIn id response = .ok record) ↔ response.IsAccount := by
  unfold resultIn
  split
  · rename_i hstatus
    refine iff_of_false nofun fun h => ?_
    obtain ⟨_, hdescribes⟩ := Http.Response.isAccount_iff.mp h
    exact hdescribes.status_ne hstatus
  · exact accountIn_ok_iff

theorem resultIn_absent_iff {response : Http.Response} :
    (∃ id', resultIn id response = .error (.error (.accountNotFound id'))) ↔ response.status = 404 := by
  unfold resultIn
  split
  · rename_i hstatus
    exact iff_of_true ⟨id, rfl⟩ hstatus
  · rename_i hstatus
    exact iff_of_false (fun ⟨_, h⟩ => accountIn_ne_absent h) hstatus

theorem failure_ne_absent {url : String} {e : Http.Error} {id' : String} :
    failure url e ≠ .error (.accountNotFound id') := by
  unfold failure
  split <;> simp

/-- An account is present if and only if the answer is a response that describes it. -/
theorem load_ok_iff : (∃ record, (client.load id network).value = .ok record) ↔
    ∃ response, (client.lookup id network).1 = .ok response ∧ response.IsAccount := by
  rw [load_value]
  simp only [bind_eq_ok, mapError_eq_ok, ← @resultIn_ok_iff id]
  exact ⟨fun ⟨record, response, h, h'⟩ => ⟨response, h, record, h'⟩,
    fun ⟨response, h, record, h'⟩ => ⟨record, response, h, h'⟩⟩

/-- An account is absent if and only if the answer has status 404. -/
theorem load_absent_iff :
    (∃ id', (client.load id network).value = .error (.error (.accountNotFound id'))) ↔
      ∃ response, (client.lookup id network).1 = .ok response ∧ response.status = 404 := by
  rw [load_value]
  simp only [bind_eq_error, mapError_eq_error, mapError_eq_ok, failure_ne_absent,
    ← @resultIn_absent_iff id]
  constructor
  · rintro ⟨id', ⟨_, -, ⟨⟩⟩ | ⟨response, h, h'⟩⟩
    exact ⟨response, h, id', h'⟩
  · rintro ⟨response, h, id', h'⟩
    exact ⟨id', .inr ⟨response, h, h'⟩⟩

theorem submit_value : (client.submit envelope network).value =
    ((network.send .post (client.address "/transactions") [] [("tx", envelope)]).1.mapError
      (failure (client.address "/transactions")) >>= fun response => (readObject response).1) := by
  unfold submit request
  dsimp only
  generalize network.send .post (client.address "/transactions") [] [("tx", envelope)] = sent
  rcases sent with ⟨e | response, after⟩ <;> rfl

/-! ## What is sent -/

theorem load_asks (client : Client) (id : String) (network : Network) :
    Network.Asks network (client.load id network).world := by
  rw [load_world]
  exact network.get_asks _ _

/-- An absence was confirmed by the outcome of a request for the account. -/
theorem load_absent {id' : String}
    (h : (client.load id network).value = .error (.error (.accountNotFound id'))) :
    ∃ url received, Http.target (client.address (accountPath id)) [] = .ok url ∧
      Network.Sends network [{ method := .get, url := url.toText }] (client.load id network).world ∧
      (⟨.get, url.toText, ""⟩, .response received) ∈
        Http.exchanges network.rules [{ method := .get, url := url.toText }] ∧
      received.status = 404 := by
  obtain ⟨response, hresponse, hstatus⟩ := load_absent_iff.mp ⟨id', h⟩
  rw [load_world]
  unfold lookup at hresponse ⊢
  rcases network.send_cases .get (client.address (accountPath id)) [] [] with
    ⟨⟨e, herror⟩, -⟩ | ⟨url, hurl, hsends, hresult⟩
  · rw [herror] at hresponse
    cases hresponse
  · rw [hresult] at hresponse
    obtain ⟨received, hreceived, hsame⟩ := Http.status_of_resultOf hresponse
    refine ⟨url, received, hurl, hsends, ?_, hsame.trans hstatus⟩
    rw [← hreceived]
    exact List.mem_singleton.mpr rfl

theorem submit_world : (client.submit envelope network).world =
    (network.send .post (client.address "/transactions") [] [("tx", envelope)]).2 := by
  unfold submit request
  dsimp only
  generalize network.send .post (client.address "/transactions") [] [("tx", envelope)] = sent
  rcases sent with ⟨e | response, after⟩ <;> rfl

/-- A submission sends at most one request, which posts the envelope. -/
theorem submit_sends : Network.Sends network [] (client.submit envelope network).world ∨
    ∃ url, Http.target (client.address "/transactions") [] = .ok url ∧
      Network.Sends network
        [⟨.post, url.toText, String.ofList (Percent.formPairs [("tx", envelope)])⟩]
        (client.submit envelope network).world := by
  rw [submit_world]
  rcases network.send_cases .post (client.address "/transactions") [] [("tx", envelope)] with
    ⟨-, hsame⟩ | ⟨url, hurl, hsends, -⟩
  · rw [hsame]
    exact .inl (.refl network)
  · exact .inr ⟨url, hurl, hsends⟩

end Horizon.Client

end Paygate
