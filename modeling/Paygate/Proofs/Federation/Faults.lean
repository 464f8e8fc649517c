import Paygate.Proofs.Federation.Lookup

/-!
# Faults of a lookup

A lookup ends with a record or with an error of its own, but for the faults that nothing handles: an
address at which nobody can be asked, an answer with a header that is not ASCII or with a redirection that
leads nowhere, a `stellar.toml` without a text in its charset, nested too deep or with a number too long
to be converted, and a record nested too deep. Failures of the network, texts that are no TOML and texts
that are no JSON are errors of the lookup.

* `Unreadable`: the faults of reading a `stellar.toml`.
* `Escapes`: the faults of a whole lookup.
* `resolve_fault_iff`: these and no others end a lookup, and without them it ends with a record or an
  error of its own; `lineFeed_fault` is one that does not.
-/

namespace Paygate.Federation

open Http (Network Response)

/-- A `stellar.toml` cannot be read: it has no text in its charset, or it stands too deep inside itself,
or it has a number of too many digits. -/
inductive Unreadable (response : Response) : Fault → Prop
  | charset {cause : Http.Fault} (text : response.text = .error cause) :
      Unreadable response (.exchange cause)
  | nested {text : Str} (text_eq : response.text = .ok text)
      (deep : Toml.read text.points = .error .tooDeep) : Unreadable response (.exchange .tooDeep)
  | numeral {text : Str} (text_eq : response.text = .ok text)
      (long : Toml.read text.points = .error .numeralTooLong) : Unreadable response .numeralTooLong

theorem serverOf_fault_iff {url : Str} {response : Response} {f : Fault} :
    serverOf url response = .error (.fault f) ↔ response.isSuccess = true ∧ Unreadable response f := by
  constructor
  · intro h
    unfold serverOf at h
    split at h
    · rename_i hsuccess
      refine ⟨hsuccess, ?_⟩
      cases htext : response.text with
      | error cause =>
        simp only [htext, Except.map] at h
        cases h
        exact .charset htext
      | ok text =>
        simp only [htext, Except.map] at h
        split at h
        · rename_i hread
          cases hread
        · rename_i hread
          cases h
          exact .nested htext (Except.ok.inj hread)
        · rename_i hread
          cases h
          exact .numeral htext (Except.ok.inj hread)
        · cases h
        · split at h
          · split at h <;> cases h
          · cases h
    · cases h
  · rintro ⟨hsuccess, htext | ⟨htext, hread⟩ | ⟨htext, hread⟩⟩
    · simp [serverOf, hsuccess, htext, Except.map]
    · simp [serverOf, hsuccess, htext, Except.map, hread]
    · simp [serverOf, hsuccess, htext, Except.map, hread]

theorem json?_error {response : Response} {cause : Http.Fault} (h : response.json? = .error cause) :
    cause = .tooDeep := by
  unfold Response.json? at h
  split at h <;> cases h
  rfl

theorem json?_eq_some {response : Response} {body : Json} (h : response.json? = .ok (some body)) :
    Json.ofBytes response.body = .ok body := by
  unfold Response.json? at h
  split at h <;> cases h
  assumption

/-- The one fault of reading a record is that it is nested too deep. -/
theorem recordOf_fault_iff {server : Str} {response : Response} {f : Fault} :
    recordOf server response = .error (.fault f) ↔
      response.isSuccess = true ∧ response.json? = .error .tooDeep ∧ f = .exchange .tooDeep := by
  unfold recordOf
  split
  · rename_i hsuccess
    simp only [hsuccess, true_and]
    cases hjson : response.json? with
    | error cause =>
      obtain rfl := json?_error hjson
      simp [eq_comm]
    | ok body =>
      cases body with
      | none => simp
      | some body =>
        have hfits : ¬ FederationRecord.Overlong body := FederationRecord.not_overlong (json?_eq_some hjson)
        simp [FederationRecord.ofJson_eq_fault_iff, hfits]
  · rename_i hsuccess
    simp [hsuccess]

/-! ## Requests -/

section

variable {scheme : String} {address domain server : Str} {network : Network} {f : Fault}

theorem ofHttp_eq_fault {wrap : String → Error} {e : Http.Error} :
    Failure.ofHttp wrap e = .fault f ↔ ∃ cause, e = .fault cause ∧ f = .exchange cause := by
  cases e with
  | fault cause => simp [Failure.ofHttp, eq_comm]
  | failed timedOut reason => simp [Failure.ofHttp]

/-- A step that asks and reads the answer faults where asking breaks off or reading faults. -/
theorem asking_fault_iff {α : Type} {parameters : List (String × Str)} {wrap : String → Error}
    {read : Response → Except Failure α} :
    ((network.get address parameters).1.mapError (Failure.ofHttp wrap) >>= read) =
        .error (.fault f) ↔
      (∃ cause, network.Breaks .ask address parameters cause ∧ f = .exchange cause) ∨
        ∃ response, (network.get address parameters).1 = .ok response ∧
          read response = .error (.fault f) := by
  simp only [bind_eq_error, mapError_eq_error, mapError_eq_ok, ofHttp_eq_fault,
    ← Network.get_fault_iff]
  constructor
  · rintro (⟨e, he, cause, rfl, rfl⟩ | hread)
    · exact .inl ⟨cause, he, rfl⟩
    · exact .inr hread
  · rintro (⟨cause, hget, rfl⟩ | hread)
    · exact .inl ⟨_, hget, cause, rfl, rfl⟩
    · exact .inr hread

theorem findServer_fault_iff : (findServer scheme domain network).1 = .error (.fault f) ↔
    (∃ cause, network.Breaks .ask (tomlUrl scheme domain) [] cause ∧ f = .exchange cause) ∨
      ∃ response, network.Answers (tomlUrl scheme domain) [] response ∧ Unreadable response f := by
  simp only [findServer_value, asking_fault_iff, serverOf_fault_iff, ← and_assoc,
    Network.get_success_iff]

theorem askServer_fault_iff : (askServer server address network).1 = .error (.fault f) ↔
    (∃ cause, network.Breaks .ask server (query address) cause ∧ f = .exchange cause) ∨
      ∃ response, network.Answers server (query address) response ∧
        response.json? = .error .tooDeep ∧ f = .exchange .tooDeep := by
  simp only [askServer_value, asking_fault_iff, recordOf_fault_iff, ← and_assoc,
    Network.get_success_iff]

end

/-! ## Lookups -/

/-- What ends a lookup as a fault: the domain cannot be asked, its `stellar.toml` cannot be read, the
server that it names cannot be asked, or the record is nested too deep. -/
inductive Escapes (scheme : String) (address : Str) (network : Network) : Fault → Prop
  | domain {name domain : Str} {cause : Http.Fault}
      (federation : Address.parse address = .ok (some ⟨name, domain⟩))
      (breaks : network.Breaks .ask (tomlUrl scheme domain) [] cause) :
      Escapes scheme address network (.exchange cause)
  | toml {name domain : Str} {response : Response} {f : Fault}
      (federation : Address.parse address = .ok (some ⟨name, domain⟩))
      (answers : network.Answers (tomlUrl scheme domain) [] response)
      (unreadable : Unreadable response f) : Escapes scheme address network f
  | server {name domain server : Str} {response : Response} {cause : Http.Fault}
      (federation : Address.parse address = .ok (some ⟨name, domain⟩))
      (answers : network.Answers (tomlUrl scheme domain) [] response) (names : Names response server)
      (breaks : (network.get (tomlUrl scheme domain) []).2.Breaks .ask server (query address) cause) :
      Escapes scheme address network (.exchange cause)
  | record {name domain server : Str} {response response' : Response}
      (federation : Address.parse address = .ok (some ⟨name, domain⟩))
      (answers : network.Answers (tomlUrl scheme domain) [] response) (names : Names response server)
      (answers' : (network.get (tomlUrl scheme domain) []).2.Answers server (query address) response')
      (deep : response'.json? = .error .tooDeep) : Escapes scheme address network (.exchange .tooDeep)

section

variable {scheme : String} {address : Str} {network : Network} {f : Fault}

theorem escapes_of_fault (h : (resolve scheme address network).1 = .error (.fault f)) :
    Escapes scheme address network f := by
  cases hparse : Address.parse address with
  | error e =>
    rw [resolve, hparse] at h
    split at h <;> cases h
  | ok parts =>
    cases parts with
    | none =>
      rw [resolve, hparse] at h
      split at h <;> cases h
    | some parts =>
      obtain ⟨name, domain⟩ := parts
      cases hfind : (findServer scheme domain network).1 with
      | error e =>
        rw [resolve_of_lost hparse hfind] at h
        cases h
        obtain ⟨cause, hbreaks, rfl⟩ | ⟨response, hanswers, hunreadable⟩ :=
          findServer_fault_iff.mp hfind
        · exact .domain hparse hbreaks
        · exact .toml hparse hanswers hunreadable
      | ok server =>
        rw [resolve_of_found hparse hfind] at h
        obtain ⟨response, hanswers, hnames⟩ := findServer_eq_ok_iff.mp hfind
        obtain ⟨cause, hbreaks, rfl⟩ | ⟨response', hanswers', hdeep, rfl⟩ :=
          askServer_fault_iff.mp h
        · exact .server hparse hanswers hnames hbreaks
        · exact .record hparse hanswers hnames hanswers' hdeep

theorem fault_of_escapes (h : Escapes scheme address network f) :
    (resolve scheme address network).1 = .error (.fault f) := by
  cases h with
  | domain federation breaks =>
    rw [resolve_of_lost federation (findServer_fault_iff.mpr (.inl ⟨_, breaks, rfl⟩))]
  | toml federation answers unreadable =>
    rw [resolve_of_lost federation (findServer_fault_iff.mpr (.inr ⟨_, answers, unreadable⟩))]
  | server federation answers names breaks =>
    rw [resolve_of_found federation (findServer_eq_ok_iff.mpr ⟨_, answers, names⟩)]
    exact askServer_fault_iff.mpr (.inl ⟨_, breaks, rfl⟩)
  | record federation answers names answers' deep =>
    rw [resolve_of_found federation (findServer_eq_ok_iff.mpr ⟨_, answers, names⟩)]
    exact askServer_fault_iff.mpr (.inr ⟨_, answers', deep, rfl⟩)

end

/-- A lookup, with any servers, ends with a fault if and only if it is one of those that escape. Without
them it ends with a record or with an error of its own. -/
theorem resolve_fault_iff (scheme : String) (address : Str) (network : Network) :
    (∀ f, (resolve scheme address network).1 = .error (.fault f) ↔
      Escapes scheme address network f) ∧
    ((∀ f, ¬ Escapes scheme address network f) →
      (∃ record, (resolve scheme address network).1 = .ok record) ∨
        ∃ e, (resolve scheme address network).1 = .error (.error e)) := by
  refine ⟨fun f => ⟨escapes_of_fault, fault_of_escapes⟩, fun hnone => ?_⟩
  cases hresult : (resolve scheme address network).1 with
  | ok record => exact .inl ⟨record, rfl⟩
  | error e =>
    cases e with
    | error e => exact .inr ⟨e, rfl⟩
    | fault f => exact absurd (escapes_of_fault hresult) (hnone f)

/-- A line feed in the domain: nothing is sent, and the fault of the URL escapes. -/
theorem lineFeed_fault : (resolve "https" "bob*x\ny" { rules := [] }).1 =
    .error (.fault (.exchange (.invalidUrl (.control '\n' 9)))) := by
  have hparse : Address.parse "bob*x\ny" = .ok (some ⟨"bob", "x\ny"⟩) := by decide +kernel
  have htarget : Http.target (tomlUrl "https" "x\ny") [] = .error (.invalidUrl (.control '\n' 9)) := by
    decide +kernel
  exact ((resolve_fault_iff _ _ _).1 _).mpr (.domain hparse (.address htarget))

end Paygate.Federation
