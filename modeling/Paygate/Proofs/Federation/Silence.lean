import Paygate.Federation.Resolver
import Paygate.Proofs.Http.Exchanges
import Paygate.Proofs.Http.Scheme
import Paygate.Proofs.Pipeline.Silence
import Paygate.Proofs.Text.Utf8

/-!
# What the resolver says

The errors of the resolver show the address, the places where it asked, and what came back from there.

* `SilentResult`: what comes back from a server and can be shown does not mention the seed.
* `Http.send_silent`: what a silent network answers.
* `Federation.resolver_keeps`: the resolver is discreet as long as the servers are silent.
-/

namespace Paygate

namespace Http

variable {seed : String}

/-! ## What comes back from a server -/

/-- What can be shown of an exchange: why it failed, the text that came back, the federation server that
it names, and the account that it names. None of it mentions the seed. -/
structure SilentResult (seed : String) (result : Except Error Response) : Prop where
  reason : ∀ {timedOut reason}, result = .error (.failed timedOut reason) → Silent seed reason
  text : ∀ {response text}, result = .ok response → response.text = .ok text → Paygate.Silent seed text
  server : ∀ {response source server}, result = .ok response →
    Federation.serverOf source response = .ok server → Silent seed server
  account : ∀ {response server record}, result = .ok response →
    Federation.recordOf server response = .ok record → Silent seed record.account

/-- Whichever address it answers, the outcome does not mention the seed. -/
def Outcome.Silent (seed : String) (outcome : Outcome) : Prop :=
  ∀ url, SilentResult seed (Network.resultOf url outcome)

/-- No server mentions the seed. -/
def Network.Silent (seed : String) (network : Network) : Prop :=
  ∀ rule ∈ network.rules, rule.outcome.Silent seed

theorem SilentResult.fault (cause : Fault) : SilentResult seed (.error (.fault cause)) :=
  ⟨nofun, nofun, nofun, nofun⟩

theorem SilentResult.failed {timedOut : Bool} {reason : String} (h : Silent seed reason) :
    SilentResult seed (.error (.failed timedOut reason)) := by
  refine ⟨?_, nofun, nofun, nofun⟩
  rintro _ _ ⟨⟩
  exact h

/-- A text that came back without a content type is read as it was sent. -/
theorem Response.text_ofString (status : Nat) (s : String) :
    Response.text { status, body := Bytes.ofString s } = .ok s := by
  have hread : String.ofList (Utf8.decodeLossy (Bytes.ofString s)) = s := by
    rw [Utf8.decodeLossy_ofString, String.ofList_toList]
  unfold Response.text
  split
  · rename_i hempty
    have hbody : Bytes.ofString s = [] := List.isEmpty_iff.mp hempty
    rw [← hread, hbody]
    simp [Utf8.decodeLossy, Utf8.pieces, Utf8.pieces.go]
  · exact congrArg (fun text : String => Except.ok (Str.whole text)) hread

/-- Where there is no server, nothing is said. -/
theorem silent_absent (hseed : IsSeed seed) :
    Outcome.Silent seed (.response { status := 404, body := [] }) := by
  intro url
  have hresult : Network.resultOf url (.response { status := 404, body := [] }) =
      .ok { status := 404, body := [] } := rfl
  rw [hresult]
  refine ⟨nofun, ?_, ?_, ?_⟩
  · rintro _ text ⟨⟩ htext
    cases htext
    exact hseed.silent_of_not_mem List.not_mem_nil
  · rintro _ source server ⟨⟩ hserver
    cases hserver
  · rintro _ server record ⟨⟩ hrecord
    cases hrecord

theorem answer_silent (hseed : IsSeed seed) (request : Request) {rules : List Rule}
    (h : ∀ rule ∈ rules, rule.outcome.Silent seed) :
    (answer request rules).1.Silent seed ∧
      ∀ rule ∈ (answer request rules).2, rule.outcome.Silent seed := by
  induction rules with
  | nil => exact ⟨silent_absent hseed, List.forall_mem_nil _⟩
  | cons rule rules ih =>
    obtain ⟨hrule, hrules⟩ := List.forall_mem_cons.mp h
    unfold answer
    split
    · exact ⟨hrule, List.forall_mem_cons.mpr ⟨hrule, hrules⟩⟩
    · obtain ⟨hanswer, hafter⟩ := ih hrules
      exact ⟨hanswer, List.forall_mem_cons.mpr ⟨hrule, hafter⟩⟩

/-- The reason why nothing is sent to a URL shows its scheme only. -/
theorem refusal_silent (hseed : IsSeed seed) {url : Url} (hscheme : 'S' ∉ url.scheme.toList)
    {reason : String} (h : refusal? url = some reason) : Silent seed reason := by
  unfold refusal? at h
  split at h
  · cases h
    exact hseed.silent_of_not_mem (by decide)
  · split at h
    · cases h
    · cases h
      refine hseed.silent_of_not_mem ?_
      rw [Str.readable_whole, String.toList_append, String.toList_append, List.mem_append, List.mem_append]
      simp only [not_or]
      exact ⟨⟨by decide, hscheme⟩, by decide⟩

/-- As long as the servers are silent, so is what comes back from them, and they stay silent. -/
theorem send_silent (hseed : IsSeed seed) {network : Network} (h : network.Silent seed) (method : Method)
    (address : Str) (parameters : List (String × Str)) (form : List (String × String)) :
    SilentResult seed (network.send method address parameters form).1 ∧
      (network.send method address parameters form).2.Silent seed := by
  unfold Network.send
  cases htarget : target address parameters with
  | error cause => exact ⟨.fault cause, h⟩
  | ok url =>
    dsimp only
    cases hrefusal : refusal? url with
    | some reason => exact ⟨.failed (refusal_silent hseed (scheme_of_target htarget) hrefusal), h⟩
    | none =>
      obtain ⟨hanswer, hafter⟩ := answer_silent hseed
        { method, url := url.toText, body := String.ofList (Percent.formPairs form) } h
      exact ⟨hanswer url, hafter⟩

end Http

/-! ## The resolver -/

namespace Federation

open Http (Network)
open Pipeline (SilentResolution)

variable {seed : String} {network : Network}

/-- The domain of an address stands in it. -/
theorem Address.domain_silent {text : Str} {address : Address} (htext : Silent seed text)
    (h : parse text = .ok (some address)) : Silent seed address.domain := by
  unfold parse at h
  split at h
  · cases h
  · rename_i name domain hsplit
    unfold split? at hsplit
    split at hsplit
    · split at h
      · cases h
      · cases h
        cases hsplit
        have hsuffix : (text.points.reverse.takeWhile (· ≠ Point.char '*')).reverse <:+ text.points := by
          rw [← List.reverse_prefix, List.reverse_reverse]
          exact List.takeWhile_prefix _
        intro hholds
        rw [Str.toList_readable, Str.points_ofPoints] at hholds
        refine htext (hholds.trans ?_)
        rw [Str.toList_readable]
        exact (hsuffix.map Point.readable).isInfix
    · cases hsplit

/-- What is wrong with a record is said in few words. -/
theorem length_of_ofFields {account : Str} {memoType memo : Option Json} {e : Error}
    (h : FederationRecord.ofFields account memoType memo = .error e) :
    e.message.readable.toList.length < 56 := by
  unfold FederationRecord.ofFields at h
  split at h
  · cases h
  · split at h <;> cases h
    decide
  · cases h
    decide

theorem length_of_ofJson {body : Json} {e : Error} (h : FederationRecord.ofJson body = .error (.error e)) :
    e.message.readable.toList.length < 56 := by
  unfold FederationRecord.ofJson at h
  split at h
  · split at h
    · cases h
      decide
    · split at h
      · cases h
      · obtain ⟨_, hfields, ⟨⟩⟩ := mapError_eq_error.mp h
        exact length_of_ofFields hfields
  · cases h
    decide

/-- No error mentions the seed. -/
def SilentError {α : Type} (seed : String) (result : Except Failure α) : Prop :=
  ∀ e, result = .error (.error e) → Silent seed e.message

theorem SilentError.ok {α : Type} (a : α) : SilentError seed (.ok a) := nofun

theorem SilentError.fault {α : Type} (f : Fault) :
    SilentError seed (.error (.fault f) : Except Failure α) := nofun

theorem SilentError.error {α : Type} {e : Error} (h : Silent seed e.message) :
    SilentError seed (.error (.error e) : Except Failure α) := by
  rintro _ ⟨⟩
  exact h

section

variable (hseed : IsSeed seed)

include hseed

theorem status_silent {front : Str} (hfront : Silent seed front) (status : Nat) :
    Silent seed (front ++ .whole (" returned " ++ toString status)) :=
  hseed.silent_between (by decide) (by decide) hfront
    (hseed.silent_of_not_mem (Text.not_mem_toString_nat status))

/-- What is said of a server shows its address. -/
theorem Error.silent_of_server {server : Str} (h : Silent seed server) :
    (∀ status, Silent seed (queryRefused server status).message) ∧
      Silent seed (notJson server).message ∧
      ∀ reason : String, Silent seed reason → Silent seed (queryFailed server reason).message := by
  have hserver : Silent seed (.whole "Federation server " ++ server) :=
    (hseed.silent_str_append (by decide)).mpr h
  have hrequest : Silent seed (.whole "Federation request to " ++ server) :=
    (hseed.silent_str_append (by decide)).mpr h
  refine ⟨fun status => status_silent hseed hserver status, ?_, fun reason hreason => ?_⟩
  · exact hseed.silent_behind (by decide) hserver (hseed.silent_of_length_lt (by decide))
  · exact hseed.silent_between (by decide) (by decide) hrequest hreason

theorem serverOf_silent {url : Str} (hurl : Silent seed url) (response : Http.Response) :
    SilentError seed (serverOf url response) := by
  have hshort : ∀ {text : Str}, IsSeed.separates text = true → text.readable.toList.length < 56 →
      Silent seed (url ++ text) := fun hfirst htext =>
    hseed.silent_behind hfirst hurl (hseed.silent_of_length_lt htext)
  unfold serverOf
  split
  · split
    · exact .fault _
    · exact .fault _
    · exact .fault _
    · exact .error (hshort (by decide) (by decide))
    · split
      · split
        · exact .error (hshort (by decide) (by decide))
        · exact .ok _
      · exact .error (hshort (by decide) (by decide))
  · exact .error (status_silent hseed hurl _)

theorem recordOf_silent {server : Str} (hserver : Silent seed server) (response : Http.Response) :
    SilentError seed (recordOf server response) := by
  obtain ⟨hrefused, hjson, -⟩ := Error.silent_of_server hseed hserver
  have hrecord : ∀ body, SilentError seed (FederationRecord.ofJson body) := fun body e he =>
    hseed.silent_of_length_lt (length_of_ofJson he)
  unfold recordOf
  split
  · split
    · exact .fault _
    · exact .error hjson
    · exact hrecord _
  · exact .error (hrefused _)

theorem findServer_silent {scheme : String} {domain : Str} (hscheme : Silent seed scheme)
    (hdomain : Silent seed domain) (h : network.Silent seed) :
    SilentError seed (findServer scheme domain network).1 ∧
      (∀ server, (findServer scheme domain network).1 = .ok server → Silent seed server) ∧
      (findServer scheme domain network).2.Silent seed := by
  have hurl : Silent seed (tomlUrl scheme domain) := by
    have hrest : Silent seed (domain ++ .whole "/.well-known/stellar.toml") :=
      hseed.silent_behind (by decide) hdomain (hseed.silent_of_length_lt (by decide))
    rw [tomlUrl, ← Str.whole_append, Str.append_assoc, Str.append_assoc]
    exact hseed.silent_behind (IsSeed.separates_append (by decide) _) hscheme
      ((hseed.silent_str_append (by decide)).mpr hrest)
  obtain ⟨hresult, hafter⟩ := Http.send_silent hseed h .get (tomlUrl scheme domain) [] []
  unfold findServer Network.get
  dsimp only
  rcases hsent : network.send .get (tomlUrl scheme domain) [] [] with ⟨e | response, after⟩
  · rw [hsent] at hresult hafter
    cases e with
    | fault cause => exact ⟨.fault _, nofun, hafter⟩
    | failed timedOut reason =>
      have hfront : Silent seed (.whole "Cannot fetch " ++ tomlUrl scheme domain) :=
        (hseed.silent_str_append (by decide)).mpr hurl
      exact ⟨.error (hseed.silent_between (by decide) (by decide) hfront (hresult.reason rfl)), nofun,
        hafter⟩
  · rw [hsent] at hresult hafter
    exact ⟨serverOf_silent hseed hurl response, fun server hserver => hresult.server rfl hserver, hafter⟩

theorem askServer_silent {server address : Str} (hserver : Silent seed server)
    (h : network.Silent seed) :
    SilentError seed (askServer server address network).1 ∧
      (∀ record, (askServer server address network).1 = .ok record → Silent seed record.account) ∧
      (askServer server address network).2.Silent seed := by
  obtain ⟨hresult, hafter⟩ := Http.send_silent hseed h .get server (query address) []
  unfold askServer Network.get
  rcases hsent : network.send .get server (query address) [] with ⟨e | response, after⟩
  · rw [hsent] at hresult hafter
    cases e with
    | fault cause => exact ⟨.fault _, nofun, hafter⟩
    | failed timedOut reason =>
      refine ⟨.error ?_, nofun, hafter⟩
      exact (Error.silent_of_server hseed hserver).2.2 reason (hresult.reason rfl)
  · rw [hsent] at hresult hafter
    exact ⟨recordOf_silent hseed hserver response, fun record hrecord => hresult.account rfl hrecord,
      hafter⟩

theorem resolve_silent {scheme : String} {address : Str} (hscheme : Silent seed scheme)
    (haddress : Silent seed address) (h : network.Silent seed) :
    SilentError seed (resolve scheme address network).1 ∧
      (∀ record, (resolve scheme address network).1 = .ok record → Silent seed record.account) ∧
      (resolve scheme address network).2.Silent seed := by
  unfold resolve
  split
  · exact ⟨.error (hseed.silent_of_length_lt (by decide)), nofun, h⟩
  · split
    · rename_i e hparse
      refine ⟨.error ?_, nofun, h⟩
      unfold Address.parse at hparse
      split at hparse
      · cases hparse
      · split at hparse
        · cases hparse
          exact (hseed.silent_str_append (by decide)).mpr (hseed.silent_quoted haddress)
        · cases hparse
    · refine ⟨.ok _, ?_, h⟩
      rintro _ ⟨⟩
      exact haddress
    · rename_i parts hparse
      obtain ⟨herror, hfound, hafter⟩ :=
        findServer_silent hseed hscheme (Address.domain_silent haddress hparse) h
      rcases hserver : findServer scheme parts.domain network with ⟨e | server, after⟩
      · rw [hserver] at herror hafter
        refine ⟨?_, nofun, hafter⟩
        rintro _ ⟨⟩
        exact herror _ rfl
      · rw [hserver] at hfound hafter
        exact askServer_silent hseed (hfound server rfl) hafter

/-- The resolver is discreet as long as the servers are silent. -/
theorem resolver_keeps {scheme : String} {address : Field} (hscheme : Silent seed scheme)
    (haddress : address.Silent seed) (h : network.Silent seed) :
    Run.Keeps (Network.Silent seed) seed (SilentResolution seed) (resolver scheme address network) := by
  cases address with
  | upload => exact ⟨h, List.forall_mem_nil _, trivial⟩
  | text address =>
    obtain ⟨herror, hrecord, hafter⟩ := resolve_silent hseed hscheme haddress h
    unfold resolver
    dsimp only
    rcases hresolve : resolve scheme address network with ⟨e | record, after⟩
    · rw [hresolve] at herror hafter
      cases e with
      | error e => exact ⟨hafter, List.forall_mem_nil _, herror e rfl⟩
      | fault f => exact ⟨hafter, List.forall_mem_nil _, trivial⟩
    · rw [hresolve] at hrecord hafter
      exact ⟨hafter, List.forall_mem_nil _, hrecord record rfl⟩

end

end Federation

end Paygate
