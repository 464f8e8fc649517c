import Paygate.Proofs.Federation.Address
import Paygate.Proofs.Federation.Resolver
import Paygate.Proofs.Http.Asking
import Paygate.Proofs.StrKey

/-!
# The course of a lookup

A lookup asks twice at most: the domain for its `stellar.toml`, and the federation server that is named
there for the record of the address. The second request depends on a success with such a name, and a
record comes out of nothing but two successes.

* `Names`, `Describes`: what a success of the domain and of the federation server says.
* `Asked`: which requests are sent; `Answered`: which record comes of what was exchanged.
* `Lookup`, `exists_lookup`: both, for every federation address and with any servers.
* `resolve_course`: the same with what becomes of all other texts, about which nobody is asked.
-/

namespace Paygate.Federation

open Http (Goes Network Outcome Request Response)

/-! ## Responses -/

/-- A `stellar.toml` names a federation server: it is valid, and under the name at its top level stands a
text that is not empty. -/
def Names (response : Response) (server : Str) : Prop :=
  ∃ text entries, response.text = .ok text ∧ Toml.read text.points = .ok entries ∧
    entries.lookup (.whole "FEDERATION_SERVER") = some (.text server) ∧ server ≠ ""

/-- The answer of a federation server describes a record. -/
def Describes (response : Response) (record : FederationRecord) : Prop :=
  ∃ body, response.json? = .ok (some body) ∧ FederationRecord.ofJson body = .ok record

theorem serverOf_eq_ok_iff {url server : Str} {response : Response} :
    serverOf url response = .ok server ↔ response.isSuccess = true ∧ Names response server := by
  constructor
  · intro h
    unfold serverOf at h
    split at h
    · rename_i hsuccess
      cases htext : response.text with
      | error cause => simp [htext, Except.map] at h
      | ok text =>
        simp only [htext, Except.map] at h
        split at h <;> try cases h
        rename_i entries hread
        split at h
        · rename_i hlookup
          split at h <;> cases h
          rename_i hempty
          exact ⟨hsuccess, text, entries, htext, Except.ok.inj hread, hlookup, by simpa using hempty⟩
        · cases h
    · cases h
  · rintro ⟨hsuccess, text, entries, htext, hread, hlookup, hne⟩
    simp [serverOf, hsuccess, htext, Except.map, hread, hlookup, hne]

theorem recordOf_eq_ok_iff {server : Str} {response : Response} {record : FederationRecord} :
    recordOf server response = .ok record ↔ response.isSuccess = true ∧ Describes response record := by
  unfold recordOf Describes
  split
  · rename_i hsuccess
    simp only [hsuccess, true_and]
    cases hjson : response.json? with
    | error cause => simp
    | ok body =>
      cases body with
      | none => simp
      | some body => simp
  · rename_i hsuccess
    simp [hsuccess]

/-! ## Requests -/

section

variable {scheme : String} {address domain server : Str} {network : Network}

theorem findServer_value : (findServer scheme domain network).1 =
    ((network.get (tomlUrl scheme domain) []).1.mapError
      (Failure.ofHttp (.unreachable (tomlUrl scheme domain))) >>= serverOf (tomlUrl scheme domain)) := by
  unfold findServer
  dsimp only
  split
  · rename_i hget
    rw [hget]
    rfl
  · rename_i hget
    rw [hget]
    rfl

theorem askServer_value : (askServer server address network).1 =
    ((network.get server (query address)).1.mapError (Failure.ofHttp (.queryFailed server)) >>=
      recordOf server) := by
  unfold askServer
  split
  · rename_i hget
    rw [hget]
    rfl
  · rename_i hget
    rw [hget]
    rfl

/-- The server of a domain is found if and only if the domain answers with a success that names it. -/
theorem findServer_eq_ok_iff : (findServer scheme domain network).1 = .ok server ↔
    ∃ response, network.Answers (tomlUrl scheme domain) [] response ∧ Names response server := by
  simp only [findServer_value, bind_eq_ok, mapError_eq_ok, serverOf_eq_ok_iff, ← and_assoc,
    Network.get_success_iff]

/-- A server has a record if and only if it answers with a success that describes it. -/
theorem askServer_eq_ok_iff {record : FederationRecord} :
    (askServer server address network).1 = .ok record ↔
      ∃ response, network.Answers server (query address) response ∧ Describes response record := by
  simp only [askServer_value, bind_eq_ok, mapError_eq_ok, recordOf_eq_ok_iff, ← and_assoc,
    Network.get_success_iff]

/-! ## Lookups -/

section

variable {name : Str} (h : Address.parse address = .ok (some ⟨name, domain⟩))

include h

theorem not_isEmpty_of_parse : ¬ address.isEmpty = true := by
  rw [Str.isEmpty_iff]
  exact (Address.parse_eq_some_iff.mp h).1.ne_empty

/-- Without a server the lookup ends with what was asked of the domain. -/
theorem resolve_of_lost {e : Failure} (hlost : (findServer scheme domain network).1 = .error e) :
    resolve scheme address network = (.error e, (network.get (tomlUrl scheme domain) []).2) := by
  rw [resolve, if_neg (not_isEmpty_of_parse h), h, ← findServer_world]
  dsimp only
  rcases hfind : findServer scheme domain network with ⟨e' | server, after⟩
  · rw [hfind] at hlost
    cases hlost
    rfl
  · rw [hfind] at hlost
    cases hlost

/-- The server that is found is asked next. -/
theorem resolve_of_found (hfound : (findServer scheme domain network).1 = .ok server) :
    resolve scheme address network =
      askServer server address (network.get (tomlUrl scheme domain) []).2 := by
  rw [resolve, if_neg (not_isEmpty_of_parse h), h, ← findServer_world]
  dsimp only
  rcases hfind : findServer scheme domain network with ⟨e' | server', after⟩
  · rw [hfind] at hfound
    cases hfound
  · rw [hfind] at hfound
    cases hfound
    rfl

end

/-- The requests of a lookup, with servers that answer by these rules. The first asks for the
`stellar.toml` of the domain. The second asks the server that a success names, with the whole address. -/
inductive Asked (scheme : String) (address domain : Str) (rules : List Http.Rule) : List Request → Prop
  | nothing (unsent : ∀ url, ¬ Goes (tomlUrl scheme domain) [] url) : Asked scheme address domain rules []
  | unnamed {url : Url} (goes : Goes (tomlUrl scheme domain) [] url)
      (unusable : ∀ response server, (Http.answer (.ask url) rules).1.Succeeds response →
        ¬ Names response server) : Asked scheme address domain rules [.ask url]
  | unsent {url : Url} {response : Response} {server : Str}
      (goes : Goes (tomlUrl scheme domain) [] url)
      (succeeds : (Http.answer (.ask url) rules).1.Succeeds response) (names : Names response server)
      (unsent : ∀ url', ¬ Goes server (query address) url') :
      Asked scheme address domain rules [.ask url]
  | server {url url' : Url} {response : Response} {server : Str}
      (goes : Goes (tomlUrl scheme domain) [] url)
      (succeeds : (Http.answer (.ask url) rules).1.Succeeds response) (names : Names response server)
      (goes' : Goes server (query address) url') :
      Asked scheme address domain rules [.ask url, .ask url']

/-- Two requests were answered with successes, and the second answer describes the record. -/
def Answered (exchanges : List (Request × Outcome)) (record : FederationRecord) : Prop :=
  ∃ first second response response', exchanges = [first, second] ∧ first.2.Succeeds response ∧
    second.2.Succeeds response' ∧ Describes response' record

/-- What a lookup comes to, with the requests that it sends. -/
structure Lookup (scheme : String) (address domain : Str) (network : Network) (requests : List Request) :
    Prop where
  sends : network.Sends requests (resolve scheme address network).2
  asked : Asked scheme address domain network.rules requests
  record : ∀ record, (resolve scheme address network).1 = .ok record ↔
    Answered (Http.exchanges network.rules requests) record

theorem Asked.length_le {rules : List Http.Rule} {requests : List Request}
    (h : Asked scheme address domain rules requests) : requests.length ≤ 2 := by
  cases h <;> simp

theorem Asked.head? {rules : List Http.Rule} {requests : List Request}
    (h : Asked scheme address domain rules requests) {request : Request}
    (hfirst : request ∈ requests.head?) :
    ∃ url, Goes (tomlUrl scheme domain) [] url ∧ request = .ask url := by
  cases h with
  | nothing => cases hfirst
  | unnamed goes => exact ⟨_, goes, (Option.some.inj hfirst).symm⟩
  | unsent goes => exact ⟨_, goes, (Option.some.inj hfirst).symm⟩
  | server goes => exact ⟨_, goes, (Option.some.inj hfirst).symm⟩

theorem Asked.second {rules : List Http.Rule} {requests : List Request}
    (h : Asked scheme address domain rules requests) {request : Request}
    (hsecond : request ∈ requests[1]?) :
    ∃ server url, Goes server (query address) url ∧ request = .ask url := by
  cases h with
  | nothing => cases hsecond
  | unnamed => cases hsecond
  | unsent => cases hsecond
  | server _ _ _ goes => exact ⟨_, _, goes, (Option.some.inj hsecond).symm⟩

theorem not_answered_of_length {rules : List Http.Rule} {requests : List Request}
    {record : FederationRecord} (h : requests.length < 2) :
    ¬ Answered (Http.exchanges rules requests) record := by
  rintro ⟨first, second, _, _, hexchanges, -⟩
  have hlength := congrArg List.length hexchanges
  match requests, h with
  | [], _ => cases hlength
  | [request], _ => cases hlength

/-- A lookup that fails, after one request or none. -/
theorem Lookup.of_error {after : Network} {e : Failure} {requests : List Request}
    (hresolve : resolve scheme address network = (.error e, after))
    (hsends : network.Sends requests after)
    (hasked : Asked scheme address domain network.rules requests) (hlength : requests.length < 2) :
    Lookup scheme address domain network requests where
  sends := by
    rw [hresolve]
    exact hsends
  asked := hasked
  record record := by
    rw [hresolve]
    exact iff_of_false nofun (not_answered_of_length hlength)

section

variable {name : Str} (h : Address.parse address = .ok (some ⟨name, domain⟩))

include h

/-- Where no success names a server the lookup fails. -/
theorem resolve_of_unnamed (hlost : ∀ response server,
      network.Answers (tomlUrl scheme domain) [] response → ¬ Names response server) :
    ∃ e, resolve scheme address network = (.error e, (network.get (tomlUrl scheme domain) []).2) := by
  cases hfind : (findServer scheme domain network).1 with
  | ok server =>
    obtain ⟨response, hanswers, hnames⟩ := findServer_eq_ok_iff.mp hfind
    exact absurd hnames (hlost response server hanswers)
  | error e => exact ⟨e, resolve_of_lost h hfind⟩

theorem lookup_nothing (hunsent : ∀ url, ¬ Goes (tomlUrl scheme domain) [] url) :
    Lookup scheme address domain network [] := by
  have hlost : ∀ response server, network.Answers (tomlUrl scheme domain) [] response →
      ¬ Names response server := fun _ _ ⟨url, hgoes, _⟩ => absurd hgoes (hunsent url)
  obtain ⟨e, hresolve⟩ := resolve_of_unnamed h hlost
  obtain ⟨_, hget⟩ := network.get_of_unsent hunsent
  rw [hget] at hresolve
  exact .of_error hresolve (.refl network) (.nothing hunsent) (by simp)

section

variable {url : Url} (hgoes : Goes (tomlUrl scheme domain) [] url)

include hgoes

theorem lookup_unnamed
    (hunusable : ∀ response server, (Http.answer (.ask url) network.rules).1.Succeeds response →
      ¬ Names response server) : Lookup scheme address domain network [.ask url] := by
  have hlost : ∀ response server, network.Answers (tomlUrl scheme domain) [] response →
      ¬ Names response server := by
    rintro response server ⟨url', hgoes', hsucceeds⟩
    obtain rfl := hgoes.unique hgoes'
    exact hunusable response server hsucceeds
  obtain ⟨e, hresolve⟩ := resolve_of_unnamed h hlost
  exact .of_error hresolve (Network.sends_of_goes hgoes) (.unnamed hgoes hunusable) (by simp)

variable {response : Response}
  (hsucceeds : (Http.answer (.ask url) network.rules).1.Succeeds response)
  (hnames : Names response server)

include hsucceeds hnames

/-- A success that names a server leads to it, behind the one request for its name. -/
theorem resolve_of_named : ∃ after, network.Sends [.ask url] after ∧
    resolve scheme address network = askServer server address after := by
  have hfound : (findServer scheme domain network).1 = .ok server :=
    findServer_eq_ok_iff.mpr ⟨response, ⟨url, hgoes, hsucceeds⟩, hnames⟩
  exact ⟨_, Network.sends_of_goes hgoes, resolve_of_found h hfound⟩

theorem lookup_unsent (hunsent : ∀ url', ¬ Goes server (query address) url') :
    Lookup scheme address domain network [.ask url] := by
  obtain ⟨after, hsends, hresolve⟩ := resolve_of_named h hgoes hsucceeds hnames
  obtain ⟨e, hget⟩ := after.get_of_unsent hunsent
  have hfailed : resolve scheme address network =
      (.error (.ofHttp (.queryFailed server) e), after) := by
    rw [hresolve, askServer, hget]
  exact .of_error hfailed hsends (.unsent hgoes hsucceeds hnames hunsent) (by simp)

theorem lookup_server {url' : Url} (hgoes' : Goes server (query address) url') :
    Lookup scheme address domain network [.ask url, .ask url'] := by
  obtain ⟨after, hsends, hresolve⟩ := resolve_of_named h hgoes hsucceeds hnames
  have hrules : after.rules = (Http.answer (.ask url) network.rules).2 := hsends.rules
  refine ⟨?_, .server hgoes hsucceeds hnames hgoes', fun record => ?_⟩
  · rw [hresolve, askServer_world]
    exact hsends.trans (Network.sends_of_goes hgoes')
  · rw [hresolve, askServer_eq_ok_iff]
    constructor
    · rintro ⟨response', ⟨url'', hgoes'', hsucceeds'⟩, hdescribes⟩
      obtain rfl := hgoes'.unique hgoes''
      rw [hrules] at hsucceeds'
      exact ⟨_, _, response, response', rfl, hsucceeds, hsucceeds', hdescribes⟩
    · rintro ⟨_, _, _, response', ⟨⟩, -, hsucceeds', hdescribes⟩
      refine ⟨response', ⟨url', hgoes', ?_⟩, hdescribes⟩
      rw [hrules]
      exact hsucceeds'

end

theorem exists_lookup : ∃ requests, Lookup scheme address domain network requests := by
  by_cases hgoes : ∃ url, Goes (tomlUrl scheme domain) [] url
  · obtain ⟨url, hgoes⟩ := hgoes
    by_cases hnamed : ∃ response server,
        (Http.answer (.ask url) network.rules).1.Succeeds response ∧ Names response server
    · obtain ⟨response, server, hsucceeds, hnames⟩ := hnamed
      by_cases hgoes' : ∃ url', Goes server (query address) url'
      · obtain ⟨url', hgoes'⟩ := hgoes'
        exact ⟨_, lookup_server h hgoes hsucceeds hnames hgoes'⟩
      · exact ⟨_, lookup_unsent h hgoes hsucceeds hnames (not_exists.mp hgoes')⟩
    · refine ⟨_, lookup_unnamed h hgoes fun response server hsucceeds hnames => ?_⟩
      exact hnamed ⟨response, server, hsucceeds, hnames⟩
  · exact ⟨_, lookup_nothing h (not_exists.mp hgoes)⟩

end

end

/-! ## All texts -/

/-- Nobody is asked about a text that is no federation address. -/
theorem resolve_world_of_local {scheme : String} {address : Str} {network : Network}
    (h : ∀ parts, Address.parse address ≠ .ok (some parts)) :
    (resolve scheme address network).2 = network := by
  unfold resolve
  split
  · rfl
  · split
    · rfl
    · rfl
    · rename_i parts hparse
      exact absurd hparse (h parts)

/-- A text without `*` that is not empty is its own account, and nobody is asked. -/
theorem resolve_of_plain (scheme : String) {address : Str} (network : Network) (hne : address ≠ "")
    (hplain : Point.char '*' ∉ address.points) :
    resolve scheme address network = (.ok { account := address }, network) := by
  rw [resolve, if_neg (by simpa using hne), Address.parse_eq_none_iff.mpr hplain]

theorem resolve_of_malformed (scheme : String) {address name domain : Str} (network : Network)
    (hdivides : Address.Divides address name domain) (hempty : name = "" ∨ domain = "") :
    resolve scheme address network = (.error (.error (.malformedAddress address)), network) := by
  have hne : ¬ address.isEmpty = true := by
    rw [Str.isEmpty_iff]
    exact hdivides.ne_empty
  rw [resolve, if_neg hne, Address.parse_of_divides hdivides, if_pos hempty]

/-- Nobody is asked about a text that is empty, has no `*`, or has an empty name or domain at its last
`*`. An empty text and a malformed one are errors, any other text without `*` is its own account and has
no memo, as every account key is. For any other text there is a lookup with two requests at most. -/
theorem resolve_course (scheme : String) (address : Str) (network : Network) :
    (address = "" → resolve scheme address network = (.error (.error .emptyAddress), network)) ∧
    (address ≠ "" → Point.char '*' ∉ address.points →
      resolve scheme address network = (.ok { account := address }, network)) ∧
    (Point.char '*' ∈ address.points → ∃ name domain, Address.Divides address name domain ∧
      (name = "" ∨ domain = "" →
        resolve scheme address network = (.error (.error (.malformedAddress address)), network)) ∧
      (name ≠ "" → domain ≠ "" → ∃ requests,
        Lookup scheme address domain network requests ∧ requests.length ≤ 2)) ∧
    (∀ account : String, StrKey.isValid .account account = true →
      resolve scheme account network = (.ok { account := account }, network)) := by
  refine ⟨?_, resolve_of_plain scheme network, ?_, ?_⟩
  · rintro rfl
    rfl
  · intro hstar
    obtain ⟨name, domain, hdivides⟩ := Address.exists_divides hstar
    refine ⟨name, domain, hdivides, resolve_of_malformed scheme network hdivides, ?_⟩
    intro hname hdomain
    obtain ⟨requests, hlookup⟩ :=
      exists_lookup (Address.parse_eq_some_iff.mpr ⟨hdivides, hname, hdomain⟩)
    exact ⟨requests, hlookup, hlookup.asked.length_le⟩
  · intro account hvalid
    have hkey := StrKey.accountKey_of_isValid hvalid
    have hne : (account : Str) ≠ "" := by
      rintro ⟨⟩
      cases hkey.length
    have hplain : Point.char '*' ∉ (account : Str).points := by
      simpa using hkey.no_separator '*' (by decide)
    exact resolve_of_plain scheme network hne hplain

end Paygate.Federation
