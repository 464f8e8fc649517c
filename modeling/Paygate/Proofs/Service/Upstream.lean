import Paygate.Proofs.Federation.Lookup
import Paygate.Proofs.Horizon.Client
import Paygate.Proofs.Http.Target

/-!
# What goes upstream reads back as it was meant

The address of a lookup goes to the federation server in the query of a URL, and an envelope goes to the
ledger in the form of a POST. Whoever reads the pairs of that query or form finds what was put into them,
whichever characters that is.

* `query_reads_back`: the second request of a lookup.
* `PostsEnvelope`, `form_reads_back`: the request of a submission.
* `requests_read_back`: both, for all addresses, envelopes and servers.
-/

namespace Paygate

open Http (Goes Network Request)
open Url (Parts)

namespace Federation

/-- Only the address of a lookup can be broken among its parameters. -/
theorem query_eq_ofWhole {address : Str} {pairs : List (String × String)}
    (h : query address = Http.ofWhole pairs) :
    ∃ text : String, address = text ∧ pairs = [("q", text), ("type", "name")] := by
  match pairs, h with
  | [(_, text), (_, kind)], h =>
    obtain ⟨⟨rfl, rfl⟩, rfl, hkind⟩ : ((_ ∧ _) ∧ _ ∧ _) := by simpa [query, Http.ofWhole] using h
    exact ⟨text, rfl, by rw [← hkind]⟩

/-- The parameters of a lookup are the query of the URL that is sent, and nothing else is. -/
theorem readPairs_of_goes {server address : Str} {url : Url} (h : Goes server (query address) url) :
    ∃ text : String, address = text ∧ (Parts.ofChars (Request.ask url).url.toList).query.map
      Percent.readPairs = some [("q", text), ("type", "name")] := by
  obtain ⟨pairs, hpairs, hquery⟩ := h.query (by simp [query])
  obtain ⟨text, htext, rfl⟩ := query_eq_ofWhole hpairs
  refine ⟨text, htext, ?_⟩
  rw [h.parts_ofChars, hquery, Option.map_some, Percent.readPairs_formPairs]

/-- The second request of a lookup carries the address, and the address is whole. -/
theorem query_reads_back (scheme : String) (address : Str) (network : Network) :
    ∃ requests, network.Sends requests (resolve scheme address network).2 ∧
      ∀ request ∈ requests[1]?, ∃ text : String, address = text ∧
        (Parts.ofChars request.url.toList).query.map Percent.readPairs =
          some [("q", text), ("type", "name")] := by
  by_cases hfederation : ∃ parts, Address.parse address = .ok (some parts)
  · obtain ⟨⟨name, domain⟩, hparse⟩ := hfederation
    obtain ⟨requests, hlookup⟩ := exists_lookup hparse
    refine ⟨requests, hlookup.sends, fun request hsecond => ?_⟩
    obtain ⟨server, url, hgoes, rfl⟩ := hlookup.asked.second hsecond
    exact readPairs_of_goes hgoes
  · rw [resolve_world_of_local (not_exists.mp hfederation)]
    exact ⟨[], .refl network, nofun⟩

end Federation

namespace Horizon.Client

/-- The request posts a form with this envelope, at the address for transactions. -/
structure PostsEnvelope (client : Client) (envelope : String) (request : Request) : Prop where
  method : request.method = .post
  url : ∃ url, Http.target (client.address "/transactions") [] = .ok url ∧ request.url = url.toText
  form : Percent.readPairs request.body.toList = [("tx", envelope)]

/-- What a submission posts is a form with the envelope. -/
theorem form_reads_back (client : Client) (envelope : String) (network : Network) :
    ∃ requests, network.Sends requests (client.submit envelope network).world ∧
      ∀ request ∈ requests, client.PostsEnvelope envelope request := by
  rcases @submit_sends client envelope network with hsends | ⟨url, htarget, hsends⟩
  · exact ⟨[], hsends, by simp⟩
  · refine ⟨_, hsends, fun request hrequest => ?_⟩
    obtain rfl := List.mem_singleton.mp hrequest
    refine ⟨rfl, ⟨url, htarget, rfl⟩, ?_⟩
    rw [String.toList_ofList, Percent.readPairs_formPairs]

end Horizon.Client

namespace Service

/-- Of every address that is looked up, with any servers, the second request has a query that reads as the
two pairs of the address and the kind of lookup; for a broken address there is no such request. Of every
envelope that is submitted, to any ledger, the request is a POST at the address for transactions whose form
reads as the one pair of the envelope. -/
theorem requests_read_back (scheme : String) (address : Str) (envelope : String)
    (client : Horizon.Client) (network : Network) :
    (∃ requests, network.Sends requests (Federation.resolve scheme address network).2 ∧
      ∀ request ∈ requests[1]?, ∃ text : String, address = text ∧
        (Parts.ofChars request.url.toList).query.map Percent.readPairs =
          some [("q", text), ("type", "name")]) ∧
    ∃ requests, network.Sends requests (client.submit envelope network).world ∧
      ∀ request ∈ requests, client.PostsEnvelope envelope request :=
  ⟨Federation.query_reads_back scheme address network, client.form_reads_back envelope network⟩

namespace SpecialCharacters

def address : String := "a+b&q=c d%25é*x.org"

def envelope : String := "AAAA+/8=&tx= "

def rules : List Http.Rule :=
  [{ method := "GET"
     url := some "https://x.org/.well-known/stellar.toml"
     outcome := .response {
       status := 200
       body := Bytes.ofString "FEDERATION_SERVER = \"https://x.org/f\"" } }]

def ledger : Horizon.Client := ⟨"https://ledger.example"⟩

/-- What is sent for texts with `+`, `&`, `=`, `%` and a space in them, and how it reads. -/
theorem special_read_back : ∃ toml question posted : Request,
    (Federation.resolve "https" address { rules }).2.sent = [toml, question] ∧
      question.url = "https://x.org/f?q=a%2Bb%26q%3Dc+d%2525%C3%A9%2Ax.org&type=name" ∧
      (Parts.ofChars question.url.toList).query.map Percent.readPairs =
        some [("q", address), ("type", "name")] ∧
      (ledger.submit envelope { rules }).world.sent = [posted] ∧
      posted.body = "tx=AAAA%2B%2F8%3D%26tx%3D+" ∧
      Percent.readPairs posted.body.toList = [("tx", envelope)] := by
  have hasked : (Federation.resolve "https" address { rules }).2.sent =
      [⟨.get, "https://x.org/.well-known/stellar.toml", ""⟩,
        ⟨.get, "https://x.org/f?q=a%2Bb%26q%3Dc+d%2525%C3%A9%2Ax.org&type=name", ""⟩] := by
    decide +kernel
  have hposted : (ledger.submit envelope { rules }).world.sent =
      [⟨.post, "https://ledger.example/transactions", "tx=AAAA%2B%2F8%3D%26tx%3D+"⟩] := by
    decide +kernel
  obtain ⟨⟨asked, hsends, hquery⟩, posted, hsends', hform⟩ :=
    requests_read_back "https" address envelope ledger { rules }
  obtain rfl : asked = _ := hsends.sent.symm.trans hasked
  obtain ⟨_, ⟨⟩, hread⟩ := hquery _ rfl
  obtain rfl : posted = _ := hsends'.sent.symm.trans hposted
  exact ⟨_, _, _, hasked, rfl, hread, hposted, rfl, (hform _ (List.mem_singleton.mpr rfl)).form⟩

end SpecialCharacters

end Service

end Paygate
