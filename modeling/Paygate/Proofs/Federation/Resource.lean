import Paygate.Proofs.Federation.Lookup
import Paygate.Proofs.Http.Target

/-!
# What a domain is asked for

The domain of a federation address stands in front of the path of its `stellar.toml` as it is written.
So it decides, beside the host, whether that path is asked for.

* `AsksToml`: a request for the `stellar.toml` of a host.
* `Confined`: a domain that says nothing but where to ask.
* `toml_request_iff`: the first request of a lookup is such a request if and only if the domain is confined.
-/

namespace Paygate.Federation

open Http (Goes Network Request)
open Url (IsAuthority IsPath IsRooted IsScheme Parts marked normalPath)

/-- Where the `stellar.toml` of a host is. -/
def tomlPath : List Char := "/.well-known/stellar.toml".toList

/-- A request for the `stellar.toml` of a host and for nothing else there. -/
structure AsksToml (request : Request) : Prop where
  path : (Parts.ofChars request.url.toList).path = tomlPath
  noQuery : (Parts.ofChars request.url.toList).query = none
  noFragment : (Parts.ofChars request.url.toList).fragment = none
  noUserinfo : '@' ∉ (Parts.ofChars request.url.toList).authority

/-- The domain says where to ask, and not for what nor as whom. Segments that take each other back make no
path, and an `@` in front of a host stands behind nobody. -/
structure Confined (domain : List Char) : Prop where
  noQuery : '?' ∉ domain
  noFragment : '#' ∉ domain
  noPath : normalPath (domain.dropWhile (· ≠ '/')) = []
  noUserinfo : '@' ∉ (domain.takeWhile (· ≠ '/')).drop 1

/-! ## The address of a `stellar.toml` -/

theorem isScheme_https : IsScheme "https".toList :=
  ⟨List.all_eq_true.mp (by decide +kernel), by decide +kernel⟩

/-- The address of a `stellar.toml` as a string. -/
def tomlText (domain : String) : String := "https" ++ "://" ++ domain ++ "/.well-known/stellar.toml"

theorem tomlUrl_whole (domain : String) : tomlUrl "https" domain = tomlText domain := rfl

/-- Only for a domain that is whole the address is. -/
theorem exists_whole_of_tomlUrl {scheme text : String} {domain : Str} (h : tomlUrl scheme domain = text) :
    ∃ s : String, domain = s := by
  obtain ⟨front, _, hfront, -⟩ := Str.exists_of_append_eq h
  obtain ⟨_, s, -, hs⟩ := Str.exists_of_append_eq hfront
  exact ⟨s, hs⟩

theorem toList_tomlText (domain : String) : (tomlText domain).toList =
    "https".toList ++ ':' :: '/' :: '/' :: (domain.toList ++ tomlPath) := by
  have hsigns : "://".toList = [':', '/', '/'] := by decide +kernel
  rw [tomlText, String.toList_append, String.toList_append, String.toList_append, hsigns,
    List.append_assoc, List.append_assoc]
  rfl

theorem normalPath_tomlPath {path : List Char} (h : IsRooted path) :
    normalPath (path ++ tomlPath) = normalPath path ++ tomlPath := by
  have hsplit : tomlPath = '/' :: ".well-known".toList ++ '/' :: "stellar.toml".toList := by
    decide +kernel
  have hknown : normalPath (path ++ '/' :: ".well-known".toList) =
      normalPath path ++ '/' :: ".well-known".toList :=
    Url.normalPath_append h (by decide +kernel) (by decide +kernel) (by decide +kernel)
  have htoml : normalPath ((path ++ '/' :: ".well-known".toList) ++ '/' :: "stellar.toml".toList) =
      normalPath (path ++ '/' :: ".well-known".toList) ++ '/' :: "stellar.toml".toList :=
    Url.normalPath_append (h.append_segment _) (by decide +kernel) (by decide +kernel)
      (by decide +kernel)
  rw [hsplit, ← List.append_assoc, htoml, hknown, List.append_assoc]

/-- A domain without `?` and `#` divides at its first slash. -/
theorem parts_of_unmarked {domain : String} (hquery : '?' ∉ domain.toList)
    (hfragment : '#' ∉ domain.toList) : Parts.ofChars (tomlText domain).toList =
      { scheme := "https".toList
        authority := domain.toList.takeWhile (· ≠ '/')
        path := domain.toList.dropWhile (· ≠ '/') ++ tomlPath } := by
  have hwhole : domain.toList ++ tomlPath = domain.toList.takeWhile (· ≠ '/') ++
      (domain.toList.dropWhile (· ≠ '/') ++ tomlPath ++ (marked '?' none ++ marked '#' none)) := by
    rw [marked, marked, List.append_nil, List.append_nil, ← List.append_assoc,
      List.takeWhile_append_dropWhile]
  have hauthority : IsAuthority (domain.toList.takeWhile (· ≠ '/')) :=
    ⟨fun h => by simpa using List.mem_takeWhile_imp h, fun h => hquery (List.takeWhile_subset _ h),
      fun h => hfragment (List.takeWhile_subset _ h)⟩
  have hpath : IsPath (domain.toList.dropWhile (· ≠ '/') ++ tomlPath) := by
    have hmem : ∀ c ∈ domain.toList.dropWhile (· ≠ '/') ++ tomlPath, c ∈ domain.toList ∨ c ∈ tomlPath :=
      fun c hc => (List.mem_append.mp hc).imp_left fun h => List.dropWhile_subset _ h
    exact ⟨(Url.isRooted_dropWhile domain.toList).append_segment _,
      fun h => (hmem _ h).elim hquery (by decide +kernel),
      fun h => (hmem _ h).elim hfragment (by decide +kernel)⟩
  rw [toList_tomlText, hwhole, Parts.ofChars_append isScheme_https hauthority hpath (by simp)]

/-- The parts of the address say whether the domain has a `?` or a `#`. -/
theorem unmarked_of_parts {domain : String}
    (hquery : (Parts.ofChars (tomlText domain).toList).query = none)
    (hfragment : (Parts.ofChars (tomlText domain).toList).fragment = none) :
    '?' ∉ domain.toList ∧ '#' ∉ domain.toList := by
  obtain ⟨authority, path, query, fragment, hauthority, hpath, hfree, hparts⟩ :=
    Url.exists_parts (domain.toList ++ tomlPath)
  rw [toList_tomlText, hparts, Parts.ofChars_append isScheme_https hauthority hpath hfree] at hquery hfragment
  obtain rfl : query = none := hquery
  obtain rfl : fragment = none := hfragment
  have hunmarked : ∀ c ∈ domain.toList, c ∈ authority ∨ c ∈ path := by
    intro c hc
    have hmem : c ∈ domain.toList ++ tomlPath := List.mem_append_left _ hc
    rw [hparts] at hmem
    simpa [marked] using hmem
  exact ⟨fun h => (hunmarked _ h).elim hauthority.noQuery hpath.noQuery,
    fun h => (hunmarked _ h).elim hauthority.noFragment hpath.noFragment⟩

/-! ## The URL that is asked -/

section

variable {domain : String} {url : Url} (h : Goes (tomlText domain) [] url)

include h

theorem scheme_of_goes : url.parts.scheme = "https".toList := by
  have hscheme := h.made.scheme
  have hparts : (Parts.ofChars (tomlText domain).toList).scheme = "https".toList := by
    show (Url.splitScheme _).1 = _
    rw [toList_tomlText, Url.splitScheme_append isScheme_https]
  rw [hparts] at hscheme
  exact hscheme.trans (by decide +kernel)

/-- The path and the user information of the URL for a domain without `?` and `#`. -/
theorem components_of_unmarked (hquery : '?' ∉ domain.toList) (hfragment : '#' ∉ domain.toList) :
    url.path.toList = Percent.encode Url.pathSafe
        (normalPath (domain.toList.dropWhile (· ≠ '/')) ++ tomlPath) ∧
      url.userinfo.toList = Percent.encode Url.userinfoSafe
        (Url.splitUserinfo (domain.toList.takeWhile (· ≠ '/'))).1 := by
  have hpath := h.made.path h.absolute.2
  have huserinfo := h.made.userinfo
  rw [parts_of_unmarked hquery hfragment] at hpath huserinfo
  rw [← normalPath_tomlPath (Url.isRooted_dropWhile _)]
  exact ⟨hpath, huserinfo⟩

theorem confined_of_asksToml (hasks : AsksToml (.ask url)) : Confined domain.toList := by
  obtain ⟨hpath, hnoQuery, hnoFragment, hnoUserinfo⟩ := hasks
  rw [h.parts_ofChars] at hpath hnoQuery hnoFragment hnoUserinfo
  obtain ⟨hquery, hfragment⟩ : '?' ∉ domain.toList ∧ '#' ∉ domain.toList :=
    unmarked_of_parts (Option.map_eq_none_iff.mp (h.made.query.symm.trans hnoQuery))
      (Option.map_eq_none_iff.mp (h.made.fragment.symm.trans hnoFragment))
  obtain ⟨hwritten, huserinfo⟩ := components_of_unmarked h hquery hfragment
  have hplain : normalPath (domain.toList.dropWhile (· ≠ '/')) ++ tomlPath = tomlPath :=
    Percent.eq_of_encode_eq (hwritten.symm.trans hpath) (by decide +kernel)
  have hnobody : url.userinfo = "" := by
    by_contra hsomebody
    exact hnoUserinfo ((Http.legible_of_target h.1).mem_authority_iff.mpr hsomebody)
  rw [hnobody] at huserinfo
  exact ⟨hquery, hfragment, List.append_left_eq_self.mp hplain,
    Url.splitUserinfo_fst_eq_nil_iff.mp (Percent.eq_of_encode_eq huserinfo.symm (by simp))⟩

theorem asksToml_of_confined (hconfined : Confined domain.toList) : AsksToml (.ask url) := by
  obtain ⟨hwritten, huserinfo⟩ := components_of_unmarked h hconfined.noQuery hconfined.noFragment
  have hquery := h.made.query
  have hfragment := h.made.fragment
  rw [parts_of_unmarked hconfined.noQuery hconfined.noFragment] at hquery hfragment
  have hsafe : ∀ c ∈ tomlPath, Url.pathSafe c = true := List.all_eq_true.mp (by decide +kernel)
  rw [hconfined.noPath, List.nil_append, Percent.encode_eq_self hsafe] at hwritten
  rw [Url.splitUserinfo_fst_eq_nil_iff.mpr hconfined.noUserinfo] at huserinfo
  have hnobody : url.userinfo = "" := String.toList_eq_nil_iff.mp huserinfo
  constructor <;> rw [h.parts_ofChars]
  · exact hwritten
  · exact hquery
  · exact hfragment
  · exact fun hmem => (Http.legible_of_target h.1).mem_authority_iff.mp hmem hnobody

end

/-! ## Lookups -/

/-- The first request of the lookup of a federation address, with any servers, is a GET over `https`, and
the domain is whole. The request asks for the `stellar.toml` of a host, without query, fragment and user
information, if and only if the domain is confined. -/
theorem toml_request_iff {address name domain : Str}
    (h : Address.parse address = .ok (some ⟨name, domain⟩)) (network : Network) :
    ∃ requests, network.Sends requests (resolve "https" address network).2 ∧
      ∀ request ∈ requests.head?, request.method = .get ∧
        (Parts.ofChars request.url.toList).scheme = "https".toList ∧
        ∃ text : String, domain = text ∧ (AsksToml request ↔ Confined text.toList) := by
  obtain ⟨requests, hlookup⟩ := exists_lookup h
  refine ⟨requests, hlookup.sends, fun request hfirst => ?_⟩
  obtain ⟨url, hgoes, rfl⟩ := hlookup.asked.head? hfirst
  obtain ⟨_, hwhole⟩ := hgoes.exists_whole
  obtain ⟨text, rfl⟩ := exists_whole_of_tomlUrl hwhole
  rw [tomlUrl_whole] at hgoes
  refine ⟨rfl, ?_, text, rfl, confined_of_asksToml hgoes, asksToml_of_confined hgoes⟩
  rw [hgoes.parts_ofChars]
  exact scheme_of_goes hgoes

/-- A domain with a path and a question mark leads to another resource of the host. -/
theorem questionMark_misleads : ∃ request : Request,
    (resolve "https" "bob*example.com/other?x=" { rules := [] }).2.sent = [request] ∧
      request.url = "https://example.com/other?x=/.well-known/stellar.toml" ∧ ¬ AsksToml request := by
  have hparse : Address.parse "bob*example.com/other?x=" = .ok (some ⟨"bob", "example.com/other?x="⟩) := by
    decide +kernel
  have hsent : (resolve "https" "bob*example.com/other?x=" { rules := [] }).2.sent =
      [⟨.get, "https://example.com/other?x=/.well-known/stellar.toml", ""⟩] := by
    decide +kernel
  obtain ⟨requests, hsends, hrequests⟩ := toml_request_iff hparse { rules := [] }
  have hlist : [] ++ requests = _ := hsends.sent.symm.trans hsent
  subst hlist
  refine ⟨_, hsent, rfl, fun hasks => ?_⟩
  obtain ⟨text, ⟨⟩, hiff⟩ := (hrequests _ rfl).2.2
  exact (hiff.mp hasks).noQuery (by decide +kernel)

end Paygate.Federation
