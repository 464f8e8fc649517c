import Paygate.Proofs.Http.Asking
import Paygate.Proofs.Url.Text

/-!
# The URL of a request

The address of a request is read, taken from the root if it says nothing else, and gets the parameters as
its query. What is sent is the text of that URL, and it says what the components are. A broken text can stand
neither in the address nor in a parameter.

* `wholePairs_eq_ok_iff`: which parameters can be sent.
* `target_cases`: the steps from an address to the URL that is asked.
* `Goes.parts_ofChars`: the text that is sent has the components of the URL as parts.
* `Goes.query`: its query are the parameters, if there are any.
* `Goes.made`: without parameters the URL is that of the parts of the address.
-/

namespace Paygate

namespace Percent

theorem querySafe_of_isUnreserved {c : Char} (h : isUnreserved c = true) : Url.querySafe c = true := by
  have hall : ∀ n < 128, isUnreserved (Char.ofNat n) = true → Url.querySafe (Char.ofNat n) = true := by
    decide +kernel
  exact Ascii.forall_ascii (P := fun c => isUnreserved c = true → Url.querySafe c = true) hall
    (unreserved_props h).1 h

theorem querySafe_formEncode (s : String) : ∀ c ∈ formEncode s, Url.querySafe c = true := by
  have hdigit : ∀ n < 16, Url.querySafe (Hex.upperDigit n) = true := by decide
  intro c hc
  obtain ⟨d, -, hc⟩ := List.mem_flatMap.mp hc
  unfold formChar at hc
  split at hc
  · rename_i hsafe
    obtain rfl := List.mem_singleton.mp hc
    exact querySafe_of_isUnreserved hsafe
  · split at hc
    · obtain rfl := List.mem_singleton.mp hc
      decide
    · obtain rfl | ⟨n, hn, rfl⟩ := mem_encodeChar hc
      · decide
      · exact hdigit n hn

/-- Pairs are written with characters that stand for themselves in a query. -/
theorem querySafe_formPairs (pairs : List (String × String)) :
    ∀ c ∈ formPairs pairs, Url.querySafe c = true := by
  have hpair : ∀ pair, ∀ c ∈ formPair pair, Url.querySafe c = true := by
    intro pair c hc
    rcases List.mem_append.mp hc with hname | hvalue
    · exact querySafe_formEncode _ c hname
    · rcases List.mem_cons.mp hvalue with rfl | hvalue
      · decide
      · exact querySafe_formEncode _ c hvalue
  induction pairs with
  | nil => exact List.forall_mem_nil _
  | cons pair rest ih =>
    cases rest with
    | nil => exact hpair pair
    | cons next rest =>
      intro c hc
      rcases List.mem_append.mp hc with hfirst | hrest
      · exact hpair pair c hfirst
      · rcases List.mem_cons.mp hrest with rfl | hrest
        · decide
        · exact ih c hrest

end Percent

theorem Url.made_of_parse {text : String} {url : Url} (h : parse text = .ok url) :
    Made (Parts.ofChars text.toList) url := by
  unfold parse at h
  dsimp only at h
  split at h
  · cases h
  · split at h
    · cases h
    · exact made_of_ofParts h

namespace Http

variable {address : Str} {parameters : List (String × Str)} {url : Url}

/-- Pairs of a name and a text that is whole. -/
def ofWhole (pairs : List (String × String)) : List (String × Str) :=
  pairs.map fun (name, value) => (name, .whole value)

theorem wholePair_eq_ok_iff {parameter : String × Str} {pair : String × String} :
    wholePair parameter = .ok pair ↔ parameter = (pair.1, .whole pair.2) := by
  obtain ⟨name, value | value⟩ := parameter
  · simp [wholePair, Prod.ext_iff]
  · simp [wholePair]

theorem wholePairs_eq_ok_iff {pairs : List (String × String)} :
    wholePairs parameters = .ok pairs ↔ parameters = ofWhole pairs := by
  rw [wholePairs, mapM_eq_ok, ofWhole, ← List.forall₂_eq_eq_eq, List.forall₂_map_right_iff]
  simp only [wholePair_eq_ok_iff]

theorem urlOf_eq_ok_iff :
    urlOf address = .ok url ↔ ∃ text, address = .whole text ∧ Url.parse text = .ok url := by
  cases address with
  | whole text => simp [urlOf, Redirect.orUrl, mapError_eq_ok]
  | broken text => simp [urlOf]

/-- The last steps look at the URL and do not change it. -/
theorem target_cases (h : target address parameters = .ok url) : ∃ text parsed rooted,
    address = .whole text ∧ Url.parse text = .ok parsed ∧ parsed.rooted = .ok rooted ∧
      if parameters = [] then url = rooted
      else ∃ pairs, parameters = ofWhole pairs ∧ rooted.withQuery (Percent.formPairs pairs) = .ok url := by
  obtain ⟨parsed, hparsed, h⟩ := bind_eq_ok.mp h
  obtain ⟨rooted, hrooted, h⟩ := bind_eq_ok.mp h
  obtain ⟨text, htext, hparsed⟩ := urlOf_eq_ok_iff.mp hparsed
  refine ⟨text, parsed, rooted, htext, hparsed, mapError_eq_ok.mp hrooted, ?_⟩
  have hsame : ∀ {asked : Url}, (do
      let _ ← Redirect.hostOf asked
      if !asked.host.isEmpty && asked.location.toList.any (128 ≤ ·.toNat) then
        throw (.notAscii asked.location.toList)
      pure asked : Except Fault Url) = .ok url → asked = url := by
    intro asked h
    obtain ⟨_, -, h⟩ := bind_eq_ok.mp h
    split at h
    · cases h
    · cases h
      rfl
  dsimp only at h
  split at h
  · rename_i hempty
    rw [if_pos (List.isEmpty_iff.mp hempty)]
    exact (hsame h).symm
  · rename_i hsome
    rw [if_neg fun hempty => hsome (List.isEmpty_iff.mpr hempty)]
    obtain ⟨pairs, hpairs, h⟩ := bind_eq_ok.mp h
    obtain ⟨asked, hasked, h⟩ := bind_eq_ok.mp h
    obtain rfl := hsame h
    exact ⟨pairs, wholePairs_eq_ok_iff.mp hpairs, mapError_eq_ok.mp hasked⟩

theorem legible_of_target (h : target address parameters = .ok url) : url.Legible := by
  obtain ⟨_, parsed, rooted, -, hparsed, hrooted, hlast⟩ := target_cases h
  have hlegible := (Url.legible_of_parse hparsed).rooted hrooted
  split at hlast
  · exact hlast ▸ hlegible
  · obtain ⟨pairs, -, hquery⟩ := hlast
    exact hlegible.withQuery hquery

namespace Goes

/-- Only a URL with a scheme and a host is sent to anyone. -/
theorem absolute (h : Goes address parameters url) : url.scheme ≠ "" ∧ url.host ≠ "" := by
  have hrefusal := h.2
  unfold refusal? at hrefusal
  split at hrefusal
  · cases hrefusal
  · rename_i hboth
    simpa using hboth

/-- The text that is sent has the components of the URL as parts. -/
theorem parts_ofChars (h : Goes address parameters url) :
    Url.Parts.ofChars (Request.ask url).url.toList = url.parts :=
  (legible_of_target h.1).ofChars_toText h.absolute.1 h.absolute.2

/-- The address is whole. -/
theorem exists_whole (h : Goes address parameters url) : ∃ text : String, address = text := by
  obtain ⟨text, _, _, htext, -⟩ := target_cases h.1
  exact ⟨text, htext⟩

/-- The parameters are whole, and they are the query, as they are written. -/
theorem query (h : Goes address parameters url) (hne : parameters ≠ []) :
    ∃ pairs, parameters = ofWhole pairs ∧ url.parts.query = some (Percent.formPairs pairs) := by
  obtain ⟨_, parsed, rooted, -, -, -, hlast⟩ := target_cases h.1
  rw [if_neg hne] at hlast
  obtain ⟨pairs, hpairs, hlast⟩ := hlast
  have hquery := (Url.made_of_rebuild hlast).query
  rw [Option.map_some, Percent.encode_eq_self (Percent.querySafe_formPairs pairs)] at hquery
  exact ⟨pairs, hpairs, hquery⟩

/-- Without parameters the URL is that of the parts of the address. -/
theorem made {text : String} (h : Goes text [] url) : Url.Made (Url.Parts.ofChars text.toList) url := by
  obtain ⟨_, parsed, rooted, ⟨⟩, hparsed, hrooted, hlast⟩ := target_cases h.1
  obtain rfl : url = rooted := by simpa using hlast
  unfold Url.rooted at hrooted
  split at hrooted
  · cases hrooted
    exact Url.made_of_parse hparsed
  · -- a URL from the root alone has no scheme
    have hscheme := (Url.made_of_rebuild hrooted).scheme
    exact absurd (String.toList_eq_nil_iff.mp hscheme) h.absolute.1

end Goes

end Http

end Paygate
