import Paygate.Proofs.Except
import Paygate.Proofs.Text.Ascii
import Paygate.Proofs.Text.Decimal
import Paygate.Proofs.Text.Splitting
import Paygate.Proofs.Url.Host
import Paygate.Proofs.Url.Path

/-!
# The text of a URL says what its components are

Encoding leaves no character in a component that could be taken for the end of it, so a reader who
splits the text of a URL at these characters gets the components back.

* `exists_parts`, `Parts.ofChars_append`: every text is put together from parts, and these are its parts.
* `Made`, `made_of_ofParts`: what is known of the URL of components as they stand.
* `Legible`, `Made.legible`: the components can be told from each other if scheme and authority could
  stand in a text.
* `Legible.ofChars_toText`: the text of an absolute URL has its components as parts.
-/

namespace Paygate.Url

/-! ## Splitting -/

/-- A part behind its sign, or nothing. -/
def marked (sign : Char) : Option (List Char) → List Char
  | some cs => sign :: cs
  | none => []

/-- A text that may stand where an authority stands. -/
structure IsAuthority (cs : List Char) : Prop where
  noPath : '/' ∉ cs
  noQuery : '?' ∉ cs
  noFragment : '#' ∉ cs

/-- A text that may stand where the path stands behind an authority. -/
structure IsPath (cs : List Char) : Prop where
  rooted : IsRooted cs
  noQuery : '?' ∉ cs
  noFragment : '#' ∉ cs

/-- A text that may stand where a scheme stands. -/
structure IsScheme (cs : List Char) : Prop where
  chars : ∀ c ∈ cs, isSchemeChar c = true
  initial : (cs.headD 'a').isAlpha = true

section

variable {scheme authority path rest : List Char} {query fragment : Option (List Char)}

theorem splitScheme_append (h : IsScheme scheme) : splitScheme (scheme ++ ':' :: rest) = (scheme, rest) := by
  have hcolon : isSchemeChar ':' = false := by decide
  have hrun : (scheme ++ ':' :: rest).takeWhile isSchemeChar = scheme := by
    rw [List.takeWhile_append_of_pos h.chars, List.takeWhile_cons_of_neg (by simp [hcolon]), List.append_nil]
  unfold splitScheme
  dsimp only
  rw [hrun, List.drop_left]
  exact if_pos h.initial

theorem splitAuthority_append (h : IsAuthority authority)
    (hrest : ∀ c, rest.head? = some c → c = '/' ∨ c = '?' ∨ c = '#') :
    splitAuthority ('/' :: '/' :: (authority ++ rest)) = (authority, rest) := by
  refine Text.span_append (fun c hc => ?_) fun c hc => ?_
  · have hslash : c ≠ '/' := ne_of_mem_of_not_mem hc h.noPath
    have hquery : c ≠ '?' := ne_of_mem_of_not_mem hc h.noQuery
    have hfragment : c ≠ '#' := ne_of_mem_of_not_mem hc h.noFragment
    simp [hslash, hquery, hfragment]
  · obtain rfl | rfl | rfl := hrest c hc <;> rfl

/-- Behind a path stands a query, a fragment or nothing. -/
theorem head?_marked {c : Char} (h : (marked '?' query ++ marked '#' fragment).head? = some c) :
    c = '?' ∨ c = '#' := by
  cases query with
  | some q => exact .inl (Option.some.inj h).symm
  | none =>
    cases fragment with
    | some f => exact .inr (Option.some.inj h).symm
    | none => cases h

theorem head?_path (hpath : IsPath path) {c : Char}
    (h : (path ++ (marked '?' query ++ marked '#' fragment)).head? = some c) :
    c = '/' ∨ c = '?' ∨ c = '#' := by
  rcases hpath.rooted with rfl | hslash
  · exact .inr (head?_marked h)
  · obtain ⟨path, rfl⟩ := List.head?_eq_some_iff.mp hslash
    exact .inl (Option.some.inj h).symm

theorem span_path (h : IsPath path) : (path ++ (marked '?' query ++ marked '#' fragment)).span
    (fun c => !(c = '?' || c = '#')) = (path, marked '?' query ++ marked '#' fragment) := by
  refine Text.span_append (fun c hc => ?_) fun c hc => ?_
  · have hquery : c ≠ '?' := ne_of_mem_of_not_mem hc h.noQuery
    have hfragment : c ≠ '#' := ne_of_mem_of_not_mem hc h.noFragment
    simp [hquery, hfragment]
  · obtain rfl | rfl := head?_marked hc <;> rfl

/-- The parts of a text that is put together from them. -/
theorem Parts.ofChars_append (hscheme : IsScheme scheme) (hauthority : IsAuthority authority)
    (hpath : IsPath path) (hquery : ∀ cs ∈ query, '#' ∉ cs) :
    Parts.ofChars (scheme ++ ':' :: '/' :: '/' ::
      (authority ++ (path ++ (marked '?' query ++ marked '#' fragment)))) =
        { scheme, authority, path, query, fragment } := by
  unfold Parts.ofChars
  rw [splitScheme_append hscheme]
  dsimp only
  rw [splitAuthority_append hauthority fun c hc => head?_path hpath hc]
  dsimp only
  rw [span_path hpath]
  cases query with
  | none => cases fragment <;> rfl
  | some q =>
    have hfree : ∀ c ∈ q, decide (c ≠ '#') = true := fun c hc =>
      decide_eq_true (ne_of_mem_of_not_mem hc (hquery q rfl))
    have htake : (q ++ marked '#' fragment).takeWhile (· ≠ '#') = q := by
      rw [List.takeWhile_append_of_pos hfree]
      cases fragment <;> simp [marked]
    have hdrop : (q ++ marked '#' fragment).dropWhile (· ≠ '#') = marked '#' fragment := by
      rw [List.dropWhile_append_of_pos hfree]
      cases fragment <;> simp [marked]
    have hmarked : marked '?' (some q) ++ marked '#' fragment = '?' :: (q ++ marked '#' fragment) := rfl
    rw [hmarked]
    simp only [htake, hdrop]
    cases fragment <;> rfl

end

/-- Every text is put together from parts. -/
theorem exists_parts (cs : List Char) : ∃ authority path query fragment, IsAuthority authority ∧
    IsPath path ∧ (∀ q ∈ query, '#' ∉ q) ∧
      cs = authority ++ (path ++ (marked '?' query ++ marked '#' fragment)) := by
  obtain ⟨authority, behind, rfl, hauthority, hbehind⟩ :=
    Text.exists_run (fun c => !(c = '/' || c = '?' || c = '#')) cs
  obtain ⟨path, signs, rfl, hpath, hsigns⟩ := Text.exists_run (fun c => !(c = '?' || c = '#')) behind
  have hisAuthority : IsAuthority authority := ⟨fun h => by simpa using hauthority _ h,
    fun h => by simpa using hauthority _ h, fun h => by simpa using hauthority _ h⟩
  have hisPath : IsPath path := by
    refine ⟨?_, fun h => by simpa using hpath _ h, fun h => by simpa using hpath _ h⟩
    cases path with
    | nil => exact .inl rfl
    | cons c path =>
      have hout := hpath c List.mem_cons_self
      have hhead := hbehind c rfl
      simp_all [IsRooted]
  refine ⟨authority, path, ?_⟩
  cases signs with
  | nil => exact ⟨none, none, hisAuthority, hisPath, by simp, by simp [marked]⟩
  | cons sign rest =>
    have hsign := hsigns sign rfl
    obtain rfl | rfl : sign = '?' ∨ sign = '#' := by simpa [or_iff_not_imp_left] using hsign
    · obtain ⟨query, fragment, rfl, hquery, hfragment⟩ := Text.exists_run (fun c => c ≠ '#') rest
      have hfree : '#' ∉ query := fun h => by simpa using hquery _ h
      cases fragment with
      | nil => exact ⟨some query, none, hisAuthority, hisPath, by simpa using hfree, by simp [marked]⟩
      | cons c fragment =>
        obtain rfl : c = '#' := by simpa using hfragment c rfl
        exact ⟨some query, some fragment, hisAuthority, hisPath, by simpa using hfree, by simp [marked]⟩
    · exact ⟨none, some rest, hisAuthority, hisPath, by simp, by simp [marked]⟩

/-! ## Components -/

theorem toNat_lt_of_isSchemeChar {c : Char} (h : isSchemeChar c = true) : c.toNat < 128 := by
  simp only [isSchemeChar, Bool.or_eq_true, decide_eq_true_eq] at h
  obtain ((h | rfl) | rfl) | rfl := h
  · have hrows := Ascii.toNat_of_isAlphanum h
    omega
  all_goals decide

theorem isSchemeChar_toLower {c : Char} (h : isSchemeChar c = true) : isSchemeChar c.toLower = true := by
  have hall : ∀ n < 128, isSchemeChar (Char.ofNat n) = true →
      isSchemeChar (Char.ofNat n).toLower = true := by decide +kernel
  exact Ascii.forall_ascii (P := fun c => isSchemeChar c = true → isSchemeChar c.toLower = true) hall
    (toNat_lt_of_isSchemeChar h) h

theorem isAlpha_toLower {c : Char} (hc : c.toNat < 128) (h : c.isAlpha = true) :
    c.toLower.isAlpha = true := by
  have hall : ∀ n < 128, (Char.ofNat n).isAlpha = true → (Char.ofNat n).toLower.isAlpha = true := by
    decide +kernel
  exact Ascii.forall_ascii (P := fun c => c.isAlpha = true → c.toLower.isAlpha = true) hall hc h

theorem IsScheme.nil : IsScheme [] := ⟨by simp, rfl⟩

theorem IsScheme.toLower {scheme : List Char} (h : IsScheme scheme) : IsScheme (scheme.map Char.toLower) where
  chars c hc := by
    obtain ⟨d, hd, rfl⟩ := List.mem_map.mp hc
    exact isSchemeChar_toLower (h.chars d hd)
  initial := by
    cases scheme with
    | nil => rfl
    | cons c cs => exact isAlpha_toLower (toNat_lt_of_isSchemeChar (h.chars c List.mem_cons_self)) h.initial

/-- User information stands before the last `@`. -/
theorem splitUserinfo_append (userinfo : List Char) {host : List Char} (h : '@' ∉ host) :
    splitUserinfo (userinfo ++ '@' :: host) = (userinfo, host) := by
  have hlast := Text.span_reverse_last userinfo h
  rw [List.span_eq_takeWhile_dropWhile, Prod.mk.injEq] at hlast
  unfold splitUserinfo
  have hlength : userinfo.length + (host.length + 1) - host.length - 1 = userinfo.length := by omega
  rw [if_pos (by simp), hlast.1]
  simp [hlength]

theorem splitUserinfo_of_not_mem {cs : List Char} (h : '@' ∉ cs) : splitUserinfo cs = ([], cs) := by
  unfold splitUserinfo
  rw [if_neg (by simpa using h)]

theorem splitUserinfo_snd (cs : List Char) :
    '@' ∉ (splitUserinfo cs).2 ∧ (splitUserinfo cs).2 ⊆ cs := by
  by_cases h : '@' ∈ cs
  · obtain ⟨userinfo, host, rfl, hhost⟩ := Text.exists_last h
    rw [splitUserinfo_append userinfo hhost]
    exact ⟨hhost, fun c hc => by simp [hc]⟩
  · rw [splitUserinfo_of_not_mem h]
    exact ⟨h, List.Subset.refl cs⟩

/-- There is user information unless the only `@`, if any, comes first. -/
theorem splitUserinfo_fst_eq_nil_iff {cs : List Char} :
    (splitUserinfo cs).1 = [] ↔ '@' ∉ cs.drop 1 := by
  by_cases h : '@' ∈ cs
  · obtain ⟨userinfo, host, rfl, hhost⟩ := Text.exists_last h
    rw [splitUserinfo_append userinfo hhost]
    cases userinfo with
    | nil => simpa using hhost
    | cons c userinfo => simp
  · rw [splitUserinfo_of_not_mem h]
    exact iff_of_true rfl fun hmem => h (List.mem_of_mem_drop hmem)

theorem splitHost_fst_subset (cs : List Char) : (splitHost cs).1 ⊆ cs := by
  have hplain : (cs.span fun c => !(c = ':' || c = '@')).1 ⊆ cs := by
    rw [List.span_eq_takeWhile_dropWhile]
    exact List.takeWhile_subset _
  have hplace : ∀ after : List Char, (if cs.head? = some '[' && cs.contains ']' then
      (cs.take (cs.length - after.length), after)
      else cs.span fun c => !(c = ':' || c = '@')).1 ⊆ cs := by
    intro after
    split
    · exact List.take_subset _ _
    · exact hplain
  unfold splitHost
  dsimp only
  split <;> exact hplace _

/-! ## The URL of components -/

theorem isRooted_of_pathError? {hasScheme : Bool} {path : List Char}
    (h : pathError? hasScheme true path = none) :
    IsRooted path := by
  unfold pathError? at h
  rw [if_pos rfl] at h
  split at h
  · rename_i hpath
    simpa [IsRooted] using hpath
  · cases h

/-- What is known of the URL of components as they stand. -/
structure Made (parts : Parts) (url : Url) : Prop where
  scheme : url.scheme.toList = parts.scheme.map Char.toLower
  userinfo : url.userinfo.toList = Percent.encode userinfoSafe (splitUserinfo parts.authority).1
  host : normalHost (parts.host.getD (splitHost (splitUserinfo parts.authority).2).1) =
    .ok url.host.toList
  rooted : url.host ≠ "" → IsRooted parts.path
  path : url.host ≠ "" → url.path.toList = Percent.encode pathSafe (normalPath parts.path)
  query : url.query.map String.toList = parts.query.map (Percent.encode querySafe)
  fragment : url.fragment.map String.toList = parts.fragment.map (Percent.encode fragmentSafe)

theorem made_of_ofParts {parts : Parts} {url : Url} (h : ofParts parts = .ok url) : Made parts url := by
  unfold ofParts at h
  simp only [bind_eq_ok] at h
  obtain ⟨host, hhost, portNumber, -, h⟩ := h
  split at h
  · cases h
  · rename_i hpath
    cases h
    -- a host makes an authority
    have hplace : String.ofList host ≠ "" → host.isEmpty = false := by simp
    refine ⟨by simp, by simp, by simpa using hhost, fun hne => ?_, fun hne => ?_, ?_, ?_⟩
    · simp only [hplace hne, Bool.not_false, Bool.or_true, Bool.true_or] at hpath
      exact isRooted_of_pathError? hpath
    · simp [hplace hne]
    · cases parts.query <;> simp
    · cases parts.fragment <;> simp

/-! ## Legible URLs -/

/-- The components of a URL can be told from each other in its text. -/
structure Legible (url : Url) : Prop where
  scheme : IsScheme url.scheme.toList
  userinfo : Undivided url.userinfo.toList
  host : Undivided url.host.toList
  path : url.host ≠ "" → IsPath url.path.toList
  query : ∀ query ∈ url.query, '#' ∉ query.toList

theorem undivided_location {url : Url} (h : Undivided url.host.toList) :
    Undivided url.location.toList := by
  have hnumber : ∀ n : Int, Undivided (toString n).toList := by
    intro n c hc
    have hdigits : ∀ d ∈ dividers, d.isDigit = false := forall_dividers.mpr (by decide)
    rcases Text.mem_toString_int hc with rfl | hdigit
    · decide
    · exact not_mem_dividers hdigits hdigit
  unfold location
  rw [String.toList_append]
  refine Undivided.append ?_ ?_
  · split
    · rw [String.toList_append, String.toList_append]
      exact ((by decide : Undivided "[".toList).append h).append (by decide)
    · exact h
  · split
    · rw [String.toList_append]
      exact (by decide : Undivided ":".toList).append (hnumber _)
    · exact .nil

theorem toList_authority (url : Url) : url.authority.toList =
    (if url.userinfo = "" then [] else url.userinfo.toList ++ ['@']) ++ url.location.toList := by
  unfold authority
  rw [String.toList_append]
  by_cases h : url.userinfo = "" <;> simp [h]

theorem Legible.isAuthority {url : Url} (h : Legible url) : IsAuthority url.authority.toList := by
  have hbefore : ∀ c ∈ url.authority.toList, c = '@' ∨ c ∉ dividers := by
    intro c hc
    rw [toList_authority, List.mem_append] at hc
    rcases hc with hc | hc
    · split at hc
      · cases hc
      · rcases List.mem_append.mp hc with hc | hc
        · exact .inr (h.userinfo c hc)
        · exact .inl (List.mem_singleton.mp hc)
    · exact .inr (undivided_location h.host c hc)
  have hnone : ∀ d ∈ dividers, d ≠ '@' → d ∉ url.authority.toList := by
    intro d hd hne hmem
    exact (hbefore d hmem).elim hne fun hout => hout hd
  exact ⟨hnone '/' (by decide) (by decide), hnone '?' (by decide) (by decide),
    hnone '#' (by decide) (by decide)⟩

/-- An authority has an `@` if and only if there is user information. -/
theorem Legible.mem_authority_iff {url : Url} (h : Legible url) :
    '@' ∈ url.authority.toList ↔ url.userinfo ≠ "" := by
  have hlocation : '@' ∉ url.location.toList := fun hmem =>
    undivided_location h.host '@' hmem (by decide)
  rw [toList_authority]
  split <;> simp_all

theorem IsRooted.encode {path : List Char} (h : IsRooted path) :
    IsRooted (Percent.encode pathSafe path) := by
  rcases h with rfl | hslash
  · exact .inl rfl
  · obtain ⟨rest, rfl⟩ := List.head?_eq_some_iff.mp hslash
    exact .inr rfl

/-- The URL of components is legible if its scheme and its authority could stand in a text. -/
theorem Made.legible {parts : Parts} {url : Url} (h : Made parts url) (hscheme : IsScheme parts.scheme)
    (hauthority : IsAuthority parts.authority) (hown : parts.host = none) : Legible url where
  scheme := h.scheme ▸ hscheme.toLower
  userinfo := h.userinfo ▸ Percent.undivided_encode (forall_dividers.mpr (by decide)) _
  host := by
    have hhost := h.host
    rw [hown, Option.getD_none] at hhost
    refine undivided_normalHost (fun c hc => ?_) hhost
    have hrest := splitHost_fst_subset _ hc
    have hmem := (splitUserinfo_snd parts.authority).2 hrest
    have hne : c ≠ '@' := ne_of_mem_of_not_mem hrest (splitUserinfo_snd parts.authority).1
    simpa [dividers, hne] using ⟨ne_of_mem_of_not_mem hmem hauthority.noPath,
      ne_of_mem_of_not_mem hmem hauthority.noQuery, ne_of_mem_of_not_mem hmem hauthority.noFragment⟩
  path hne := by
    rw [h.path hne]
    exact ⟨(rooted_normalPath (h.rooted hne)).encode,
      Percent.not_mem_encode (by decide) (by decide) (by decide),
      Percent.not_mem_encode (by decide) (by decide) (by decide)⟩
  query := by
    intro query hquery
    have hencoded := h.query
    rw [Option.mem_def.mp hquery, Option.map_some, eq_comm, Option.map_eq_some_iff] at hencoded
    obtain ⟨q, -, hq⟩ := hencoded
    rw [← hq]
    exact Percent.not_mem_encode (by decide) (by decide) (by decide)

/-- The parts of a text are such that they could stand in it. -/
theorem Parts.isScheme_ofChars (cs : List Char) : IsScheme (Parts.ofChars cs).scheme := by
  show IsScheme (splitScheme cs).1
  unfold splitScheme
  dsimp only
  split
  · split
    · rename_i hinitial
      exact ⟨fun c hc => List.mem_takeWhile_imp hc, hinitial⟩
    · exact .nil
  · exact .nil

theorem Parts.isAuthority_ofChars (cs : List Char) : IsAuthority (Parts.ofChars cs).authority := by
  show IsAuthority (splitAuthority (splitScheme cs).2).1
  unfold splitAuthority
  split
  · rw [List.span_eq_takeWhile_dropWhile]
    exact ⟨fun hc => by simpa using List.mem_takeWhile_imp hc,
      fun hc => by simpa using List.mem_takeWhile_imp hc,
      fun hc => by simpa using List.mem_takeWhile_imp hc⟩
  · exact ⟨by simp, by simp, by simp⟩

theorem legible_of_parse {text : String} {url : Url} (h : parse text = .ok url) : Legible url := by
  unfold parse at h
  dsimp only at h
  split at h
  · cases h
  · split at h
    · cases h
    · exact (made_of_ofParts h).legible (Parts.isScheme_ofChars _) (Parts.isAuthority_ofChars _) rfl

theorem made_of_rebuild {parts : Parts} {url : Url} (h : rebuild parts = .ok url) : Made parts url := by
  unfold rebuild at h
  split at h
  · cases h
  · exact made_of_ofParts h

theorem Legible.withQuery {url url' : Url} {query : List Char} (h : Legible url)
    (hquery : url.withQuery query = .ok url') : Legible url' :=
  (made_of_rebuild hquery).legible h.scheme h.isAuthority rfl

theorem Legible.rooted {url url' : Url} (h : Legible url) (hrooted : url.rooted = .ok url') :
    Legible url' := by
  unfold Url.rooted at hrooted
  split at hrooted
  · cases hrooted
    exact h
  · exact (made_of_rebuild hrooted).legible .nil ⟨by simp, by simp, by simp⟩ rfl

/-! ## Texts -/

theorem toList_location_ne_nil {url : Url} (h : url.host ≠ "") : url.location.toList ≠ [] := by
  unfold location
  split <;> simp [h]

/-- The text of a URL that says by itself where to go has its components as parts. -/
theorem Legible.ofChars_toText {url : Url} (h : Legible url) (hscheme : url.scheme ≠ "")
    (hhost : url.host ≠ "") : Parts.ofChars url.toText.toList = url.parts := by
  have hauthority : url.authority ≠ "" := by
    intro hempty
    have hlist := toList_authority url
    rw [hempty, eq_comm] at hlist
    exact toList_location_ne_nil hhost (List.append_eq_nil_iff.mp hlist).2
  have htext : url.toText.toList = url.scheme.toList ++ ':' :: '/' :: '/' :: (url.authority.toList ++
      (url.path.toList ++ (marked '?' (url.query.map String.toList) ++
        marked '#' (url.fragment.map String.toList)))) := by
    unfold toText
    cases url.query <;> cases url.fragment <;> simp [hscheme, hauthority, marked]
  have hquery : ∀ cs ∈ url.query.map String.toList, '#' ∉ cs := by
    intro cs hcs
    obtain ⟨query, hquery, rfl⟩ := Option.map_eq_some_iff.mp hcs
    exact h.query query hquery
  rw [htext, Parts.ofChars_append h.scheme h.isAuthority (h.path hhost) hquery]
  rfl

end Paygate.Url
