import Paygate.Proofs.Except
import Paygate.Proofs.Url.FormEncoding
import Paygate.Url.Basic

/-!
# Characters of hosts

A host in its normal form has none of the characters that divide a URL, provided that the text of the
host had none. In percent encoding they do not stand for themselves, the digits of Punycode are letters and
numbers, and a label outside ASCII has letters of hosts alone.

* `Url.dividers`, `Url.Undivided`: these characters, and texts without them.
* `Percent.undivided_encode`, `Idna.undivided_encode`: encoded texts and hosts.
* `Url.undivided_normalHost`: hosts in their normal form.
-/

namespace Paygate

namespace Url

/-- The characters that end an authority or stand behind user information. -/
def dividers : List Char := ['/', '?', '#', '@']

/-- No character of the text divides a URL. -/
def Undivided (cs : List Char) : Prop := ∀ c ∈ cs, c ∉ dividers

variable {cs xs ys : List Char}

-- by the characters of the text, since there is an instance that goes through all characters
instance : Decidable (Undivided cs) := List.decidableBAll _ cs

theorem forall_dividers {P : Char → Prop} : (∀ d ∈ dividers, P d) ↔ P '/' ∧ P '?' ∧ P '#' ∧ P '@' := by
  simp [dividers]

theorem Undivided.nil : Undivided [] := List.forall_mem_nil _

theorem Undivided.append (hx : Undivided xs) (hy : Undivided ys) : Undivided (xs ++ ys) := by
  intro c hc
  exact (List.mem_append.mp hc).elim (hx c) (hy c)

theorem Undivided.of_subset (h : Undivided ys) (hsub : xs ⊆ ys) : Undivided xs :=
  fun c hc => h c (hsub hc)

/-- Characters of a class that has no divider. -/
theorem not_mem_dividers {p : Char → Bool} {c : Char} (hp : ∀ d ∈ dividers, p d = false)
    (h : p c = true) : c ∉ dividers := by
  intro hc
  rw [hp c hc] at h
  cases h

end Url

open Url (Undivided not_mem_dividers)

/-! ## Percent encoding -/

namespace Percent

/-- What stands for a character is the character itself, if it is safe, or a percent sign and digits. -/
theorem mem_encode {safe : Char → Bool} {cs : List Char} {c : Char} (h : c ∈ encode safe cs) :
    c ∈ cs ∧ safe c = true ∨ c = '%' ∨ ∃ n < 16, c = Hex.upperDigit n := by
  obtain ⟨d, hd, hc⟩ := List.mem_flatMap.mp h
  split at hc
  · rename_i hsafe
    obtain rfl := List.mem_singleton.mp hc
    exact .inl ⟨hd, hsafe⟩
  · exact .inr (mem_encodeChar hc)

theorem encode_eq_self {safe : Char → Bool} {cs : List Char} (h : ∀ c ∈ cs, safe c = true) :
    encode safe cs = cs := by
  induction cs with
  | nil => rfl
  | cons c cs ih =>
    obtain ⟨hc, hcs⟩ := List.forall_mem_cons.mp h
    rw [encode, List.flatMap_cons, if_pos hc, List.singleton_append]
    exact congrArg (c :: ·) (ih hcs)

theorem percent_mem_encodeChar (c : Char) : '%' ∈ encodeChar c := by
  have hlength : 0 < (String.utf8EncodeChar c).length := by
    rw [String.length_utf8EncodeChar]
    exact c.utf8Size_pos
  obtain ⟨b, bytes, hbytes⟩ := List.exists_cons_of_length_pos hlength
  rw [encodeChar_eq, hbytes]
  exact List.mem_append_left _ List.mem_cons_self

/-- A text without percent signs is written only for itself. -/
theorem eq_of_encode_eq {safe : Char → Bool} {cs plain : List Char} (h : encode safe cs = plain)
    (hplain : '%' ∉ plain) : cs = plain := by
  have hsafe : ∀ c ∈ cs, safe c = true := by
    intro c hc
    by_contra hunsafe
    refine hplain (h ▸ List.mem_flatMap.mpr ⟨c, hc, ?_⟩)
    rw [if_neg hunsafe]
    exact percent_mem_encodeChar c
  rwa [encode_eq_self hsafe] at h

/-- A character that is neither safe nor a sign of the encoding does not come out of it. -/
theorem not_mem_encode {safe : Char → Bool} {cs : List Char} {c : Char} (hsafe : safe c = false)
    (hpercent : c ≠ '%') (hdigit : ∀ n < 16, c ≠ Hex.upperDigit n) : c ∉ encode safe cs := by
  intro h
  obtain ⟨-, hc⟩ | rfl | ⟨n, hn, rfl⟩ := mem_encode h
  · rw [hsafe] at hc
    cases hc
  · exact hpercent rfl
  · exact hdigit n hn rfl

theorem undivided_encode {safe : Char → Bool} (hsafe : ∀ d ∈ Url.dividers, safe d = false)
    (cs : List Char) : Undivided (encode safe cs) := by
  have hsigns : ∀ d ∈ Url.dividers, d ≠ '%' ∧ ∀ n < 16, d ≠ Hex.upperDigit n :=
    Url.forall_dividers.mpr (by decide)
  intro c hc hd
  exact not_mem_encode (hsafe c hd) (hsigns c hd).1 (hsigns c hd).2 hc

end Percent

/-! ## Punycode -/

namespace Punycode

/-- The text consists of the digits of numbers. -/
def AreDigits (cs : List Char) : Prop := ∀ c ∈ cs, ∃ d < 36, c = digit d

theorem threshold_le (place bias : Nat) : threshold place bias ≤ 26 := Nat.min_le_left _ _

theorem areDigits_writeNumber (bias place n : Nat) : AreDigits (writeNumber bias place n) := by
  induction n using Nat.strongRecOn generalizing place with
  | ind n ih =>
    have hle := threshold_le place bias
    have hone := one_le_threshold place bias
    intro c hc
    rw [writeNumber] at hc
    split at hc
    · rename_i hlt
      exact ⟨n, by omega, List.mem_singleton.mp hc⟩
    · rename_i hge
      have hmod := Nat.mod_lt (n - threshold place bias) (by omega : 0 < 36 - threshold place bias)
      rcases List.mem_cons.mp hc with rfl | hrest
      · exact ⟨_, by omega, rfl⟩
      · have hsmaller := Nat.div_le_self (n - threshold place bias) (36 - threshold place bias)
        exact ih _ (by omega) _ c hrest

theorem areDigits_pass {basic code : Nat} {w : Writing} (h : AreDigits w.done) (c : Char) :
    AreDigits (w.pass basic code c).done := by
  unfold Writing.pass
  split
  · exact h
  · split
    · intro d hd
      rcases List.mem_append.mp hd with hnew | hold
      · exact areDigits_writeNumber _ _ _ d (List.mem_reverse.mp hnew)
      · exact h d hold
    · exact h

theorem areDigits_foldl {basic code : Nat} (cs : List Char) {w : Writing} (h : AreDigits w.done) :
    AreDigits (cs.foldl (Writing.pass basic code) w).done := by
  induction cs generalizing w with
  | nil => exact h
  | cons c cs ih => exact ih (areDigits_pass h c)

theorem areDigits_writeCodes (cs : List Char) (basic : Nat) {codes : List Nat} {code : Nat} {w : Writing}
    (h : AreDigits w.done) : AreDigits (writeCodes cs basic codes code w).done := by
  induction codes generalizing code w with
  | nil => exact h
  | cons next codes ih => exact ih (areDigits_foldl cs h)

/-- What is written for a text are ASCII characters of it, a hyphen and digits. -/
theorem mem_encode {cs : List Char} {c : Char} (h : c ∈ encode cs) :
    c ∈ cs ∨ c = '-' ∨ ∃ d < 36, c = digit d := by
  rcases List.mem_append.mp h with hbasic | hdone
  · split at hbasic
    · cases hbasic
    · rcases List.mem_append.mp hbasic with hbasic | hhyphen
      · exact .inl (List.mem_filter.mp hbasic).1
      · exact .inr (.inl (List.mem_singleton.mp hhyphen))
  · have hdigits : AreDigits ([] : List Char) := List.forall_mem_nil _
    exact .inr (.inr (areDigits_writeCodes _ _ hdigits c (List.mem_reverse.mp hdone)))

theorem undivided_encode {cs : List Char} (h : Undivided cs) : Undivided (encode cs) := by
  have hdigit : ∀ d < 36, digit d ∉ Url.dividers := by decide
  intro c hc
  obtain hc | rfl | ⟨d, hd, rfl⟩ := mem_encode hc
  · exact h c hc
  · decide
  · exact hdigit d hd

end Punycode

/-! ## Labels -/

namespace Idna

/-- A character of a label is a letter of hosts or one that a context allows. -/
def isAllowed (c : Char) : Bool := Url.hostLetter.contains c || isJoiner c || needsContext c

theorem isAllowed_of_letterError {label before rest : List Char}
    (h : letterError? label before rest = none) : ∀ c ∈ rest, isAllowed c = true := by
  induction rest generalizing before with
  | nil => exact List.forall_mem_nil _
  | cons c rest ih =>
    have hboth : isAllowed c = true ∧ letterError? label (c :: before) rest = none := by
      unfold letterError? at h
      dsimp only at h
      unfold isAllowed
      split at h
      · rename_i hletter
        exact ⟨by simp [hletter], h⟩
      · split at h
        · rename_i hjoiner
          split at h
          · exact ⟨by simp [hjoiner], h⟩
          · cases h
        · split at h
          · rename_i hcontext
            split at h
            · exact ⟨by simp [hcontext], h⟩
            · cases h
          · cases h
    exact List.forall_mem_cons.mpr ⟨hboth.1, ih hboth.2⟩

theorem undivided_checked {label checkedLabel : List Char} (h : checked label = .ok checkedLabel) :
    Undivided label := by
  have hnone : labelError? label = none := by
    unfold checked at h
    split at h
    · cases h
    · assumption
  have hletters : letterError? label [] label = none := by
    unfold labelError? at hnone
    split_ifs at hnone
    cases hletter : letterError? label [] label with
    | none => rfl
    | some e =>
      rw [hletter] at hnone
      cases hnone
  have hallowed : ∀ d ∈ Url.dividers, isAllowed d = false :=
    Url.forall_dividers.mpr (by decide +kernel)
  exact fun c hc => not_mem_dividers hallowed (isAllowed_of_letterError hletters c hc)

theorem checked_eq {label checkedLabel : List Char} (h : checked label = .ok checkedLabel) :
    checkedLabel = label := by
  unfold checked at h
  split at h <;> cases h
  rfl

theorem undivided_codeMark : Undivided codeMark := by decide

theorem undivided_decodeLabel {label plain : List Char} (h : decodeLabel label = .ok plain) :
    Undivided label := by
  unfold decodeLabel at h
  split at h
  · rename_i hmark
    dsimp only at h
    split at h
    · cases h
    · split at h
      · cases h
      · split at h
        · cases h
        · rename_i decoded hdecoded
          split at h
          · rename_i hcode
            have hplain := undivided_checked h
            have hcode' : Undivided (label.drop codeMark.length) := hcode ▸ Punycode.undivided_encode hplain
            have hlabel : codeMark ++ label.drop codeMark.length = label := by
              have hprefix := List.isPrefixOf_iff_prefix.mp (Bool.and_eq_true_iff.mp hmark).2
              exact List.prefix_iff_eq_append.mp hprefix
            rw [← hlabel]
            exact undivided_codeMark.append hcode'
          · cases h
  · exact undivided_checked h

theorem undivided_encodeLabel {label written : List Char} (h : encodeLabel label = .ok written) :
    Undivided written := by
  have hshort : ∀ {whole : List Char},
      (if whole.length ≤ labelLimit then pure whole else .error .labelTooLong : Except Error (List Char)) =
        .ok written → whole = written := by
    intro whole h
    split at h
    · exact pure_eq_ok.mp h
    · cases h
  unfold encodeLabel at h
  dsimp only at h
  split at h
  · obtain ⟨whole, hwhole, h⟩ := bind_eq_ok.mp h
    obtain rfl := hshort h
    obtain ⟨plain, hplain, rfl⟩ := map_eq_ok.mp hwhole
    exact undivided_decodeLabel hplain
  · obtain ⟨whole, hwhole, h⟩ := bind_eq_ok.mp h
    obtain rfl := hshort h
    obtain ⟨plain, hplain, rfl⟩ := map_eq_ok.mp hwhole
    obtain rfl := checked_eq hplain
    exact undivided_codeMark.append (Punycode.undivided_encode (undivided_checked hplain))

/-! ## Hosts -/

theorem undivided_intercalate {labels : List (List Char)} (h : ∀ label ∈ labels, Undivided label) :
    Undivided (List.intercalate ['.'] labels) := by
  induction labels with
  | nil => exact .nil
  | cons label labels ih =>
    obtain ⟨hlabel, hlabels⟩ := List.forall_mem_cons.mp h
    cases labels with
    | nil => rwa [List.intercalate_singleton]
    | cons next labels =>
      rw [List.intercalate_cons_cons]
      exact (hlabel.append (by decide)).append (ih hlabels)

theorem undivided_mapLabels {form : List Char → Except Error (List Char)} {host written : List Char}
    (hform : ∀ {label label'}, form label = .ok label' → Undivided label')
    (h : mapLabels form host = .ok written) : Undivided written := by
  have hlabels : ∀ {parts labels : List (List Char)}, parts.mapM form = .ok labels →
      ∀ label ∈ labels, Undivided label := by
    intro parts labels hmapped
    replace hmapped := mapM_eq_ok.mp hmapped
    induction hmapped with
    | nil => exact List.forall_mem_nil _
    | cons hlabel _ ih => exact List.forall_mem_cons.mpr ⟨hform hlabel, ih⟩
  unfold mapLabels at h
  dsimp only at h
  split at h
  · cases h
  · split at h
    · cases h
    · obtain ⟨labels, hmapped, rfl⟩ := map_eq_ok.mp h
      refine (undivided_intercalate (hlabels hmapped)).append ?_
      split
      · decide
      · exact .nil

theorem undivided_encode {host written : List Char} (h : encode host = .ok written) : Undivided written := by
  unfold encode at h
  obtain ⟨whole, hwhole, h⟩ := bind_eq_ok.mp h
  have hsame : whole = written := by
    dsimp only at h
    generalize (if whole.getLast? = some '.' then hostLimit + 1 else hostLimit) = limit at h
    split at h
    · exact pure_eq_ok.mp h
    · cases h
  subst hsame
  exact undivided_mapLabels undivided_encodeLabel hwhole

end Idna

namespace Url

theorem undivided_normalHost {host written : List Char} (hhost : Undivided host)
    (h : normalHost host = .ok written) : Undivided written := by
  unfold normalHost at h
  split at h
  · cases h
    exact .nil
  · split at h
    · split at h <;> cases h
      exact hhost
    · split at h
      · dsimp only at h
        split at h <;> cases h
        exact hhost.of_subset fun c hc => List.mem_of_mem_drop (List.dropLast_subset _ hc)
      · split at h
        · cases h
          exact Percent.undivided_encode (forall_dividers.mpr (by decide)) _
        · exact Idna.undivided_encode (mapError_eq_ok.mp h)

end Url

end Paygate
