import Mathlib.Data.List.Induction
import Paygate.Json.Reader
import Paygate.Json.Writer
import Paygate.Proofs.Except
import Paygate.Proofs.Payment.Amount

/-!
# How long the numbers of a document are

The reader takes no whole number with more digits than are converted. So every whole number in a value
that was read has a decimal text, at any depth.

* `isConvertible_int`, `membersConvertible_iff`: which values hold no number that is too long.
* `isConvertible_readUnsigned`: a number that is read is short enough.
* `Converts`, `converts`: so are all numbers in the values, items and members that are read.
* `isConvertible_ofBytes`: and those of a whole document.
-/

namespace Paygate

namespace Numeral

theorem ofDigits_lt {digits : List Char} (h : digits.all Char.isDigit = true) :
    ofDigits digits < 10 ^ digits.length := by
  induction digits using List.reverseRecOn with
  | nil => decide
  | append_singleton digits c ih =>
    rw [List.all_append, Bool.and_eq_true] at h
    have hdigit : c.isDigit = true := by simpa using h.2
    have hc : 48 ≤ c.toNat ∧ c.toNat ≤ 57 := Char.isDigit_iff_toNat.mp hdigit
    have hlast : ofDigits [c] = c.toNat - 48 := by simp [ofDigits, digitValue]
    have hfront := ih h.1
    rw [ofDigits_append, hlast, List.length_append, List.length_singleton, Nat.pow_succ]
    omega

/-- What is read off digits has no more digits than are converted. -/
theorem lt_of_read? {digits : List Char} {n : Nat} (hdigits : digits.all Char.isDigit = true)
    (h : read? digits = some n) : n < 10 ^ digitLimit := by
  unfold read? at h
  split at h
  · rename_i hlength
    cases h
    exact Nat.lt_of_lt_of_le (ofDigits_lt hdigits) (Nat.pow_le_pow_right (by decide) hlength)
  · cases h

end Numeral

namespace Entries

variable {α κ : Type} [DecidableEq κ] {p : α → Prop}

/-- A property of all values that are set is one of all values. -/
theorem forall_set {name : κ} {value : α} {entries : Entries α κ} (hvalue : p value)
    (hentries : ∀ entry ∈ entries, p entry.2) : ∀ entry ∈ set name value entries, p entry.2 := by
  induction entries with
  | nil => simpa [set] using hvalue
  | cons entry rest ih =>
    obtain ⟨hentry, hrest⟩ := List.forall_mem_cons.mp hentries
    rw [set]
    split
    · exact List.forall_mem_cons.mpr ⟨hvalue, hrest⟩
    · exact List.forall_mem_cons.mpr ⟨hentry, ih hrest⟩

theorem forall_ofPairs {pairs : Entries α κ} (h : ∀ pair ∈ pairs, p pair.2) :
    ∀ entry ∈ ofPairs pairs, p entry.2 := by
  have hfold : ∀ entries : Entries α κ, (∀ entry ∈ entries, p entry.2) →
      ∀ entry ∈ pairs.foldl (fun entries (name, value) => set name value entries) entries, p entry.2 := by
    induction pairs with
    | nil => exact fun _ hentries => hentries
    | cons pair pairs ih =>
      obtain ⟨hpair, hpairs⟩ := List.forall_mem_cons.mp h
      exact fun entries hentries => ih hpairs _ (forall_set hpair hentries)
  exact hfold [] (List.forall_mem_nil _)

theorem mem_of_lookup {entries : Entries α κ} {name : κ} {value : α}
    (h : entries.lookup name = some value) : (name, value) ∈ entries := by
  induction entries with
  | nil => cases h
  | cons entry rest ih =>
    obtain ⟨key, other⟩ := entry
    rw [lookup_cons_ite] at h
    split at h
    · rename_i hkey
      cases h
      exact hkey ▸ List.mem_cons_self
    · exact List.mem_cons_of_mem _ (ih h)

end Entries

namespace Json

/-! ## Values -/

section

variable {n : Int} {items : List Json} {members : List (Str × Json)}

theorem isConvertible_int : (Json.int n).isConvertible = true ↔ n.natAbs < 10 ^ Numeral.digitLimit := by
  rw [isConvertible, decide_eq_true_eq]
  exact Nat.length_toDigits_le_iff (by omega) (by decide)

theorem not_isConvertible_of_long (h : 10 ^ Numeral.digitLimit ≤ n.natAbs) :
    ¬ (Json.int n).isConvertible = true := by
  rw [isConvertible_int]
  exact Nat.not_lt.mpr h

theorem areConvertible_iff :
    areConvertible items = true ↔ ∀ item ∈ items, item.isConvertible = true := by
  induction items with
  | nil => simp [areConvertible]
  | cons item items ih => rw [areConvertible, Bool.and_eq_true, ih, List.forall_mem_cons]

theorem membersConvertible_iff : membersConvertible members = true ↔
    ∀ member ∈ members, member.2.isConvertible = true := by
  induction members with
  | nil => simp [membersConvertible]
  | cons member members ih =>
    obtain ⟨name, value⟩ := member
    rw [membersConvertible, Bool.and_eq_true, ih, List.forall_mem_cons]

theorem isConvertible_ofMembers (h : ∀ member ∈ members, member.2.isConvertible = true) :
    (ofMembers members).isConvertible = true :=
  membersConvertible_iff.mpr (Entries.forall_ofPairs (p := fun value : Json => value.isConvertible = true) h)

/-- The value of a name holds no number that its object does not hold. -/
theorem isConvertible_get? {json value : Json} {name : Str} (h : json.isConvertible = true)
    (hvalue : json.get? name = some value) : value.isConvertible = true := by
  cases json with
  | obj members => exact membersConvertible_iff.mp h _ (Entries.mem_of_lookup hvalue)
  | _ => cases hvalue

end

/-! ## Words and numbers -/

theorem all_isDigit_wholePart (cs : List Char) : (wholePart cs).1.all Char.isDigit = true := by
  unfold wholePart
  split
  · rfl
  · exact (Numeral.span_eq rfl).2

theorem isConvertible_readUnsigned {negative : Bool} {cs rest : List Char} {json : Json}
    (h : readUnsigned? negative cs = some (json, rest)) : json.isConvertible = true := by
  have hdigits := all_isDigit_wholePart cs
  unfold readUnsigned? at h
  generalize wholePart cs = parts at h hdigits
  obtain ⟨whole, left⟩ := parts
  dsimp only at h hdigits
  split at h
  · cases h
  · split at h
    · cases h
      rfl
    · split at h
      · obtain ⟨n, hread, heq⟩ := Option.map_eq_some_iff.mp h
        cases heq
        have hlimit := Numeral.lt_of_read? hdigits hread
        rw [isConvertible_int]
        split <;> omega
      · cases h
        rfl

theorem isConvertible_words : ∀ entry ∈ words, entry.2.isConvertible = true := by
  intro entry hentry
  simp only [words, List.mem_cons, List.not_mem_nil, or_false] at hentry
  rcases hentry with rfl | rfl | rfl | rfl | rfl | rfl <;> rfl

theorem isConvertible_readPlain {cs rest : List Char} {json : Json}
    (h : readPlain? cs = some (json, rest)) : json.isConvertible = true := by
  unfold readPlain? at h
  split at h
  · rename_i found hfound
    cases h
    obtain ⟨⟨word, value⟩, hword, hdrop⟩ := List.exists_of_findSome?_eq_some hfound
    obtain ⟨left, -, heq⟩ := Option.map_eq_some_iff.mp hdrop
    cases heq
    exact isConvertible_words _ hword
  · split at h
    · exact isConvertible_readUnsigned h
    · exact isConvertible_readUnsigned h

theorem isConvertible_readWord {points rest : List Point} {json : Json}
    (h : readWord? points = some (json, rest)) : json.isConvertible = true := by
  obtain ⟨⟨value, left⟩, hread, heq⟩ := Option.map_eq_some_iff.mp h
  cases heq
  exact isConvertible_readPlain hread

theorem orMalformed_eq_ok {α : Type} {found : Option α} {value : α} :
    orMalformed found = .ok value ↔ found = some value := by
  cases found <;> simp [orMalformed]

/-! ## Documents -/

/-- With this fuel the readers return no number that is too long, if none stood in what was read
before. -/
structure Converts (fuel : Nat) : Prop where
  value {depth : Nat} {points rest : List Point} {json : Json}
    (h : readValue fuel depth points = .ok (json, rest)) : json.isConvertible = true
  items {depth : Nat} {done : List Json} {points rest : List Point} {json : Json}
    (hdone : ∀ item ∈ done, item.isConvertible = true)
    (h : readItems fuel depth done points = .ok (json, rest)) : json.isConvertible = true
  members {depth : Nat} {done : List (Str × Json)} {points rest : List Point} {json : Json}
    (hdone : ∀ member ∈ done, member.2.isConvertible = true)
    (h : readMembers fuel depth done points = .ok (json, rest)) : json.isConvertible = true

section

variable {fuel depth : Nat} {points rest : List Point} {json : Json}

theorem Converts.value_step (hfuel : Converts fuel)
    (h : readValue (fuel + 1) depth points = .ok (json, rest)) : json.isConvertible = true := by
  unfold readValue at h
  split at h
  · obtain ⟨⟨s, left⟩, -, heq⟩ := bind_eq_ok.mp h
    cases heq
    rfl
  · split at h
    · cases h
    · split at h
      · cases h
        rfl
      · exact hfuel.items (List.forall_mem_nil _) h
  · split at h
    · cases h
    · split at h
      · cases h
        rfl
      · exact hfuel.members (List.forall_mem_nil _) h
  · exact isConvertible_readWord (orMalformed_eq_ok.mp h)

theorem Converts.items_step {done : List Json} (hfuel : Converts fuel)
    (hdone : ∀ item ∈ done, item.isConvertible = true)
    (h : readItems (fuel + 1) depth done points = .ok (json, rest)) : json.isConvertible = true := by
  unfold readItems at h
  split at h
  · cases h
  · rename_i item left hvalue
    have hall : ∀ other ∈ item :: done, other.isConvertible = true :=
      List.forall_mem_cons.mpr ⟨hfuel.value hvalue, hdone⟩
    split at h
    · exact hfuel.items hall h
    · cases h
      exact areConvertible_iff.mpr fun other hother => hall other (List.mem_reverse.mp hother)
    · cases h

theorem Converts.members_step {done : List (Str × Json)} (hfuel : Converts fuel)
    (hdone : ∀ member ∈ done, member.2.isConvertible = true)
    (h : readMembers (fuel + 1) depth done points = .ok (json, rest)) : json.isConvertible = true := by
  unfold readMembers at h
  split at h
  · split at h
    · cases h
    · rename_i name left hname
      split at h
      · split at h
        · cases h
        · rename_i value left' hvalue
          have hall : ∀ member ∈ (name, value) :: done, member.2.isConvertible = true :=
            List.forall_mem_cons.mpr ⟨hfuel.value hvalue, hdone⟩
          dsimp only at h
          split at h
          · exact hfuel.members hall h
          · cases h
            exact isConvertible_ofMembers fun member hmember => hall member (List.mem_reverse.mp hmember)
          · cases h
      · cases h
  · cases h

end

theorem converts (fuel : Nat) : Converts fuel := by
  induction fuel with
  | zero => exact ⟨nofun, nofun, nofun⟩
  | succ fuel ih => exact ⟨ih.value_step, ih.items_step, ih.members_step⟩

/-- No number in a document that is read is too long. -/
theorem isConvertible_ofBytes {bytes : Bytes} {json : Json} (h : ofBytes bytes = .ok json) :
    json.isConvertible = true := by
  obtain ⟨codes, -, h⟩ := bind_eq_ok.mp h
  obtain ⟨⟨value, rest⟩, hread, h⟩ := bind_eq_ok.mp h
  dsimp only at h
  split at h
  · cases h
    exact (converts _).value hread
  · cases h

end Json

end Paygate
