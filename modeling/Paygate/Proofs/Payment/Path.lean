import Mathlib.Data.List.Dedup
import Mathlib.Data.List.Nodup
import Mathlib.Data.List.Perm.Subperm
import Mathlib.Order.Nat
import Paygate.Proofs.Payment.PathNames

/-!
# The legs of a form

The path of a form is what its names of legs say: as many legs as there are indexes from zero on
before the first one whose name is missing (`Form.PathLength`), each with its two values. The names of
different indexes differ, so a form has no more legs than names.

* `Form.Collects`: the walk along the legs, which ends at the first gap.
* `Form.legs_eq`, `Form.PathLength.legs_eq`: the legs that are read.
* `Form.legs_congr`: no other name has a say in them.
* `Form.legs_exact`: all of it.
-/

namespace Paygate.Form

/-- The first index without a leg. -/
def PathLength (form : Form) (n : Nat) : Prop :=
  (∀ i < n, form.has (codeName i) = true) ∧ form.has (codeName n) = false

/-- The two values of a leg. -/
def leg (form : Form) (index : Nat) : Field × Field :=
  (form.value (codeName index), form.value (issuerName index))

/-- What a name says: its value, or the empty text if it has no value or is missing. -/
inductive Says (form : Form) (name : String) : Field → Prop
  | value {value : Field} (found : form.lookup name = some (some value)) : Says form name value
  | null (found : form.lookup name = some none) : Says form name ""
  | missing (absent : form.lookup name = none) : Says form name ""

theorem says_value (form : Form) (name : String) : form.Says name (form.value name) := by
  unfold value
  cases h : form.lookup name with
  | none => exact .missing h
  | some found =>
    cases found with
    | none => exact .null h
    | some value => exact .value h

/-! ## How many legs there are -/

theorem mem_of_has {form : Form} {name : String} (h : form.has name = true) :
    name ∈ form.map Prod.fst := by
  obtain ⟨entry, hentry, hname⟩ := List.lookup_isSome_iff.mp h
  exact List.mem_map.mpr ⟨entry, hentry, (eq_of_beq hname).symm⟩

/-- Indexes without a gap are no more than the names of the form. -/
theorem length_le_of_has (form : Form) {n : Nat} (h : ∀ i < n, form.has (codeName i) = true) :
    n ≤ (form.map Prod.fst).dedup.length := by
  have hnodup : ((List.range n).map codeName).Nodup := List.Nodup.map codeName_injective List.nodup_range
  have hsubset : (List.range n).map codeName ⊆ (form.map Prod.fst).dedup := by
    intro name hname
    obtain ⟨i, hi, rfl⟩ := List.mem_map.mp hname
    exact List.mem_dedup.mpr (mem_of_has (h i (List.mem_range.mp hi)))
  simpa using (hnodup.subperm hsubset).length_le

theorem length_names_le (form : Form) : (form.map Prod.fst).dedup.length ≤ form.length := by
  have hle := (List.dedup_sublist (form.map Prod.fst)).length_le
  rwa [List.length_map] at hle

theorem exists_pathLength (form : Form) : ∃ n, form.PathLength n := by
  have hgap : ∃ n, form.has (codeName n) = false := by
    by_contra hnone
    simp only [not_exists, Bool.not_eq_false] at hnone
    have hle : form.length + 1 ≤ (form.map Prod.fst).dedup.length :=
      length_le_of_has form fun i _ => hnone i
    have := form.length_names_le
    omega
  have hpresent : ∀ i < Nat.find hgap, form.has (codeName i) = true := fun i hi => by
    simpa using Nat.find_min hgap hi
  exact ⟨Nat.find hgap, hpresent, Nat.find_spec hgap⟩

variable {form other : Form} {m n : Nat}

namespace PathLength

/-- The first gap is the least index whose name is missing. -/
theorem le (h : form.PathLength n) (hgap : form.has (codeName m) = false) : n ≤ m := by
  by_contra hlt
  rw [h.1 m (by omega)] at hgap
  cases hgap

theorem unique (h : form.PathLength n) (h' : form.PathLength m) : n = m :=
  le_antisymm (h.le h'.2) (h'.le h.2)

theorem length_le (h : form.PathLength n) : n ≤ (form.map Prod.fst).dedup.length :=
  length_le_of_has form h.1

end PathLength

/-! ## The walk along the legs -/

/-- What is collected from an index on: one leg after the other, until a leg is missing. -/
inductive Collects (form : Form) : (index : Nat) → List (Field × Field) → Prop
  | stop {index : Nat} (gap : form.has (codeName index) = false) : Collects form index []
  | step {index : Nat} {legs : List (Field × Field)} (present : form.has (codeName index) = true)
      (rest : Collects form (index + 1) legs) : Collects form index (form.leg index :: legs)

theorem Collects.unique {index : Nat} {legs legs' : List (Field × Field)}
    (h : form.Collects index legs) (h' : form.Collects index legs') : legs = legs' := by
  induction h generalizing legs' with
  | stop gap =>
    cases h' with
    | stop => rfl
    | step present => cases gap.symm.trans present
  | step present _ ih =>
    cases h' with
    | stop gap => cases gap.symm.trans present
    | step _ rest => rw [ih rest]

/-- A walk that ends needs as many steps as it collects legs. -/
theorem Collects.legsFrom_eq {index : Nat} {legs : List (Field × Field)} (h : form.Collects index legs)
    {fuel : Nat} (hfuel : legs.length ≤ fuel) : form.legsFrom fuel index = legs := by
  induction h generalizing fuel with
  | stop gap =>
    cases fuel with
    | zero => rfl
    | succ fuel => simp [legsFrom, gap]
  | step present _ ih =>
    cases fuel with
    | zero => simp at hfuel
    | succ fuel =>
      rw [legsFrom, if_pos present, ih (by simpa using hfuel)]
      rfl

theorem collects_range' {index : Nat}
    (hpresent : ∀ i, index ≤ i → i < index + n → form.has (codeName i) = true)
    (hgap : form.has (codeName (index + n)) = false) :
    form.Collects index ((List.range' index n).map form.leg) := by
  induction n generalizing index with
  | zero => exact .stop hgap
  | succ n ih =>
    rw [List.range'_succ, List.map_cons]
    refine .step (hpresent index le_rfl (by omega)) (ih (fun i hi hlt => hpresent i (by omega) (by omega)) ?_)
    rwa [show index + 1 + n = index + (n + 1) by omega]

theorem PathLength.collects (h : form.PathLength n) :
    form.Collects 0 ((List.range n).map form.leg) := by
  rw [List.range_eq_range']
  exact collects_range' (fun i _ hi => h.1 i (by omega)) (by simpa using h.2)

/-! ## The legs -/

theorem PathLength.legs_eq (h : form.PathLength n) : form.legs = (List.range n).map form.leg := by
  refine h.collects.legsFrom_eq ?_
  rw [List.length_map, List.length_range]
  exact h.length_le.trans form.length_names_le

/-- The legs of a form are those of the indexes before the first gap, in order. -/
theorem legs_eq (form : Form) :
    ∃ n, form.PathLength n ∧ form.legs = (List.range n).map form.leg := by
  obtain ⟨n, hn⟩ := exists_pathLength form
  exact ⟨n, hn, hn.legs_eq⟩

/-- Forms that agree on the names of a path have the same legs. -/
theorem legs_congr (hn : form.PathLength n)
    (h : ∀ name ∈ legNames n, other.lookup name = form.lookup name) : other.legs = form.legs := by
  have hhas : ∀ i ≤ n, other.has (codeName i) = form.has (codeName i) := fun i hi => by
    rw [has, has, h _ (codeName_mem_legNames hi)]
  have hother : other.PathLength n :=
    ⟨fun i hi => (hhas i hi.le).trans (hn.1 i hi), (hhas n le_rfl).trans hn.2⟩
  rw [hn.legs_eq, hother.legs_eq]
  refine List.map_congr_left fun i hi => ?_
  have hi : i < n := List.mem_range.mp hi
  rw [leg, leg, value, value, value, value, h _ (codeName_mem_legNames hi.le),
    h _ (issuerName_mem_legNames hi)]

/-- What the path of a form is.

* The walk along the legs ends, and what it collects are the legs that are read.
* There are as many legs as the least index whose code is missing, and no more than the form has names.
* A leg is what its two names say, and the legs stand in the order of their indexes.
* Only the names of the path have a say: later indexes, the issuer of the first missing index and indexes
  that are spelled in another way have none. -/
theorem legs_exact (form : Form) : ∃ n,
    (∀ legs, form.Collects 0 legs ↔ legs = form.legs) ∧
    (form.legs.length = n ∧ form.has (codeName n) = false ∧
      (∀ m, form.has (codeName m) = false → n ≤ m) ∧ n ≤ (form.map Prod.fst).dedup.length) ∧
    (∀ i < n, ∃ code issuer, form.legs[i]? = some (code, issuer) ∧ form.Says (codeName i) code ∧
      form.Says (issuerName i) issuer) ∧
    (∀ other : Form, (∀ name ∈ legNames n, other.lookup name = form.lookup name) →
      other.legs = form.legs) ∧
    (∀ i > n, codeName i ∉ legNames n ∧ issuerName i ∉ legNames n) ∧ issuerName n ∉ legNames n ∧
    ∀ index, Misspells index → codeNameOf index ∉ legNames n ∧ issuerNameOf index ∉ legNames n := by
  obtain ⟨n, hn, hlegs⟩ := legs_eq form
  have hcollects : form.Collects 0 form.legs := hlegs ▸ hn.collects
  refine ⟨n, fun legs => ⟨fun h => h.unique hcollects, fun h => h ▸ hcollects⟩, ?_, ?_,
    fun other h => legs_congr hn h, ?_, ?_, fun index h => h.not_mem_legNames n⟩
  · refine ⟨?_, hn.2, fun m => hn.le, hn.length_le⟩
    rw [hlegs, List.length_map, List.length_range]
  · intro i hi
    refine ⟨_, _, ?_, form.says_value (codeName i), form.says_value (issuerName i)⟩
    rw [hlegs, List.getElem?_map, List.getElem?_range hi]
    rfl
  · intro i hi
    rw [codeName_mem_legNames_iff, issuerName_mem_legNames_iff]
    omega
  · rw [issuerName_mem_legNames_iff]
    omega

end Paygate.Form
