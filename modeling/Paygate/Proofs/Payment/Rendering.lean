import Mathlib.Data.List.Nodup
import Paygate.Proofs.Payment.Path

/-!
# Forms that write a request

A request is written as a form that has all its values under their names. Reading gives back the request,
also if empty values are left out and names are added that nobody reads.

* `PaymentRequest.form`: the form of a request; `PaymentRequest.Holds`: what stands in it.
* `Form.Writes`: the forms that have these values, but for empty ones, and perhaps other names.
* `PaymentRequest.ofForm_of_writes`, `PaymentRequest.ofForm_congr`: what is read from such a form, and
  from forms that agree on the names that are read.
* `PaymentRequest.ofForm_form`: all of it.
-/

namespace Paygate

open Form (codeName issuerName codeNames legNames)

namespace PaymentRequest

/-- The names of the fields that are no legs. -/
def fieldNames : List String :=
  ["source", "destination", "type", "amount", "asset_code", "asset_issuer", "send_max",
    "send_asset_code", "send_asset_issuer", "destination_amount", "destination_asset_code",
    "destination_asset_issuer", "memo_type", "memo"]

/-- The names that a request with `n` legs is read from. -/
def readNames (n : Nat) : List String := fieldNames ++ legNames n

/-- The values of a request that are no legs, under their names. -/
def fields (request : PaymentRequest) : List (String × Field) :=
  [("source", request.source), ("destination", request.destination), ("type", request.paymentType),
    ("amount", request.amount), ("asset_code", request.assetCode),
    ("asset_issuer", request.assetIssuer), ("send_max", request.sendMax),
    ("send_asset_code", request.sendAssetCode), ("send_asset_issuer", request.sendAssetIssuer),
    ("destination_amount", request.destinationAmount),
    ("destination_asset_code", request.destinationAssetCode),
    ("destination_asset_issuer", request.destinationAssetIssuer), ("memo_type", request.memoType),
    ("memo", request.memo)]

/-- The legs of a request, under the names of their indexes. -/
def legFields (request : PaymentRequest) : List (String × Field) :=
  request.path.zipIdx.flatMap fun (leg, i) => [(codeName i, leg.1), (issuerName i, leg.2)]

/-- The form that writes a request in full. -/
def form (request : PaymentRequest) : Form :=
  (request.fields ++ request.legFields).map fun (name, value) => (name, some value)

end PaymentRequest

open PaymentRequest (fieldNames readNames)

/-- The form writes the request. What stands in it is a value of the request or has a name that is not
read, and of the values of the request only empty ones that are no codes are left out. -/
structure Form.Writes (form : Form) (request : PaymentRequest) : Prop where
  own : ∀ entry ∈ form, entry ∈ request.form ∨ entry.1 ∉ readNames request.path.length
  whole : ∀ entry ∈ request.form, entry ∈ form ∨
    (entry.2 = some (.text "") ∧ entry.1 ∉ codeNames request.path.length)

namespace PaymentRequest

variable {request other : PaymentRequest} {form : Form} {name : String} {value value' : Field} {i : Nat}

/-! ## Names -/

theorem nodup_fieldNames : fieldNames.Nodup := by decide

theorem names_fields (request : PaymentRequest) : request.fields.map Prod.fst = fieldNames := rfl

/-- The names of legs begin with another letter than those of all other fields. -/
theorem not_mem_fieldNames_of_head (h : name.toList.head? = some 'p') : name ∉ fieldNames := by
  have hhead : ∀ name ∈ fieldNames, name.toList.head? ≠ some 'p' := by decide
  exact fun hname => hhead name hname h

theorem codeName_not_mem_fieldNames (i : Nat) : codeName i ∉ fieldNames := by
  refine not_mem_fieldNames_of_head ?_
  rw [codeName, String.toList_append, String.toList_append]
  rfl

theorem issuerName_not_mem_fieldNames (i : Nat) : issuerName i ∉ fieldNames := by
  refine not_mem_fieldNames_of_head ?_
  rw [issuerName, String.toList_append, String.toList_append]
  rfl

/-! ## What stands under a name -/

/-- The value of a request under a name. -/
inductive Holds (request : PaymentRequest) : (name : String) → Field → Prop
  | field {name : String} {value : Field} (mem : (name, value) ∈ request.fields) :
      Holds request name value
  | code {i : Nat} {leg : Field × Field} (leg_eq : request.path[i]? = some leg) :
      Holds request (codeName i) leg.1
  | issuer {i : Nat} {leg : Field × Field} (leg_eq : request.path[i]? = some leg) :
      Holds request (issuerName i) leg.2

theorem mem_form_iff {entry : String × Option Field} :
    entry ∈ request.form ↔ ∃ value, entry.2 = some value ∧ request.Holds entry.1 value := by
  constructor
  · intro h
    obtain ⟨⟨name, value⟩, hmem, rfl⟩ := List.mem_map.mp h
    refine ⟨value, rfl, ?_⟩
    rcases List.mem_append.mp hmem with hfield | hleg
    · exact .field hfield
    · obtain ⟨⟨leg, i⟩, hpath, hpair⟩ := List.mem_flatMap.mp hleg
      have hindex := List.mem_zipIdx_iff_getElem?.mp hpath
      rcases List.mem_pair.mp hpair with hcode | hissuer
      · cases hcode
        exact .code hindex
      · cases hissuer
        exact .issuer hindex
  · obtain ⟨name, found⟩ := entry
    rintro ⟨value, rfl, hholds⟩
    refine List.mem_map.mpr ⟨(name, value), ?_, rfl⟩
    cases hholds with
    | field mem => exact List.mem_append_left _ mem
    | @code i leg leg_eq =>
      have hindex : (leg, i) ∈ request.path.zipIdx := List.mem_zipIdx_iff_getElem?.mpr leg_eq
      exact List.mem_append_right _ (List.mem_flatMap.mpr ⟨_, hindex, List.mem_cons_self⟩)
    | @issuer i leg leg_eq =>
      have hindex : (leg, i) ∈ request.path.zipIdx := List.mem_zipIdx_iff_getElem?.mpr leg_eq
      exact List.mem_append_right _
        (List.mem_flatMap.mpr ⟨_, hindex, List.mem_cons_of_mem _ List.mem_cons_self⟩)

namespace Holds

theorem name_mem (h : (name, value) ∈ request.fields) : name ∈ fieldNames := by
  rw [← names_fields request]
  exact List.mem_map_of_mem h

/-- Every value stands under a name that is read. -/
theorem mem_readNames (h : request.Holds name value) : name ∈ readNames request.path.length := by
  cases h with
  | field mem => exact List.mem_append_left _ (name_mem mem)
  | code leg_eq =>
    obtain ⟨hlt, -⟩ := List.getElem?_eq_some_iff.mp leg_eq
    exact List.mem_append_right _ (Form.codeName_mem_legNames hlt.le)
  | issuer leg_eq =>
    obtain ⟨hlt, -⟩ := List.getElem?_eq_some_iff.mp leg_eq
    exact List.mem_append_right _ (Form.issuerName_mem_legNames hlt)

/-- A code of the request is that of a leg. -/
theorem leg_of_codeName (h : request.Holds (codeName i) value) :
    ∃ leg, request.path[i]? = some leg ∧ value = leg.1 := by
  generalize hname : codeName i = name at h
  cases h with
  | field mem => exact absurd (hname ▸ name_mem mem) (codeName_not_mem_fieldNames i)
  | @code j leg leg_eq =>
    cases Form.codeName_injective hname
    exact ⟨leg, leg_eq, rfl⟩
  | issuer => exact absurd hname (Form.codeNameOf_ne_issuerNameOf _ _)

theorem leg_of_issuerName (h : request.Holds (issuerName i) value) :
    ∃ leg, request.path[i]? = some leg ∧ value = leg.2 := by
  generalize hname : issuerName i = name at h
  cases h with
  | field mem => exact absurd (hname ▸ name_mem mem) (issuerName_not_mem_fieldNames i)
  | code => exact absurd hname.symm (Form.codeNameOf_ne_issuerNameOf _ _)
  | @issuer j leg leg_eq =>
    cases Form.issuerName_injective hname
    exact ⟨leg, leg_eq, rfl⟩

/-- No two values stand under one name. -/
theorem unique (h : request.Holds name value) (h' : request.Holds name value') : value = value' := by
  cases h' with
  | code leg_eq' =>
    obtain ⟨leg, leg_eq, rfl⟩ := h.leg_of_codeName
    rw [Option.some.inj (leg_eq.symm.trans leg_eq')]
  | issuer leg_eq' =>
    obtain ⟨leg, leg_eq, rfl⟩ := h.leg_of_issuerName
    rw [Option.some.inj (leg_eq.symm.trans leg_eq')]
  | field mem' =>
    have hname := name_mem mem'
    cases h with
    | code => exact absurd hname (codeName_not_mem_fieldNames _)
    | issuer => exact absurd hname (issuerName_not_mem_fieldNames _)
    | field mem =>
      have hnodup : (request.fields.map Prod.fst).Nodup := nodup_fieldNames
      exact congrArg Prod.snd (List.inj_on_of_nodup_map hnodup mem mem' rfl)

end Holds

/-! ## What is read -/

/-- A request is its fields and its path. -/
theorem eq_of_fields (hfields : request.fields = other.fields) (hpath : request.path = other.path) :
    request = other := by
  simp only [fields, List.cons.injEq, Prod.mk.injEq, true_and, and_true] at hfields
  cases request
  cases other
  simp_all

theorem fields_ofForm (form : Form) (request : PaymentRequest) :
    (ofForm form).fields = request.fields.map fun entry => (entry.1, form.value entry.1) := rfl

end PaymentRequest

namespace Form.Writes

variable {request : PaymentRequest} {form : Form} {name : String} {value : Field} {i : Nat}

/-- Under the name of a value stands this value, or it is empty and left out. -/
theorem value_eq (h : form.Writes request) (hholds : request.Holds name value) :
    form.value name = value := by
  unfold Form.value
  cases hfound : form.lookup name with
  | none =>
    rcases h.whole (name, some value) (PaymentRequest.mem_form_iff.mpr ⟨value, rfl, hholds⟩) with
      hmem | ⟨hempty, -⟩
    · simpa using List.lookup_eq_none_iff.mp hfound _ hmem
    · exact (Option.some.inj hempty).symm
  | some found =>
    obtain ⟨before, after, rfl, -⟩ := List.lookup_eq_some_iff.mp hfound
    rcases h.own (name, found) (by simp) with hmem | hunread
    · obtain ⟨value', rfl, hholds'⟩ := PaymentRequest.mem_form_iff.mp hmem
      exact hholds'.unique hholds
    · exact absurd hholds.mem_readNames hunread

theorem has_codeName_iff (h : form.Writes request) (hi : i ≤ request.path.length) :
    form.has (codeName i) = true ↔ i < request.path.length := by
  constructor
  · intro hhas
    obtain ⟨⟨name, found⟩, hmem, hname⟩ := List.mem_map.mp (mem_of_has hhas)
    cases hname
    rcases h.own _ hmem with hown | hunread
    · obtain ⟨value, -, hholds⟩ := PaymentRequest.mem_form_iff.mp hown
      obtain ⟨leg, hleg, -⟩ := PaymentRequest.Holds.leg_of_codeName hholds
      exact (List.getElem?_eq_some_iff.mp hleg).1
    · exact absurd (List.mem_append_right _ (codeName_mem_legNames hi)) hunread
  · intro hlt
    have hholds : request.Holds (codeName i) request.path[i].1 := .code (List.getElem?_eq_getElem hlt)
    rcases h.whole (codeName i, some request.path[i].1)
      (PaymentRequest.mem_form_iff.mpr ⟨_, rfl, hholds⟩) with hmem | ⟨-, hcode⟩
    · exact List.lookup_isSome_iff.mpr ⟨_, hmem, by simp⟩
    · exact absurd (List.mem_map_of_mem (List.mem_range.mpr hlt)) hcode

theorem pathLength (h : form.Writes request) : form.PathLength request.path.length := by
  refine ⟨fun i hi => (h.has_codeName_iff hi.le).mpr hi, Bool.eq_false_iff.mpr fun hhas => ?_⟩
  exact absurd ((h.has_codeName_iff le_rfl).mp hhas) (lt_irrefl _)

theorem legs_eq (h : form.Writes request) : form.legs = request.path := by
  rw [h.pathLength.legs_eq]
  refine List.ext_getElem (by simp) fun i hi hlt => ?_
  have hleg : request.path[i]? = some request.path[i] := List.getElem?_eq_getElem hlt
  rw [List.getElem_map, List.getElem_range, leg, h.value_eq (.code hleg), h.value_eq (.issuer hleg)]

end Form.Writes

namespace PaymentRequest

section

variable {form other : Form}

theorem writes_form (request : PaymentRequest) : request.form.Writes request :=
  ⟨fun _ h => .inl h, fun _ h => .inl h⟩

/-- The request is read from every form that writes it. -/
theorem ofForm_of_writes {request : PaymentRequest} (h : form.Writes request) : ofForm form = request := by
  refine eq_of_fields ?_ h.legs_eq
  rw [fields_ofForm form request]
  refine (List.map_congr_left fun entry hentry => ?_).trans (List.map_id _)
  rw [h.value_eq (.field hentry)]
  rfl

/-- Forms that agree on the names that are read are read alike. -/
theorem ofForm_congr
    (h : ∀ name ∈ readNames form.legs.length, other.lookup name = form.lookup name) :
    ofForm other = ofForm form := by
  obtain ⟨n, hn, hlegs⟩ := Form.legs_eq form
  have hlength : form.legs.length = n := by rw [hlegs, List.length_map, List.length_range]
  rw [hlength] at h
  refine eq_of_fields ?_ (Form.legs_congr hn fun name hname => h name (List.mem_append_right _ hname))
  rw [fields_ofForm other {}, fields_ofForm form {}]
  refine List.map_congr_left fun entry hentry => ?_
  rw [Form.value, Form.value, h _ (List.mem_append_left _ (Holds.name_mem hentry))]

end

/-- Reading a form undoes writing it, and nothing else is read.

* The form of a request is read as the request.
* So is every form that writes the request: values that are empty may be left out, but for codes, and other
  names may be added, in any place and with any values.
* Of any form only the names of its fields and of its path are read. -/
theorem ofForm_form (request : PaymentRequest) :
    ofForm request.form = request ∧
    (∀ form : Form, form.Writes request → ofForm form = request) ∧
    ∀ form other : Form,
      (∀ name ∈ readNames form.legs.length, other.lookup name = form.lookup name) →
      ofForm other = ofForm form :=
  ⟨ofForm_of_writes (writes_form request), fun _ => ofForm_of_writes, fun _ _ => ofForm_congr⟩

/-! ## A form with gaps and other names -/

namespace Sparse

/-- Its first leg is the native asset. -/
def request : PaymentRequest where
  source := "S"
  paymentType := "path_payment"
  path := [("", ""), ("EUR", "G")]

/-- Empty values are left out but for the code of the first leg, and the fields stand in no order. -/
def form : Form :=
  [("note", none), ("path[1][asset_issuer]", some "G"), ("path[00][asset_code]", some "USD"),
    ("path[1][asset_code]", some "EUR"), ("path[3][asset_code]", some "USD"),
    ("path[0][asset_code]", some ""), ("type", some "path_payment"), ("source", some "S")]

theorem writes : form.Writes request :=
  ⟨by decide +kernel, by decide +kernel⟩

/-- The form is read as the request, with or without the names that are not read. -/
theorem sparse_read : form.Writes request ∧ ofForm form = request ∧
    (∀ name ∈ readNames form.legs.length, (form.drop 1).lookup name = form.lookup name) ∧
    ofForm (form.drop 1) = request := by
  have hread := ofForm_form request
  have hsame : ∀ name ∈ readNames form.legs.length, (form.drop 1).lookup name = form.lookup name := by
    decide +kernel
  have hform := hread.2.1 form writes
  exact ⟨writes, hform, hsame, (hread.2.2 form (form.drop 1) hsame).trans hform⟩

end Sparse

end PaymentRequest

end Paygate
