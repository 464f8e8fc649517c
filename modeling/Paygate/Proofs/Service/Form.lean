import Paygate.Proofs.Sample
import Paygate.Proofs.Service.Payment

/-!
# Forms arrive as they are sent

A form is sent as pairs in form encoding, which is ASCII. It is read as the pairs that were sent, the last
one first.

* `Percent.ascii_formPairs`: form encoding is ASCII.
* `Service.readForm_formPairs`: what a client encodes is what the service reads.
* `Service.pays_formRequest`: so every form can be sent.
* `Sample.gateway`, `Sample.request`: the gateway and the payment of the examples.
-/

namespace Paygate

namespace Percent

theorem ascii_encodeByte (b : UInt8) : ∀ c ∈ encodeByte b, c.toNat < 128 := by
  have hdigit : ∀ n < 16, (Hex.upperDigit n).toNat < 128 := by decide
  have hb := b.toNat_lt
  simp only [encodeByte, List.forall_mem_cons]
  exact ⟨by decide, hdigit _ (by omega), hdigit _ (by omega), List.forall_mem_nil _⟩

theorem ascii_formEncode (s : String) : ∀ c ∈ formEncode s, c.toNat < 128 := by
  intro c hc
  obtain ⟨d, -, hd⟩ := List.mem_flatMap.mp hc
  unfold formChar at hd
  split at hd
  · rename_i hplain
    rw [List.mem_singleton.mp hd]
    exact (unreserved_props hplain).1
  · split at hd
    · rw [List.mem_singleton.mp hd]
      decide
    · obtain ⟨b, -, hb⟩ := List.mem_flatMap.mp hd
      exact ascii_encodeByte b c hb

theorem ascii_formPair (pair : String × String) : ∀ c ∈ formPair pair, c.toNat < 128 := by
  rw [formPair, List.forall_mem_append, List.forall_mem_cons]
  exact ⟨ascii_formEncode _, by decide, ascii_formEncode _⟩

theorem ascii_formPairs (pairs : List (String × String)) : ∀ c ∈ formPairs pairs, c.toNat < 128 := by
  induction pairs with
  | nil => exact List.forall_mem_nil _
  | cons pair rest ih =>
    cases rest with
    | nil => exact ascii_formPair pair
    | cons next rest =>
      rw [formPairs, List.forall_mem_append, List.forall_mem_cons]
      · exact ⟨ascii_formPair pair, by decide, ih⟩
      · exact List.cons_ne_nil _ _

end Percent

namespace Service

/-- An ASCII text is read byte by byte as it is. -/
theorem latinText_ofString {s : String} (h : ∀ c ∈ s.toList, c.toNat < 128) :
    Multipart.latinText (Bytes.ofString s) = s := by
  have hchars : ∀ cs : List Char, (∀ c ∈ cs, c.toNat < 128) →
      (cs.flatMap String.utf8EncodeChar).map (fun b => Char.ofNat b.toNat) = cs := by
    intro cs hcs
    induction cs with
    | nil => rfl
    | cons c cs ih =>
      obtain ⟨hc, hcs⟩ := List.forall_mem_cons.mp hcs
      rw [List.flatMap_cons, Ascii.utf8EncodeChar_eq_singleton hc, List.singleton_append, List.map_cons,
        ih hcs, Utf8.toNat_ofNat (by omega), Char.ofNat_toNat]
  rw [Multipart.latinText, Bytes.ofString_eq, hchars _ h, String.ofList_toList]

theorem readUrlencoded_formPairs {pairs : List (String × String)} (h : pairs.length ≤ fieldLimit) :
    readUrlencoded (Bytes.ofString (String.ofList (Percent.formPairs pairs))) =
      .ok (pairs.map fun (name, value) => (name, .text value)) := by
  have hascii := Percent.ascii_formPairs pairs
  rw [← String.toList_ofList (l := Percent.formPairs pairs)] at hascii
  rw [readUrlencoded, latinText_ofString hascii, String.toList_ofList, Percent.readPairs_formPairs]
  exact if_neg (by omega)

def urlencoded : String := "application/x-www-form-urlencoded"

theorem ofString_urlencoded : Http.HeaderValue.ofString urlencoded =
    .ok { value := urlencoded, first := { name := urlencoded }, parameters := [] } := by
  rw [Http.HeaderValue.ofString, String.contains_char_eq]
  decide +kernel

/-- A form of at most a thousand fields is read as it was sent. -/
theorem readForm_formPairs {pairs : List (String × String)} (h : pairs.length ≤ fieldLimit) :
    readForm urlencoded (Bytes.ofString (String.ofList (Percent.formPairs pairs))) =
      .ok (pairs.reverse.map fun (name, value) => (name, some (.text value))) := by
  rw [readForm, readFields, ofString_urlencoded]
  show ((readUrlencoded _).mapError FormFailure.error).map _ = _
  rw [readUrlencoded_formPairs h]
  simp only [Except.map, Except.mapError, ← List.map_reverse, List.filterMap_map]
  exact congrArg Except.ok (congrFun List.filterMap_eq_map _)

/-- A request to pay with this body. -/
def paymentRequest (contentType : String) (body : Bytes) : Request where
  method := "POST"
  url := { scheme := "https", host := "gateway.example", path := "/payment" }
  contentType
  body

/-- A request to pay with these fields. -/
def formRequest (fields : List (String × String)) : Request :=
  paymentRequest urlencoded (Bytes.ofString (String.ofList (Percent.formPairs fields)))

/-- The form that is read from these fields. -/
def formOf (fields : List (String × String)) : Form :=
  fields.reverse.map fun (name, value) => (name, some (.text value))

theorem dispatch_paymentRequest (contentType : String) (body : Bytes) :
    dispatch (paymentRequest contentType body) = .ok .payment := by
  have hpath : Route.ofPath? (Percent.decode "/payment".toList) = some .payment := by decide +kernel
  have hroute : Route.ofPath? (paymentRequest contentType body).path = some .payment := hpath
  rw [dispatch, hroute]
  rfl

/-- Every form of at most a thousand fields can be sent. -/
theorem pays_formRequest {fields : List (String × String)} (h : fields.length ≤ fieldLimit) :
    PaysWith (formRequest fields) (formOf fields) :=
  ⟨dispatch_paymentRequest _ _, readForm_formPairs h⟩

end Service

/-! ## A gateway and a payment -/

namespace Sample

open Service (Gateway Request PaysWith formRequest formOf pays_formRequest fieldLimit)

def gateway : Gateway where
  pipeline := { passphrase := "network" }
  ledger := .ofUrl "https://ledger.example/"
  probe := none

/-- The fields of a payment of this amount. -/
def fields (amount : String) : List (String × String) :=
  [("source", seed), ("destination", destination), ("type", "payment"), ("amount", amount)]

def request (amount : String) : Request := formRequest (fields amount)

def form (amount : String) : Form := formOf (fields amount)

theorem pays (amount : String) : PaysWith (request amount) (form amount) :=
  pays_formRequest (show (4 : Nat) ≤ fieldLimit by decide)

end Sample

end Paygate
