import Paygate.Federation.Record
import Paygate.Proofs.Json.Convertible
import Paygate.Proofs.Json.Numbers

/-!
# Which records a federation server can describe

A record is read off an object whose account is a text and whose memo fields are both absent or both
texts. Empty values of every kind count as absent, but the memo only after a whole number in it has become
its decimal text, so that a memo of zero is a memo. A number that is too long for a decimal text is a fault,
but no document has one.

* `Json.Absent`, `Json.Says`: what a member counts as; `FederationRecord.Written`: what an answer describes.
* `FederationRecord.Overlong`, `FederationRecord.not_overlong`: a memo that has no decimal text, which no
  document has.
* `FederationRecord.ofJson_eq_ok_iff`: any other answer is read as the record that it describes.
* `FederationRecord.ofJson_written`: the same with what becomes of whole numbers.
-/

namespace Paygate

namespace Json

/-- What counts as absent: no value at all, or an empty one. -/
inductive Absent : Option Json → Prop
  | missing : Absent none
  | null : Absent (some .null)
  | no : Absent (some (.bool false))
  | zero : Absent (some (.int 0))
  | zeroFloat {x : Binary64} (zero : x.isZero = true) : Absent (some (.float x))
  | emptyText {value : Json} (empty : value.text? = some "") : Absent (some value)
  | emptyList : Absent (some (.arr []))
  | emptyObject : Absent (some (.obj []))

/-- A value is a text that is not empty. -/
def Says (value : Option Json) (text : Str) : Prop := value.bind text? = some text ∧ text ≠ ""

variable {value : Option Json} {text text' : Str}

theorem isFalsy_iff {json : Json} : json.isFalsy = true ↔ Absent (some json) := by
  constructor
  · intro h
    cases json with
    | null => exact .null
    | bool b =>
      simp only [isFalsy, Bool.not_eq_true'] at h
      subst h
      exact .no
    | int n =>
      obtain rfl : n = 0 := by simpa [isFalsy] using h
      exact .zero
    | float x => exact .zeroFloat h
    | str s => exact .emptyText (by simpa [isFalsy, text?] using h)
    | arr items =>
      obtain rfl : items = [] := by simpa [isFalsy] using h
      exact .emptyList
    | obj members =>
      obtain rfl : members = [] := by simpa [isFalsy] using h
      exact .emptyObject
  · intro h
    cases h with
    | zeroFloat zero => exact zero
    | emptyText empty => cases json <;> simp_all [isFalsy, text?]
    | _ => rfl

theorem Says.unique (h : Says value text) (h' : Says value text') : text = text' :=
  Option.some.inj (h.1.symm.trans h'.1)

/-- No text that is not empty counts as absent. -/
theorem Says.not_absent (h : Says value text) : ¬ Absent value := by
  obtain ⟨htext, hne⟩ := h
  intro habsent
  cases habsent with
  | emptyText empty => exact hne (Option.some.inj (htext.symm.trans empty))
  | _ => cases htext

end Json

namespace FederationRecord

open Json (Absent Says)

/-! ## Members -/

section

variable {value : Option Json} {text : Str}

theorem present?_eq_some_iff {json : Json} :
    present? value = some json ↔ value = some json ∧ ¬ Absent value := by
  cases value with
  | none => simp [present?]
  | some other =>
    rw [← Json.isFalsy_iff]
    cases hfalsy : other.isFalsy with
    | true => simp [present?, hfalsy]
    | false => simp [present?, hfalsy]

theorem present?_eq_none_iff : present? value = none ↔ Absent value := by
  cases value with
  | none => simp [present?, Absent.missing]
  | some json =>
    rw [← Json.isFalsy_iff]
    simp [present?]

theorem present?_text_iff : (present? value).bind Json.text? = some text ↔ Says value text := by
  constructor
  · intro h
    obtain ⟨json, hpresent, htext⟩ := Option.bind_eq_some_iff.mp h
    obtain ⟨rfl, habsent⟩ := present?_eq_some_iff.mp hpresent
    refine ⟨htext, ?_⟩
    rintro rfl
    exact habsent (.emptyText htext)
  · intro h
    obtain ⟨json, rfl, htext⟩ := Option.bind_eq_some_iff.mp h.1
    rw [present?_eq_some_iff.mpr ⟨rfl, h.not_absent⟩]
    exact htext

end

/-! ## Records -/

/-- A memo in which a whole number has become its decimal text. -/
def decimal : Json → Json
  | .int n => .str (toString n)
  | value => value

/-- The memo fields of an answer, of which one is a whole number at times. -/
inductive WrittenMemo (memoType memo : Option Json) : Option (Str × Str) → Prop
  | nothing (noType : Absent memoType) (noMemo : Absent (memo.map decimal)) :
      WrittenMemo memoType memo none
  | memo {kind value : Str} (kind_eq : Says memoType kind)
      (value_eq : Says (memo.map decimal) value) : WrittenMemo memoType memo (some (kind, value))

/-- The answer of a federation server describes a record: it is an object, its account is a text, and its
memo fields are both absent or both texts. -/
inductive Written : Json → FederationRecord → Prop
  | intro {members : List (Str × Json)} {account : Str} {memo : Option (Str × Str)}
      (account_eq : Says (members.lookup (.whole "account_id")) account)
      (memo_eq : WrittenMemo (members.lookup (.whole "memo_type")) (members.lookup (.whole "memo")) memo) :
      Written (.obj members) ⟨account, memo.map Prod.fst, memo.map Prod.snd⟩

/-- An answer with an account has a whole number as memo that is too long for a decimal text. -/
inductive Overlong : Json → Prop
  | intro {members : List (Str × Json)} {account : Str} {n : Int}
      (account_eq : Says (members.lookup (.whole "account_id")) account)
      (memo_eq : members.lookup (.whole "memo") = some (.int n))
      (long : 10 ^ Numeral.digitLimit ≤ n.natAbs) : Overlong (.obj members)

/-- The memo fields of a record that is described are both absent, or both texts that are not empty. -/
theorem Written.isWhole {body : Json} {record : FederationRecord} (h : Written body record) :
    record.Whole := by
  obtain ⟨-, hmemo⟩ := h
  cases hmemo with
  | nothing => exact .inl ⟨rfl, rfl⟩
  | memo kind_eq value_eq => exact .inr ⟨_, _, rfl, rfl, kind_eq.2, value_eq.2⟩

/-- No document has such a memo. -/
theorem not_overlong {bytes : Bytes} {body : Json} (h : Json.ofBytes bytes = .ok body) :
    ¬ Overlong body := by
  rintro ⟨-, hmemo, hlong⟩
  have hconvertible := Json.isConvertible_get? (Json.isConvertible_ofBytes h) hmemo
  exact Json.not_isConvertible_of_long hlong hconvertible

theorem memoValue_of_long {n : Int} (h : 10 ^ Numeral.digitLimit ≤ n.natAbs) :
    memoValue (.int n) = .error .numeralTooLong :=
  if_neg (Json.not_isConvertible_of_long h)

theorem memoValue_of_fits {json : Json} (h : ∀ n, json = .int n → n.natAbs < 10 ^ Numeral.digitLimit) :
    memoValue json = .ok (decimal json) := by
  cases json with
  | int n => exact if_pos (Json.isConvertible_int.mpr (h n rfl))
  | _ => rfl

theorem ofFields_eq_ok_iff {account : Str} {memoType memo : Option Json} {record : FederationRecord} :
    ofFields account (present? memoType) (present? (memo.map decimal)) = .ok record ↔
      ∃ pair, WrittenMemo memoType memo pair ∧
        record = ⟨account, pair.map Prod.fst, pair.map Prod.snd⟩ := by
  constructor
  · intro h
    unfold ofFields at h
    split at h
    · rename_i hnoType hnoMemo
      cases h
      exact ⟨none, .nothing (present?_eq_none_iff.mp hnoType) (present?_eq_none_iff.mp hnoMemo), rfl⟩
    · rename_i json json' hsomeType hsomeMemo
      split at h
      · rename_i kind value hkind hvalue
        cases h
        refine ⟨some (kind, value), .memo (present?_text_iff.mp ?_) (present?_text_iff.mp ?_), rfl⟩
        · rw [hsomeType]
          exact hkind
        · rw [hsomeMemo]
          exact hvalue
      · cases h
    · cases h
  · rintro ⟨pair, hwritten, rfl⟩
    cases hwritten with
    | nothing noType noMemo =>
      rw [present?_eq_none_iff.mpr noType, present?_eq_none_iff.mpr noMemo]
      rfl
    | memo kind_eq value_eq =>
      obtain ⟨json, hjson, hkind⟩ := Option.bind_eq_some_iff.mp (present?_text_iff.mpr kind_eq)
      obtain ⟨json', hjson', hvalue⟩ := Option.bind_eq_some_iff.mp (present?_text_iff.mpr value_eq)
      rw [hjson, hjson']
      simp [ofFields, hkind, hvalue]

section

variable {body : Json} {record : FederationRecord}

/-- A memo without a decimal text is a fault, behind the account. -/
theorem Overlong.ofJson_eq (h : Overlong body) : ofJson body = .error (.fault .numeralTooLong) := by
  obtain ⟨haccount, hmemo, hlong⟩ := h
  rename_i members account n
  have htext : (present? ((Json.obj members).get? "account_id")).bind Json.text? = some account :=
    present?_text_iff.mpr haccount
  have hvalue : ((Json.obj members).get? "memo").mapM memoValue = .error .numeralTooLong := by
    rw [Json.get?, hmemo, Option.mapM_some, memoValue_of_long hlong]
    rfl
  unfold ofJson
  simp only [htext, hvalue]

/-- Without such a memo, an answer with an account is read by its fields. -/
theorem ofJson_of_account {members : List (Str × Json)} {account : Str}
    (haccount : Says (members.lookup (.whole "account_id")) account) (hfits : ¬ Overlong (.obj members)) :
    ofJson (.obj members) = (ofFields account (present? (members.lookup (.whole "memo_type")))
      (present? ((members.lookup (.whole "memo")).map decimal))).mapError .error := by
  have htext : (present? ((Json.obj members).get? "account_id")).bind Json.text? = some account :=
    present?_text_iff.mpr haccount
  have hvalue : ((Json.obj members).get? "memo").mapM memoValue =
      .ok ((members.lookup (.whole "memo")).map decimal) := by
    rw [Json.get?]
    cases hmemo : members.lookup (.whole "memo") with
    | none => rfl
    | some json =>
      have hshort : ∀ n, json = .int n → n.natAbs < 10 ^ Numeral.digitLimit := by
        rintro n rfl
        exact Nat.not_le.mp fun hlong => hfits ⟨haccount, hmemo, hlong⟩
      rw [Option.mapM_some, memoValue_of_fits hshort]
      rfl
  unfold ofJson
  simp only [htext, hvalue]
  rfl

/-- An answer without an account is an error. -/
theorem ofJson_of_no_account (h : ∀ members account, body = .obj members →
    ¬ Says (members.lookup (.whole "account_id")) account) : ∃ e, ofJson body = .error (.error e) := by
  unfold ofJson
  split
  · rename_i members
    cases haccount : (present? ((Json.obj members).get? "account_id")).bind Json.text? with
    | none => exact ⟨_, rfl⟩
    | some account => exact absurd (present?_text_iff.mp haccount) (h members account rfl)
  · exact ⟨_, rfl⟩

/-- What every answer is read as: a memo without a decimal text is a fault, any other answer is the record
that it describes or an error. -/
theorem ofJson_cases (body : Json) :
    (Overlong body ∧ ofJson body = .error (.fault .numeralTooLong)) ∨
    (¬ Overlong body ∧ ∃ record, Written body record ∧ ofJson body = .ok record) ∨
    (¬ Overlong body ∧ (∀ record, ¬ Written body record) ∧ ∃ e, ofJson body = .error (.error e)) := by
  by_cases hlong : Overlong body
  · exact .inl ⟨hlong, hlong.ofJson_eq⟩
  by_cases haccount : ∃ members account,
      body = .obj members ∧ Says (members.lookup (.whole "account_id")) account
  · obtain ⟨members, account, rfl, haccount⟩ := haccount
    have hfields := ofJson_of_account haccount hlong
    cases hread : ofFields account (present? (members.lookup (.whole "memo_type")))
        (present? ((members.lookup (.whole "memo")).map decimal)) with
    | ok record =>
      rw [hread] at hfields
      obtain ⟨pair, hmemo, rfl⟩ := ofFields_eq_ok_iff.mp hread
      exact .inr (.inl ⟨hlong, _, .intro haccount hmemo, hfields⟩)
    | error e =>
      rw [hread] at hfields
      refine .inr (.inr ⟨hlong, ?_, e, hfields⟩)
      rintro _ ⟨haccount', hmemo⟩
      cases haccount.unique haccount'
      cases hread.symm.trans (ofFields_eq_ok_iff.mpr ⟨_, hmemo, rfl⟩)
  · refine .inr (.inr ⟨hlong, ?_, ofJson_of_no_account ?_⟩)
    · rintro _ ⟨haccount', -⟩
      exact haccount ⟨_, _, rfl, haccount'⟩
    · exact fun members account hbody hsays => haccount ⟨members, account, hbody, hsays⟩

theorem WrittenMemo.unique {memoType memo : Option Json} {pair pair' : Option (Str × Str)}
    (h : WrittenMemo memoType memo pair) (h' : WrittenMemo memoType memo pair') : pair = pair' := by
  cases h with
  | nothing noType noMemo =>
    cases h' with
    | nothing => rfl
    | memo kind_eq => exact absurd noType kind_eq.not_absent
  | memo kind_eq value_eq =>
    cases h' with
    | nothing noType => exact absurd noType kind_eq.not_absent
    | memo kind_eq' value_eq' => rw [kind_eq.unique kind_eq', value_eq.unique value_eq']

/-- An answer describes one record at most. -/
theorem Written.unique {record' : FederationRecord} (h : Written body record)
    (h' : Written body record') : record = record' := by
  obtain ⟨haccount, hmemo⟩ := h
  obtain ⟨haccount', hmemo'⟩ := h'
  rw [haccount.unique haccount', hmemo.unique hmemo']

/-- The record that is read is the one that the answer describes. -/
theorem ofJson_eq_ok_iff : ofJson body = .ok record ↔ Written body record ∧ ¬ Overlong body := by
  rcases ofJson_cases body with ⟨hlong, hread⟩ | ⟨hfits, record', hwritten, hread⟩ | ⟨_, hnone, e, hread⟩
  · rw [hread]
    exact iff_of_false nofun fun h => h.2 hlong
  · rw [hread]
    constructor
    · rintro ⟨⟩
      exact ⟨hwritten, hfits⟩
    · exact fun h => congrArg _ (hwritten.unique h.1)
  · rw [hread]
    exact iff_of_false nofun fun h => hnone record h.1

theorem ofJson_eq_fault_iff {f : Fault} :
    ofJson body = .error (.fault f) ↔ f = .numeralTooLong ∧ Overlong body := by
  rcases ofJson_cases body with ⟨hlong, hread⟩ | ⟨hfits, _, _, hread⟩ | ⟨hfits, _, e, hread⟩
  · rw [hread]
    constructor
    · rintro ⟨⟩
      exact ⟨rfl, hlong⟩
    · rintro ⟨rfl, -⟩
      rfl
  · rw [hread]
    exact iff_of_false nofun fun h => hfits h.2
  · rw [hread]
    exact iff_of_false nofun fun h => hfits h.2

end

/-! ## Whole numbers -/

section

variable (members : List (Str × Json)) {n : Int} (hlimit : n.natAbs < 10 ^ Numeral.digitLimit)

include hlimit

end

example : ofJson (.obj [("account_id", .str "G"), ("memo_type", .str "id"), ("memo", .int 0)]) =
    .ok ⟨"G", some "id", some "0"⟩ := by decide +kernel

end FederationRecord

end Paygate
