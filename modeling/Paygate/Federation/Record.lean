import Paygate.Federation.Error
import Paygate.Json.Writer

/-!
# Federation records

A record is what a resolver knows about an address: an account, which nobody has checked, and
perhaps a memo with its kind. `ofJson` reads it from the answer of a federation server. Empty values
count as absent; a whole number as memo counts as its decimal text, zero included, and one with too
many digits for that is a fault; kind and memo come together or not at all.
-/

namespace Paygate

structure FederationRecord where
  account : Str
  memoType : Option Str := none
  memo : Option Str := none
deriving DecidableEq, Repr

namespace FederationRecord

/-- The memo fields come together or not at all. -/
def Paired (record : FederationRecord) : Prop := record.memoType.isSome = record.memo.isSome

/-- The memo fields are both given and not empty, or both absent. -/
def Whole (record : FederationRecord) : Prop :=
  (record.memoType = none ∧ record.memo = none) ∨
    ∃ kind value, record.memoType = some kind ∧ record.memo = some value ∧ kind ≠ "" ∧ value ≠ ""

theorem Whole.paired {record : FederationRecord} (h : record.Whole) : record.Paired := by
  rcases h with ⟨hkind, hvalue⟩ | ⟨_, _, hkind, hvalue, -, -⟩
  all_goals simp [Paired, hkind, hvalue]

/-- A value that is there and not empty. -/
def present? : Option Json → Option Json
  | some value => if value.isFalsy then none else some value
  | none => none

/-- A memo with whole numbers as their decimal texts. -/
def memoValue : Json → Except Fault Json
  | .int n => if (Json.int n).isConvertible then .ok (.str (toString n)) else .error .numeralTooLong
  | value => .ok value

/-- The record of an account with the memo fields as they came. -/
def ofFields (account : Str) : (memoType memo : Option Json) →
    Except Federation.Error FederationRecord
  | none, none => .ok { account }
  | some memoType, some memo =>
    match memoType.text?, memo.text? with
    | some memoType, some memo => .ok { account, memoType := some memoType, memo := some memo }
    | _, _ => .error .memoNotText
  | _, _ => .error .halfMemo

/-- The record that the answer of a federation server describes. -/
def ofJson (body : Json) : Except Federation.Failure FederationRecord :=
  match body with
  | .obj _ =>
    match (present? (body.get? "account_id")).bind Json.text? with
    | none => .error (.error .noAccount)
    | some account =>
      match (body.get? "memo").mapM memoValue with
      | .error fault => .error (.fault fault)
      | .ok memo =>
        (ofFields account (present? (body.get? "memo_type")) (present? memo)).mapError .error
  | _ => .error (.error .notObject)

end FederationRecord

end Paygate
