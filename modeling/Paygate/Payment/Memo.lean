import Paygate.Bytes.Hex
import Paygate.Number.Numeral
import Paygate.Payment.Error
import Paygate.Payment.Field

/-!
# Memos

A memo is absent, a number of 64 bits, a text, or a hash of 32 bytes. `parse` reads a kind and a
value; `resolve` decides between the memo of a request and the memo that came with its destination.
-/

namespace Paygate

inductive Memo where
  | none
  | id (value : UInt64)
  | text (value : Field)
  | hash (digest : Bytes32)
deriving DecidableEq

/-- The number of a run of ASCII digits below `2 ^ 64`. `none` if the text is not of this form or
the number too large; a run that is too long to be converted is a fault. -/
def parseUInt64 (text : Str) : Except Fault (Option UInt64) :=
  match text with
  | .broken _ => .ok .none
  | .whole text =>
    let cs := text.toList
    if Numeral.isRun cs then
      match Numeral.read? cs with
      | .none => .error .numeralTooLong
      | .some n => .ok (if n < UInt64.size then .some (UInt64.ofNat n) else .none)
    else .ok .none

namespace Memo

instance : Inhabited Memo := ⟨.none⟩

def ofId (value : Int) : Except Malformed Memo :=
  if 0 ≤ value ∧ value < UInt64.size then .ok (.id (UInt64.ofNat value.toNat)) else .error (.memoId value)

def ofHash (bytes : Bytes) : Except Malformed Memo :=
  if h : bytes.length = 32 then .ok (.hash ⟨bytes, h⟩) else .error (.memoHash bytes.length)

/-- The memo of kind `"id"`: a number of 64 bits. -/
def parseId (value : Field) : Except Failure Memo :=
  match value with
  | .upload => .error (.fault .notText)
  | .text s =>
    match parseUInt64 s with
    | .error f => .error (.fault f)
    | .ok .none => .error (.payment .invalidMemo)
    | .ok (.some n) => .ok (.id n)

/-- The memo of kind `"hash"`: 64 hexadecimal digits. -/
def parseHash (value : Field) : Except Failure Memo :=
  match value with
  | .upload => .error (.fault .notText)
  | .text s =>
    match s.whole?.bind Hex.decode? with
    | .none => .error (.payment .invalidMemo)
    | .some bytes =>
      if h : bytes.length = 32 then .ok (.hash ⟨bytes, h⟩) else .error (.payment .invalidMemo)

/-- The memo of a kind and a value. -/
def parse (kind value : Field) : Except Failure Memo :=
  match kind with
  | .upload => .error (.payment .invalidMemo)
  | .text kind =>
    if kind = "id" then parseId value
    else if kind = "text" then .ok (.text value)
    else if kind = "hash" then parseHash value
    else .error (.payment .invalidMemo)

/-- Kind and value are both empty or both set. -/
def checkPair (kind value : Field) : Except PaymentError Unit :=
  if kind.isEmpty = value.isEmpty then .ok () else .error .missingMemoParameter

end Memo

/-- The account that a payment goes to, with the kind and value of the memo that came with it. -/
structure Destination where
  account : String
  memo : Option (Str × Str) := .none
deriving DecidableEq, Repr

namespace Destination

/-- A destination whose memo kind and value are both given or both absent. -/
def make (account : String) (kind value : Option Str) : Except Malformed Destination :=
  match kind, value with
  | .none, .none => .ok ⟨account, .none⟩
  | .some kind, .some value => .ok ⟨account, .some (kind, value)⟩
  | _, _ => .error .halfMemo

end Destination

/-- The memo of a payment: that of the destination or that of the request, never both. -/
def Memo.resolve (kind value : Field) (destination : Destination) : Except Failure Memo :=
  match checkPair kind value with
  | .error e => .error (.payment e)
  | .ok () =>
    match destination.memo with
    | .some (destinationKind, destinationValue) =>
      if kind.isEmpty then
        (if destinationKind.isEmpty then .ok .none else parse destinationKind destinationValue)
      else .error (.payment .cannotUseMemo)
    | .none => if kind.isEmpty then .ok .none else parse kind value

end Paygate
