import Paygate.Proofs.Payment.Memo
import Paygate.Proofs.Payment.PathPayment

/-!
# Values made under the rules of their types

An issued asset has a code and an issuer, a number in a memo has 64 bits and a hash in one 32 bytes. The
readers here check these rules once more wherever they make such a value of what they have read, and a rule
that is broken is a fault. It never is: what comes so far keeps the rule already, so they come to the same
results as the readers that do not check.

* `KeepsRules`: a result that is no broken rule.
* `Asset.issueChecked_eq`, `Asset.resolveChecked_keepsRules`: assets, beside those of path payments.
* `Memo.makeResolved_eq`, `Memo.resolve_keepsRules`: memos.
-/

namespace Paygate

variable {α β : Type}

/-- A rule of a type that is broken where a value is made is a fault. -/
def Malformed.orFault (made : Except Malformed α) : Except Failure α :=
  made.mapError fun cause => .fault (.malformed cause)

/-- The result is no broken rule of a type. -/
def KeepsRules (result : Except Failure α) : Prop :=
  ∀ cause, result ≠ .error (.fault (.malformed cause))

namespace KeepsRules

theorem ok (a : α) : KeepsRules (.ok a : Except Failure α) := nofun

theorem payment (e : PaymentError) : KeepsRules (.error (.payment e) : Except Failure α) := nofun

theorem mapError_payment (result : Except PaymentError α) : KeepsRules (result.mapError .payment) := by
  cases result with
  | ok a => exact ok a
  | error e => exact payment e

theorem bind {x : Except Failure α} {f : α → Except Failure β} (hx : KeepsRules x)
    (hf : ∀ a, KeepsRules (f a)) : KeepsRules (x >>= f) := by
  intro cause h
  rcases bind_eq_error.mp h with hfirst | ⟨a, -, hnext⟩
  · exact hx cause hfirst
  · exact hf a cause hnext

end KeepsRules

/-! ## Assets -/

namespace Asset

/-- The asset of a pair whose issuer must be an account key, with the rule of issued assets checked where
one is made. -/
def issueChecked (code issuer : Field) : Except Failure Asset :=
  if code.isEmpty && issuer.isEmpty then .ok .native
  else if code.isEmpty || issuer.isEmpty then .error (.payment .missingAssetParameter)
  else do
    let key ← AccountId.validate issuer .invalidIssuer
    Malformed.orFault (issue code (.text key))

theorem issueChecked_eq (code issuer : Field) : issueChecked code issuer = resolveChecked code issuer := by
  unfold issueChecked resolveChecked resolve
  by_cases hcode : code.isEmpty = false
  · by_cases hissuer : issuer.isEmpty = false
    · simp only [hcode, hissuer, Bool.false_and, Bool.or_false, Bool.false_eq_true, if_false, dite_true]
      cases hkey : AccountId.validate issuer .invalidIssuer with
      | error e => rfl
      | ok key =>
        obtain ⟨rfl, -⟩ := AccountId.validate_eq_ok hkey
        have hissue : issue code (.text key) = .ok (.issued ⟨code, .text key, hcode, hissuer⟩) :=
          dif_pos ⟨hcode, hissuer⟩
        show Malformed.orFault (issue code (.text key)) = _
        rw [hissue]
        rfl
    · simp [hcode, hissuer]
  · by_cases hissuer : issuer.isEmpty = false
    · simp [hcode, hissuer]
    · simp [hcode, hissuer]

theorem validate_keepsRules (value : Field) (error : PaymentError) :
    KeepsRules (AccountId.validate value error) := by
  intro cause h
  obtain h | h := AccountId.validate_error h <;> cases h

theorem resolveChecked_keepsRules (code issuer : Field) : KeepsRules (resolveChecked code issuer) := by
  rw [resolveChecked_eq]
  refine (KeepsRules.mapError_payment _).bind fun asset => ?_
  cases asset with
  | native => exact .ok _
  | issued a => exact (validate_keepsRules a.issuer .invalidIssuer).bind fun _ => .ok _

end Asset

/-! ## Memos -/

namespace Memo

/-- The number that a text writes, if it is below `2 ^ 64`. -/
def readNumber : (text : Str) → Except Fault (Option Nat)
  | .broken _ => .ok .none
  | .whole s =>
    if Numeral.isRun s.toList then
      match Numeral.read? s.toList with
      | .none => .error .numeralTooLong
      | .some n => .ok (if n < UInt64.size then .some n else .none)
    else .ok .none

theorem parseUInt64_eq (text : Str) :
    parseUInt64 text = (readNumber text).map (Option.map UInt64.ofNat) := by
  cases text with
  | broken text => rfl
  | whole text =>
    unfold parseUInt64 readNumber
    dsimp only
    by_cases hrun : Numeral.isRun text.toList = true
    · rw [if_pos hrun, if_pos hrun]
      cases Numeral.read? text.toList with
      | none => rfl
      | some n => by_cases hfits : n < UInt64.size <;> simp [hfits, Except.map]
    · rw [if_neg hrun, if_neg hrun]
      rfl

theorem readNumber_lt {text : Str} {n : Nat} (h : readNumber text = .ok (some n)) :
    n < UInt64.size := by
  unfold readNumber at h
  split at h
  · cases h
  · split at h
    · split at h
      · cases h
      · split at h <;> cases h
        assumption
    · cases h

/-- The memo of kind `"id"`, with the room of its type checked where it is made. -/
def makeId (value : Field) : Except Failure Memo :=
  match value with
  | .upload => .error (.fault .notText)
  | .text s =>
    match readNumber s with
    | .error f => .error (.fault f)
    | .ok .none => .error (.payment .invalidMemo)
    | .ok (.some n) => Malformed.orFault (ofId n)

/-- The memo of kind `"hash"`, with the length of its bytes checked where it is made. -/
def makeHash (value : Field) : Except Failure Memo :=
  match value with
  | .upload => .error (.fault .notText)
  | .text s =>
    match s.whole?.bind Hex.decode? with
    | .none => .error (.payment .invalidMemo)
    | .some bytes =>
      if bytes.length ≠ 32 then .error (.payment .invalidMemo) else Malformed.orFault (ofHash bytes)

/-- The memo of a kind and a value, with the rule of its kind checked where it is made. -/
def make (kind value : Field) : Except Failure Memo :=
  match kind with
  | .upload => .error (.payment .invalidMemo)
  | .text kind =>
    if kind = "id" then makeId value
    else if kind = "text" then .ok (.text value)
    else if kind = "hash" then makeHash value
    else .error (.payment .invalidMemo)

/-- The memo of a payment, with the rule of its kind checked where it is made. -/
def makeResolved (kind value : Field) (destination : Destination) : Except Failure Memo :=
  match checkPair kind value with
  | .error e => .error (.payment e)
  | .ok () =>
    match destination.memo with
    | .some (destinationKind, destinationValue) =>
      if kind.isEmpty then
        (if destinationKind.isEmpty then .ok .none else make destinationKind destinationValue)
      else .error (.payment .cannotUseMemo)
    | .none => if kind.isEmpty then .ok .none else make kind value

/-- A number below `2 ^ 64` has room in a memo. -/
theorem ofId_of_lt {n : Nat} (h : n < UInt64.size) : ofId n = .ok (.id (UInt64.ofNat n)) := by
  have hrange : (0 : Int) ≤ n ∧ (n : Int) < UInt64.size := by omega
  rw [ofId, if_pos hrange, Int.toNat_natCast]

theorem makeId_eq (value : Field) : makeId value = parseId value := by
  cases value with
  | upload => rfl
  | text s =>
    unfold makeId parseId
    dsimp only
    rw [parseUInt64_eq]
    cases hread : readNumber s with
    | error f => rfl
    | ok found =>
      cases found with
      | none => rfl
      | some n =>
        have hmade : ofId n = .ok (.id (UInt64.ofNat n)) := ofId_of_lt (readNumber_lt hread)
        simp only [hmade]
        rfl

theorem makeHash_eq (value : Field) : makeHash value = parseHash value := by
  cases value with
  | upload => rfl
  | text s =>
    unfold makeHash parseHash
    dsimp only
    cases s.whole?.bind Hex.decode? with
    | none => rfl
    | some bytes =>
      by_cases hlength : bytes.length = 32
      · have hmade : ofHash bytes = .ok (.hash ⟨bytes, hlength⟩) := dif_pos hlength
        simp only [hlength, hmade, ne_eq, not_true_eq_false, if_false, dite_true]
        rfl
      · simp [hlength]

/-- What is read as a memo keeps the rule of its kind. -/
theorem make_eq (kind value : Field) : make kind value = parse kind value := by
  cases kind with
  | upload => rfl
  | text kind =>
    unfold make parse
    rw [makeId_eq, makeHash_eq]

theorem makeResolved_eq (kind value : Field) (destination : Destination) :
    makeResolved kind value destination = resolve kind value destination := by
  unfold makeResolved resolve
  cases checkPair kind value with
  | error e => rfl
  | ok _ =>
    cases destination.memo with
    | none => simp only [make_eq]
    | some pair => simp only [make_eq]

theorem checkOwner_keepsRules (kind : Field) (came : Option (Str × Str)) :
    KeepsRules (checkOwner kind came) := by
  unfold checkOwner
  split
  · exact .ok ()
  · exact .payment _

theorem ofPair_keepsRules (pair : Field × Field) : KeepsRules (ofPair pair) := by
  unfold ofPair
  split
  · exact .ok _
  · exact parse_ne_malformed

theorem resolve_keepsRules (kind value : Field) (destination : Destination) :
    KeepsRules (resolve kind value destination) := by
  rw [resolve_eq]
  exact (KeepsRules.mapError_payment _).bind fun _ =>
    (checkOwner_keepsRules kind destination.memo).bind fun _ => ofPair_keepsRules _

end Memo

end Paygate
