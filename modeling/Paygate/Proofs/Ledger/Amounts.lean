import Paygate.Ledger.Builder
import Paygate.Proofs.Except
import Paygate.Proofs.Ledger.Reads
import Paygate.Proofs.Payment.Amount
import Paygate.Proofs.Sample

/-!
# Amounts on their way into the ledger

An amount is accepted if and only if the number that it writes can be sent, and whatever operation it
then stands in, the ledger reads exactly this number of stroops.

* `Slot`: an operation in which one amount is left open.
* `Builder.operation_fill`: an amount that is accepted goes unchanged into every slot.
* `Builder.amount_exact`: both together, for all texts and slots.
-/

namespace Paygate

/-- An operation in which one amount is left open. -/
inductive Slot where
  | startingBalance (destination : String)
  | amount (destination : String) (asset : Asset)
  | sendMax (destination : String) (sendAsset destinationAsset : Asset) (destinationAmount : Field)
      (path : List Asset)
  | destinationAmount (destination : String) (sendAsset : Asset) (sendMax : Field)
      (destinationAsset : Asset) (path : List Asset)

namespace Slot

/-- The operation with a value as its open amount. -/
def fill (value : Field) : Slot → Operation
  | startingBalance destination => .createAccount destination value
  | amount destination asset => .payment destination asset value
  | sendMax destination sendAsset destinationAsset received path =>
    .pathPayment destination sendAsset value destinationAsset received path
  | destinationAmount destination sendAsset sent destinationAsset path =>
    .pathPayment destination sendAsset sent destinationAsset value path

/-- The amount that the ledger reads in the place of the slot. -/
def amount? : Slot → Wire.Body → Option Int
  | startingBalance .., .createAccount _ stroops => some stroops
  | amount .., .payment _ _ stroops => some stroops
  | sendMax .., .pathPayment _ stroops _ _ _ _ => some stroops
  | destinationAmount .., .pathPayment _ _ _ _ stroops _ => some stroops
  | _, _ => none

/-- With some amount the operation is accepted. -/
def Acceptable (slot : Slot) : Prop :=
  ∃ value lowered, Builder.operation (slot.fill value) = .ok lowered

end Slot

namespace Builder

open Amount (Sendable)

/-! ## Single amounts -/

/-- The builder takes an amount if and only if its number can be sent. -/
theorem amount_eq_ok_iff {text : Str} {stroops : Stroops} :
    amount (.text text) = .ok stroops ↔
      ∃ value, Sendable text value ∧ (stroops.1 : ℚ) = value * 10 ^ 7 := by
  cases text with
  | broken text =>
    have hnone : ∀ value, ¬ Sendable (.broken text) value := by
      rintro value ⟨⟨⟩, -⟩
    simp [amount, hnone]
  | whole text =>
    rw [← Amount.parse_eq_ok_iff]
    unfold amount
    dsimp only
    split
    · rename_i accepted hparse
      rw [hparse, Except.ok.injEq, Except.ok.injEq]
    · rename_i hparse
      simp [hparse]
    · rename_i hparse
      simp [hparse]

/-- A number that can be sent is taken. -/
theorem amount_of_sendable {text : Str} {value : ℚ} (h : Sendable text value) :
    ∃ stroops, amount (.text text) = .ok stroops ∧ (stroops.1 : ℚ) = value * 10 ^ 7 := by
  cases text with
  | broken text => obtain ⟨⟨⟩, -⟩ := h
  | whole text =>
    obtain ⟨stroops, hparse, hvalue⟩ := h.exists_parse
    refine ⟨stroops, ?_, hvalue⟩
    simp only [amount, hparse]

/-- An amount that is not taken is reported as one. -/
theorem amount_refused {text : Str} (h : ¬ ∃ value, Sendable text value) :
    ∃ e, amount (.text text) = .error (.error e) ∧ e.kind = .invalidAmount := by
  cases hamount : amount (.text text) with
  | ok stroops =>
    obtain ⟨value, hsendable, -⟩ := amount_eq_ok_iff.mp hamount
    exact absurd ⟨value, hsendable⟩ h
  | error failure =>
    cases text with
    | broken text =>
      cases hamount
      exact ⟨_, rfl, rfl⟩
    | whole text =>
      unfold amount at hamount
      dsimp only at hamount
      split at hamount <;> cases hamount
      · exact ⟨_, rfl, rfl⟩
      · exact ⟨_, rfl, rfl⟩

/-- Two amounts come to the same number of stroops if and only if they write the same number. -/
theorem amount_eq_iff {text other : Str} {value value' : ℚ} (h : Sendable text value)
    (h' : Sendable other value') : amount (.text text) = amount (.text other) ↔ value = value' := by
  obtain ⟨stroops, hamount, hvalue⟩ := amount_of_sendable h
  constructor
  · intro hsame
    obtain ⟨value'', h'', hvalue''⟩ := amount_eq_ok_iff.mp (hsame.symm.trans hamount)
    rw [h'.1.unique h''.1]
    exact mul_right_cancel₀ (by norm_num) (hvalue.symm.trans hvalue'')
  · rintro rfl
    rw [hamount]
    exact (amount_eq_ok_iff.mpr ⟨value, h', hvalue⟩).symm

/-! ## Operations -/

/-- An operation that is accepted with one amount is accepted with every other in its place, and then
it has this amount and is otherwise the same. -/
theorem operation_fill {slot : Slot} (h : slot.Acceptable) :
    ∃ complete : Stroops → Ledger.Operation, ∀ value stroops, amount value = .ok stroops →
      operation (slot.fill value) = .ok (complete stroops) ∧
        slot.amount? (complete stroops).wire = some (stroops.1 : Int) := by
  obtain ⟨value₀, lowered, hlowered⟩ := h
  cases slot with
  | startingBalance destination =>
    simp only [Slot.fill, operation, bind_eq_ok] at hlowered
    obtain ⟨_, -, key, hkey, -⟩ := hlowered
    refine ⟨fun stroops => .createAccount key stroops, fun value stroops hvalue => ⟨?_, rfl⟩⟩
    simp only [Slot.fill, operation, bind_eq_ok]
    exact ⟨stroops, hvalue, key, hkey, rfl⟩
  | amount destination sent =>
    simp only [Slot.fill, operation, bind_eq_ok] at hlowered
    obtain ⟨sent', hsent, _, -, receiver, hreceiver, -⟩ := hlowered
    refine ⟨fun stroops => .payment receiver sent' stroops, fun value stroops hvalue => ⟨?_, rfl⟩⟩
    simp only [Slot.fill, operation, bind_eq_ok]
    exact ⟨sent', hsent, stroops, hvalue, receiver, hreceiver, rfl⟩
  | sendMax destination sendAsset destinationAsset destinationAmount legs =>
    simp only [Slot.fill, operation, bind_eq_ok] at hlowered
    obtain ⟨sent, hsent, _, -, received, hreceived, least, hleast, legs', hlegs, receiver, hreceiver,
      route, hroute, -⟩ := hlowered
    refine ⟨fun stroops => .pathPayment sent stroops receiver received least route,
      fun value stroops hvalue => ⟨?_, rfl⟩⟩
    simp only [Slot.fill, operation, bind_eq_ok]
    exact ⟨sent, hsent, stroops, hvalue, received, hreceived, least, hleast, legs', hlegs, receiver,
      hreceiver, route, hroute, rfl⟩
  | destinationAmount destination sendAsset sendMax destinationAsset legs =>
    simp only [Slot.fill, operation, bind_eq_ok] at hlowered
    obtain ⟨sent, hsent, most, hmost, received, hreceived, _, -, legs', hlegs, receiver, hreceiver,
      route, hroute, -⟩ := hlowered
    refine ⟨fun stroops => .pathPayment sent most receiver received stroops route,
      fun value stroops hvalue => ⟨?_, rfl⟩⟩
    simp only [Slot.fill, operation, bind_eq_ok]
    exact ⟨sent, hsent, most, hmost, received, hreceived, stroops, hvalue, legs', hlegs, receiver,
      hreceiver, route, hroute, rfl⟩

/-- An amount is taken if and only if its number can be sent; if not, it is reported as an amount. In
every operation that is otherwise accepted, the ledger reads exactly its number of stroops. So two
amounts come to the same if and only if they write the same number. -/
theorem amount_exact (text : Str) :
    (∀ stroops, amount (.text text) = .ok stroops ↔
      ∃ value, Sendable text value ∧ (stroops.1 : ℚ) = value * 10 ^ 7) ∧
    ((¬ ∃ value, Sendable text value) →
      ∃ e, amount (.text text) = .error (.error e) ∧ e.kind = .invalidAmount) ∧
    (∀ value, Sendable text value → ∀ slot : Slot, slot.Acceptable →
      ∃ lowered body stroops, operation (slot.fill (.text text)) = .ok lowered ∧
        Wire.Operation.read lowered.xdr = some (⟨none, body⟩, []) ∧
        slot.amount? body = some stroops ∧ (stroops : ℚ) = value * 10 ^ 7) ∧
    ∀ value, Sendable text value → ∀ other value', Sendable other value' →
      (amount (.text text) = amount (.text other) ↔ value = value') := by
  refine ⟨fun stroops => amount_eq_ok_iff, amount_refused, ?_, ?_⟩
  · intro value hvalue slot hslot
    obtain ⟨stroops, hamount, heq⟩ := amount_of_sendable hvalue
    obtain ⟨complete, hcomplete⟩ := operation_fill hslot
    obtain ⟨hoperation, hslotted⟩ := hcomplete _ stroops hamount
    have hread := (complete stroops).xdr_reads []
    rw [List.append_nil] at hread
    exact ⟨_, _, _, hoperation, hread, hslotted, by exact_mod_cast heq⟩
  · intro value hvalue other value' hvalue'
    exact amount_eq_iff hvalue hvalue'

/-- What is sent at most in a path payment over one leg. -/
def pathSlot : Slot :=
  .sendMax Sample.destination .native (.issued ⟨"FRANC", Sample.destination, rfl, rfl⟩) "2"
    [.issued ⟨"KRONA", Sample.destination, rfl, rfl⟩]

theorem pathSlot_acceptable : pathSlot.Acceptable := by
  have hok : (operation (pathSlot.fill "1")).isOk = true := by decide +kernel
  cases h : operation (pathSlot.fill "1") with
  | error e =>
    rw [h] at hok
    cases hok
  | ok lowered => exact ⟨"1", lowered, h⟩

/-- The greatest amount, with a zero in front, and the one after it. -/
theorem greatest_exact :
    (∃ lowered body, operation (pathSlot.fill "0922337203685.4775807") = .ok lowered ∧
      Wire.Operation.read lowered.xdr = some (⟨none, body⟩, []) ∧
      pathSlot.amount? body = some 9223372036854775807) ∧
    amount "0922337203685.4775807" = amount "922337203685.4775807" ∧
    ∃ e, amount "922337203685.4775808" = .error (.error e) ∧ e.kind = .invalidAmount := by
  have hgreatest : Amount.parse "0922337203685.4775807" = .ok ⟨9223372036854775807, by decide⟩ := by
    decide +kernel
  have hplain : Amount.parse "922337203685.4775807" = .ok ⟨9223372036854775807, by decide⟩ := by
    decide +kernel
  have hnext : Amount.parse "922337203685.4775808" = .error .outOfRange := by decide +kernel
  obtain ⟨value, hsendable, hvalue⟩ := Amount.parse_eq_ok_iff.mp hgreatest
  obtain ⟨value', hsendable', hvalue'⟩ := Amount.parse_eq_ok_iff.mp hplain
  refine ⟨?_, ?_, ?_⟩
  · obtain ⟨lowered, body, stroops, hoperation, hread, hamount, hstroops⟩ :=
      (amount_exact "0922337203685.4775807").2.2.1 value hsendable pathSlot pathSlot_acceptable
    have hsame : stroops = 9223372036854775807 := by exact_mod_cast hstroops.trans hvalue.symm
    exact ⟨lowered, body, hoperation, hread, hsame ▸ hamount⟩
  · have hsame : value = value' :=
      mul_right_cancel₀ (by norm_num) (hvalue.symm.trans hvalue')
    exact ((amount_exact "0922337203685.4775807").2.2.2 value hsendable _ value' hsendable').mpr hsame
  · refine (amount_exact "922337203685.4775808").2.1 ?_
    rintro ⟨value, hsendable⟩
    obtain ⟨stroops, hparse, -⟩ := hsendable.exists_parse
    cases hnext.symm.trans hparse

end Builder

end Paygate
