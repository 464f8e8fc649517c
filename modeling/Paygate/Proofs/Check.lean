import Paygate.Payment.Error
import Paygate.Proofs.Except

/-!
# Checks in their order

A check is a condition with the error of a payment that breaks it. A list of checks decides a result
if the result is a value when all of them hold, and otherwise the error of the first one that does not.

* `Check.firstError_append`: the checks of a later stage count only if the earlier ones hold.
* `Decides.bind`, `Decides.mapM`: the checks of a computation in several steps are those of its steps.
-/

namespace Paygate

structure Check where
  error : PaymentError
  holds : Bool
deriving DecidableEq, Repr

namespace Check

/-- The error of the first check that does not hold. -/
def firstError (checks : List Check) : Option PaymentError :=
  (checks.find? fun check => !check.holds).map Check.error

theorem firstError_eq_none_iff {checks : List Check} :
    firstError checks = none ↔ ∀ check ∈ checks, check.holds = true := by
  simp [firstError]

theorem firstError_nil : firstError [] = none := rfl

theorem firstError_cons (check : Check) (checks : List Check) :
    firstError (check :: checks) = if check.holds then firstError checks else some check.error := by
  unfold firstError
  cases h : check.holds <;> simp [h]

theorem firstError_append (xs ys : List Check) :
    firstError (xs ++ ys) = (firstError xs).or (firstError ys) := by
  induction xs with
  | nil => rfl
  | cons x xs ih =>
    rw [List.cons_append, firstError_cons, firstError_cons, ih]
    split <;> rfl

end Check

/-- The error of a payment that a failure is. A fault is none. -/
def Failure.payment? : Failure → Option PaymentError
  | .payment e => some e
  | .fault _ => none

theorem Failure.payment?_eq_some {e : Failure} {error : PaymentError} :
    e.payment? = some error ↔ e = .payment error := by
  cases e <;> simp [payment?]

open Check

variable {ε α β : Type} {explain : ε → Option PaymentError} {checks xs ys : List Check}

/-- The checks decide a result whose errors are explained as errors of a payment. -/
def Decides (explain : ε → Option PaymentError) (checks : List Check) : Except ε α → Prop
  | .ok _ => firstError checks = none
  | .error e => ∃ error, explain e = some error ∧ firstError checks = some error

namespace Decides

theorem ok (a : α) : Decides explain [] (.ok a) := rfl

/-- A check that holds lets a value through. -/
theorem pass {check : Check} (h : check.holds = true) (a : α) : Decides explain [check] (.ok a) := by
  rw [Decides, firstError_cons, if_pos h]
  rfl

/-- A check that does not hold ends in its error. -/
theorem stop {check : Check} {e : ε} (h : check.holds = false) (he : explain e = some check.error) :
    Decides (α := α) explain [check] (.error e) := by
  refine ⟨check.error, he, ?_⟩
  rw [firstError_cons, if_neg (by simp [h])]

/-- Checks that hold may stand in front. -/
theorem after {result : Except ε α} (hxs : firstError xs = none) (hys : Decides explain ys result) :
    Decides explain (xs ++ ys) result := by
  cases result with
  | ok a =>
    rw [Decides, firstError_append, hxs]
    exact hys
  | error e =>
    obtain ⟨error, he, herror⟩ := hys
    refine ⟨error, he, ?_⟩
    rw [firstError_append, hxs]
    exact herror

/-- Behind a check that does not hold the others do not count. -/
theorem before {e : ε} (h : Decides (α := α) explain xs (.error e)) (ys : List Check) :
    Decides (α := α) explain (xs ++ ys) (.error e) := by
  obtain ⟨error, he, herror⟩ := h
  refine ⟨error, he, ?_⟩
  rw [firstError_append, herror]
  rfl

theorem bind {x : Except ε α} {f : α → Except ε β} (hx : Decides explain xs x)
    (hf : ∀ a, x = .ok a → Decides explain ys (f a)) : Decides explain (xs ++ ys) (x >>= f) := by
  cases x with
  | ok a => exact (hf a rfl).after hx
  | error e => exact hx.before ys

/-- A last step without checks. -/
theorem finish {x : Except ε α} {f : α → Except ε β} (hx : Decides explain xs x)
    (hf : ∀ a, x = .ok a → Decides explain [] (f a)) : Decides explain xs (x >>= f) := by
  have hsteps := hx.bind hf
  rwa [List.append_nil] at hsteps

theorem map {x : Except ε α} {f : α → β} (hx : Decides explain xs x) :
    Decides explain xs (x >>= fun a => pure (f a)) :=
  hx.finish fun a _ => ok (f a)

theorem mapM {items : List α} {checks : α → List Check} {f : α → Except ε β}
    (h : ∀ item ∈ items, Decides explain (checks item) (f item)) :
    Decides explain (items.flatMap checks) (items.mapM f) := by
  induction items with
  | nil => exact ok []
  | cons item items ih =>
    rw [List.flatMap_cons, List.mapM_cons]
    have hrest := ih fun other hother => h other (List.mem_cons_of_mem item hother)
    exact (h item List.mem_cons_self).bind fun _ _ => hrest.map

/-- Errors that are explained in the same way. -/
theorem mapError {ε' : Type} {explain' : ε' → Option PaymentError} {x : Except ε α} {g : ε → ε'}
    (hx : Decides explain xs x) (hg : ∀ e, explain' (g e) = explain e) :
    Decides explain' xs (x.mapError g) := by
  cases x with
  | ok a => exact hx
  | error e =>
    obtain ⟨error, he, herror⟩ := hx
    exact ⟨error, (hg e).trans he, herror⟩

theorem of_eq {result result' : Except ε α} (h : Decides explain checks result)
    (heq : result = result') : Decides explain checks result' := by
  rw [← heq]
  exact h

/-- Checks with the same first error decide the same. -/
theorem congr {result : Except ε α} (h : Decides explain xs result)
    (heq : firstError xs = firstError ys) : Decides explain ys result := by
  cases result with
  | ok a => exact heq.symm.trans h
  | error e =>
    obtain ⟨error, he, herror⟩ := h
    exact ⟨error, he, heq.symm.trans herror⟩

/-- Where all checks hold there is a value. -/
theorem exists_ok {result : Except ε α} (h : Decides explain checks result)
    (hnone : firstError checks = none) : ∃ a, result = .ok a := by
  cases result with
  | ok a => exact ⟨a, rfl⟩
  | error e =>
    obtain ⟨error, -, herror⟩ := h
    cases hnone.symm.trans herror

/-- A value passes all checks. -/
theorem firstError_eq_none {result : Except ε α} {a : α} (h : Decides explain checks result)
    (hresult : result = .ok a) : firstError checks = none :=
  h.of_eq hresult

/-- What is decided fails with errors of a payment only. -/
theorem error_payment {result : Except Failure α} {e : Failure}
    (h : Decides Failure.payment? checks result) (hresult : result = .error e) :
    ∃ error, e = .payment error := by
  obtain ⟨error, he, -⟩ := h.of_eq hresult
  exact ⟨error, Failure.payment?_eq_some.mp he⟩

end Decides

end Paygate
