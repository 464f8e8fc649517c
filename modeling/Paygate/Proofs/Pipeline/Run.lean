import Paygate.Pipeline.Session

/-!
# Runs and their parts

What a part of the pipeline does depends on the world in which it starts, and it only adds to the
calls and records of its session. `Ends m w result w' calls` says all of this about one part: from
the world `w` it comes to `result` in the world `w'` and makes `calls` on the way. The rules follow
the constructors of a run: a call, a record, an end, and one part after another.
-/

namespace Paygate.Run

variable {ω α β : Type} {m : Run ω α} {f : α → Run ω β} {w w₁ w₂ : ω} {calls calls' : List Call}

/-- From the world `w` the part ends with `result` in the world `w'` after `calls`. -/
def Ends (m : Run ω α) (w : ω) (result : Except Failure α) (w' : ω) (calls : List Call) : Prop :=
  ∀ s : Session ω, s.world = w → ∃ logs,
    m.run s = (result, { world := w', calls := s.calls ++ calls, logs := s.logs ++ logs })

/-- A part comes to one end only. -/
theorem Ends.unique {result result' : Except Failure α} (h : Ends m w result w₁ calls)
    (h' : Ends m w result' w₂ calls') : result = result' ∧ w₁ = w₂ ∧ calls = calls' := by
  obtain ⟨logs, hrun⟩ := h { world := w } rfl
  obtain ⟨logs', hrun'⟩ := h' { world := w } rfl
  obtain ⟨hresult, hsession⟩ := Prod.mk.inj (hrun.symm.trans hrun')
  obtain ⟨hworld, hcalls, -⟩ := Session.mk.inj hsession
  exact ⟨hresult, hworld, hcalls⟩

theorem Ends.pure (a : α) (w : ω) : Ends (Pure.pure a) w (.ok a) w [] := by
  rintro s rfl
  exact ⟨[], by simp; rfl⟩

theorem Ends.throw (e : Failure) (w : ω) : Ends (throw e : Run ω α) w (.error e) w [] := by
  rintro s rfl
  exact ⟨[], by simp; rfl⟩

theorem Ends.ask (call : Call) (answer : ω → Answer ω α) (w : ω) :
    Ends (ask call answer) w (.ok (answer w).value) (answer w).world [call] := by
  rintro s rfl
  exact ⟨(answer s.world).logs, rfl⟩

theorem Ends.log (record : Log.Record) (w : ω) : Ends (log record) w (.ok ()) w [] := by
  rintro s rfl
  exact ⟨[record], by simp; rfl⟩

theorem Ends.ofExcept {x result : Except Failure α} (h : x = result) (w : ω) :
    Ends (ofExcept x) w result w [] := by
  subst h
  cases x with
  | ok a => exact .pure a w
  | error e => exact .throw e w

theorem Ends.ofPayment {x result : Except PaymentError α} (h : x = result) (w : ω) :
    Ends (ofPayment x) w (result.mapError .payment) w [] := by
  subst h
  cases x with
  | ok a => exact .pure a w
  | error e => exact .throw _ w

theorem run_bind (m : Run ω α) (f : α → Run ω β) (s : Session ω) :
    (m >>= f).run s =
      match m.run s with
      | (.ok a, s') => (f a).run s'
      | (.error e, s') => (.error e, s') := by
  rw [ExceptT.run_bind]
  rcases h : m.run s with ⟨result, s'⟩
  cases result with
  | ok a => simp only [bind, StateT.bind, h]
  | error e =>
    simp only [bind, StateT.bind, h]
    rfl

/-- A part that comes to a value is followed by the next one. -/
theorem Ends.bind {a : α} {result : Except Failure β} (hm : Ends m w (.ok a) w₁ calls)
    (hf : Ends (f a) w₁ result w₂ calls') : Ends (m >>= f) w result w₂ (calls ++ calls') := by
  rintro s hs
  obtain ⟨logs, hm⟩ := hm s hs
  obtain ⟨logs', hf⟩ := hf { world := w₁, calls := s.calls ++ calls, logs := s.logs ++ logs } rfl
  refine ⟨logs ++ logs', ?_⟩
  rw [run_bind, hm]
  simpa using hf

/-- A part that fails ends the whole. -/
theorem Ends.bind_error {e : Failure} (hm : Ends m w (.error e) w₁ calls) :
    Ends (m >>= f) w (.error e) w₁ calls := by
  rintro s hs
  obtain ⟨logs, hm⟩ := hm s hs
  exact ⟨logs, by rw [run_bind, hm]⟩

end Paygate.Run
