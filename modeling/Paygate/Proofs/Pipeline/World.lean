import Paygate.Pipeline.World
import Paygate.Proofs.Pipeline.Course

/-!
# What a world in memory answers

Only the account that was loaded last changes before a submission (`AsBefore`), so up to then every
question has the answer that it has in the first world.
-/

namespace Paygate.World

/-- The world `w'` is `w` but for the account that was loaded last. -/
def AsBefore (w w' : World) : Prop := ∃ last, w' = { w with lastLoaded := last }

theorem AsBefore.refl (w : World) : AsBefore w w := ⟨w.lastLoaded, rfl⟩

theorem AsBefore.trans {w₁ w₂ w₃ : World} (h : AsBefore w₁ w₂) (h' : AsBefore w₂ w₃) :
    AsBefore w₁ w₃ := by
  obtain ⟨last, rfl⟩ := h
  obtain ⟨last', rfl⟩ := h'
  exact ⟨last', rfl⟩

theorem resolve_world (address : Field) (w : World) : (resolve address w).world = w := by
  unfold resolve
  split
  · rfl
  · split
    · rfl
    · rfl
    · split <;> rfl

/-- A record that is found stands in the world, or it has no memo. -/
theorem resolve_ok_cases {address : Field} {w : World} {record : FederationRecord}
    (h : (resolve address w).value = .ok record) :
    (∃ text, w.records.lookup text = some (.record record)) ∨
      record.memoType = none ∧ record.memo = none := by
  unfold resolve at h
  split at h
  · cases h
  · split at h
    · rename_i hlookup
      cases h
      exact .inl ⟨_, hlookup⟩
    · cases h
    · split at h <;> cases h
      exact .inr ⟨rfl, rfl⟩

/-- Only a file in the place of an address is a fault. -/
theorem resolve_ne_fault {address : Field} (htext : address ≠ .upload) (w : World) (f : Fault) :
    (resolve address w).value ≠ .error (.fault f) := by
  unfold resolve
  split
  · exact absurd rfl htext
  · split
    · nofun
    · nofun
    · split <;> nofun

/-- The answer for an account: its sequence, its absence, or a failure if it cannot be loaded. -/
theorem load_value_cases (id : String) (w : World) :
    (∃ status, w.failing.lookup id = some status ∧
      (load id w).value = .error (.error (.failed "ledger failure" status))) ∨
    w.failing.lookup id = none ∧
      ((w.accounts.lookup id = none ∧ (load id w).value = .error (.error (.accountNotFound id))) ∨
        ∃ sequence, w.accounts.lookup id = some sequence ∧
          (load id w).value = .ok ⟨.str id, sequence⟩) := by
  unfold load
  cases hfailing : w.failing.lookup id with
  | some status => exact .inl ⟨status, rfl, rfl⟩
  | none =>
    refine .inr ⟨rfl, ?_⟩
    cases haccount : w.accounts.lookup id with
    | none => exact .inl ⟨rfl, rfl⟩
    | some sequence => exact .inr ⟨sequence, rfl, rfl⟩

theorem build_world (transaction : Transaction) (seed : String) (w : World) :
    (build transaction seed w).world = w := by
  unfold build
  split
  · exact Pipeline.ledgerBuilder_world transaction seed w
  · rfl
  · rfl

theorem load_world (id : String) (w : World) : AsBefore w (load id w).world := by
  unfold load
  split
  · exact .refl w
  · split
    · exact .refl w
    · exact ⟨some id, rfl⟩

theorem load_value_of_asBefore {w w' : World} (h : AsBefore w w') (id : String) :
    (load id w').value = (load id w).value := by
  obtain ⟨last, rfl⟩ := h
  unfold load
  dsimp only
  split
  · rfl
  · split <;> rfl

theorem build_value_of_asBefore {w w' : World} (h : AsBefore w w') (transaction : Transaction)
    (seed : String) : (build transaction seed w').value = (build transaction seed w).value := by
  obtain ⟨last, rfl⟩ := h
  unfold build Pipeline.ledgerBuilder
  dsimp only
  split
  · split <;> rfl
  · rfl
  · rfl

/-- The composition of an operation asks at most for an account. -/
theorem composes_asBefore {request : PaymentRequest} {account : String} {w w' : World}
    {result : Except Failure (Option Operation)} {calls : List Call}
    (h : Pipeline.Composes collaborators request account w result w' calls) : AsBefore w w' := by
  cases h with
  | native | inconclusive => exact load_world account w
  | _ => exact .refl w

/-- How a submission ends stands in the world. -/
theorem submit_value_of_asBefore {w w' : World} (h : AsBefore w w') (envelope : String) :
    (submit envelope w').value = match w.submission with
      | .response response => .ok response
      | .failure message status => .error (.error (.failed message status)) := by
  obtain ⟨last, rfl⟩ := h
  unfold submit
  dsimp only
  cases w.submission <;> rfl

theorem load_eq_ok {id : String} {w : World} {record : AccountRecord}
    (h : (load id w).value = .ok record) :
    w.accounts.lookup id = some record.sequence ∧ (load id w).world = { w with lastLoaded := some id } := by
  unfold load at h ⊢
  split at h
  · cases h
  · split at h
    · cases h
    · rename_i hlookup
      cases h
      exact ⟨hlookup, rfl⟩

/-- A submission that fails changes nothing. -/
theorem submit_eq_error (envelope : String) (w : World) {e : LedgerFailure}
    (h : (submit envelope w).value = .error e) : (submit envelope w).world = w := by
  unfold submit at h ⊢
  split at h
  · rfl
  · cases h

theorem submit_eq_ok {envelope : String} {w : World} {response : Json} (hadvance : w.advance = true)
    (h : (submit envelope w).value = .ok response) : (submit envelope w).world = w.advanced := by
  unfold submit at h ⊢
  split at h
  · cases h
  · exact if_pos hadvance

/-- The account that was loaded last has its next number. -/
theorem advanced_eq {id sequence : String} {w : World} (hlast : w.lastLoaded = some id)
    (hlookup : w.accounts.lookup id = some (.whole sequence)) (hrun : Numeral.isRun sequence.toList = true) :
    w.advanced = { w with
      accounts := Entries.set id (toString (Numeral.ofDigits sequence.toList + 1)) w.accounts } := by
  unfold advanced
  simp only [hlast, hlookup, hrun, if_true]

/-- A world in memory answers submissions, or fails to, but has no faults. -/
theorem submit_value (envelope : String) (w : World) :
    (∃ response, (submit envelope w).value = .ok response) ∨
      ∃ e, (submit envelope w).value = .error (.error e) := by
  unfold submit
  split
  · exact .inr ⟨_, rfl⟩
  · exact .inl ⟨_, rfl⟩

end Paygate.World

/-! ## Runs -/

namespace Paygate.Pipeline

open World (AsBefore)

variable {world w' : World} {config : Config} {request : PaymentRequest} {calls : List Call}
  {seed source : String} {destination : Destination}

theorem resolve_same (address : Field) (world : World) :
    (World.collaborators.resolve address world).world = world :=
  World.resolve_world address world

theorem build_same (transaction : Transaction) (seed : String) (world : World) :
    (World.collaborators.build transaction seed world).world = world :=
  World.build_world transaction seed world

theorem Composes.asBefore {account : String} {result : Except Failure (Option Operation)}
    (h : Composes World.collaborators request account
      (World.collaborators.resolve request.destination world).world result w' calls) :
    AsBefore world w' := by
  rw [resolve_same] at h
  exact World.composes_asBefore h

theorem Prepared.asBefore {operation : Option Operation} {memo : Memo}
    (h : Prepared World.collaborators request world seed source destination operation memo w' calls) :
    AsBefore world w' :=
  h.composed.asBefore

/-- When an envelope is built, only the account that was loaded last differs. -/
theorem Assembled.asBefore {transaction : Transaction}
    (h : Assembled World.collaborators config request world seed source destination transaction w' calls) :
    AsBefore world (World.collaborators.load source w').world := by
  obtain ⟨prepared, -, -⟩ := h
  exact prepared.asBefore.trans (World.load_world source w')

end Paygate.Pipeline
