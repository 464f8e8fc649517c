import Paygate.Federation.Record
import Paygate.Ledger.Builder
import Paygate.Log.Record

/-!
# Collaborators and sessions

The payment pipeline asks four collaborators: a resolver of addresses, the ledger for accounts and
for submission, and a builder of envelopes. Each answers with a value or a failure, changes the
world `ω` that they share, and may write log records. A session keeps the world together with every
call that was made and every record that was written, in order.
-/

namespace Paygate

/-- Why an address has no record. -/
inductive ResolverFailure where
  | unresolved (message : Str)
  | fault (fault : Fault)
deriving DecidableEq, Repr

/-- An account as the ledger describes it: the id it reports, of any form, and its sequence. -/
structure AccountRecord where
  id : Json
  sequence : Str

/-- Why the ledger did not do what it was asked. -/
inductive LedgerError where
  | accountNotFound (id : String)
  | failed (message : String) (status : Option Nat)
deriving DecidableEq, Repr

namespace LedgerError

def message : LedgerError → String
  | accountNotFound id => "Account " ++ id ++ " not found"
  | failed message _ => message

def status : LedgerError → Option Nat
  | accountNotFound _ => some 404
  | failed _ status => status

end LedgerError

inductive LedgerFailure where
  | error (error : LedgerError)
  | fault (fault : Fault)
deriving DecidableEq, Repr

/-- The answer of a collaborator. -/
structure Answer (ω α : Type) where
  value : α
  world : ω
  logs : List Log.Record := []

structure Collaborators (ω : Type) where
  resolve : Field → ω → Answer ω (Except ResolverFailure FederationRecord)
  load : String → ω → Answer ω (Except LedgerFailure AccountRecord)
  build : Transaction → String → ω → Answer ω (Except BuildFailure String)
  submit : String → ω → Answer ω (Except LedgerFailure Json)

/-- A call of a collaborator. -/
inductive Call where
  | resolve (address : Field)
  | load (account : String)
  | build (transaction : Transaction) (seed : String)
  | submit (envelope : String)
deriving DecidableEq

structure Session (ω : Type) where
  world : ω
  calls : List Call := []
  logs : List Log.Record := []

/-- A part of the pipeline: it works on a session and ends with a result or a failure. -/
abbrev Run (ω : Type) := ExceptT Failure (StateM (Session ω))

namespace Run

variable {ω α : Type}

def log (record : Log.Record) : Run ω Unit :=
  modify fun s => { s with logs := s.logs ++ [record] }

/-- Make a call and keep the world and the records that it leaves. -/
def ask (call : Call) (answer : ω → Answer ω α) : Run ω α := do
  let s ← get
  let a := answer s.world
  set { s with world := a.world, calls := s.calls ++ [call], logs := s.logs ++ a.logs }
  pure a.value

def fail (error : PaymentError) : Run ω α := throw (.payment error)

def fault (fault : Fault) : Run ω α := throw (.fault fault)

def ofExcept (result : Except Failure α) : Run ω α :=
  match result with
  | .ok a => pure a
  | .error e => throw e

def ofPayment (result : Except PaymentError α) : Run ω α :=
  match result with
  | .ok a => pure a
  | .error e => fail e

end Run

end Paygate
