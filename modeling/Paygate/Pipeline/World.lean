import Paygate.Pipeline.Execute

/-!
# Worlds in memory

A world holds what the collaborators know: records of addresses, sequences of accounts, accounts
that cannot be loaded, how a submission ends, and how envelopes are built. In a world that advances,
a successful submission adds one to the sequence of the account that was loaded last.
-/

namespace Paygate

namespace World

inductive Resolution where
  | record (record : FederationRecord)
  | failure (message : Str)
deriving DecidableEq, Repr

inductive Submission where
  | response (response : Json)
  | failure (message : String) (status : Option Nat)

inductive BuilderMode where
  /-- Real envelopes. -/
  | ledger
  /-- Always the same envelope. -/
  | recording
  | failure (kind : BuilderErrorKind) (message : String)
deriving DecidableEq, Repr

end World

structure World where
  records : Entries World.Resolution Str := []
  accounts : Entries Str := []
  failing : Entries (Option Nat) := []
  submission : World.Submission := .response (.obj [("hash", .str "abc"), ("ledger", .int 1)])
  builder : World.BuilderMode := .ledger
  advance : Bool := false
  lastLoaded : Option String := none

namespace World

/-- An address without a record names an account if it is not empty and has no `*`. -/
def resolve (address : Field) (world : World) :
    Answer World (Except ResolverFailure FederationRecord) :=
  match address with
  | .upload => { value := .error (.fault .notText), world }
  | .text address =>
    match world.records.lookup address with
    | some (.record record) => { value := .ok record, world }
    | some (.failure message) => { value := .error (.unresolved message), world }
    | none =>
      if address.isEmpty || address.points.contains '*' then
        { value := .error (.unresolved "unknown address"), world }
      else { value := .ok ⟨address, none, none⟩, world }

def load (id : String) (world : World) : Answer World (Except LedgerFailure AccountRecord) :=
  match world.failing.lookup id with
  | some status => { value := .error (.error (.failed "ledger failure" status)), world }
  | none =>
    match world.accounts.lookup id with
    | none => { value := .error (.error (.accountNotFound id)), world }
    | some sequence =>
      { value := .ok ⟨.str id, sequence⟩, world := { world with lastLoaded := some id } }

def build (transaction : Transaction) (seed : String) (world : World) :
    Answer World (Except BuildFailure String) :=
  match world.builder with
  | .ledger => Pipeline.ledgerBuilder transaction seed world
  | .recording => { value := .ok "AAAA-envelope", world }
  | .failure kind message => { value := .error (.error (.reported kind message)), world }

/-- The world after a successful submission. -/
def advanced (world : World) : World :=
  match world.lastLoaded with
  | none => world
  | some id =>
    match world.accounts.lookup id with
    | none => world
    | some (.whole sequence) =>
      if Numeral.isRun sequence.toList then
        let next := toString (Numeral.ofDigits sequence.toList + 1)
        { world with accounts := Entries.set id next world.accounts }
      else world
    | some (.broken _) => world

def submit (_envelope : String) (world : World) : Answer World (Except LedgerFailure Json) :=
  match world.submission with
  | .failure message status => { value := .error (.error (.failed message status)), world }
  | .response response =>
    { value := .ok response, world := if world.advance then world.advanced else world }

def collaborators : Collaborators World := ⟨resolve, load, build, submit⟩

end World

end Paygate
