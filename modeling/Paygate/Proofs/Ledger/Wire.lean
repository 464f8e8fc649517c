import Mathlib.Algebra.Group.Int.Defs
import Mathlib.Algebra.Group.Nat.Defs
import Paygate.Bytes.Basic

/-!
# Reading the binary form

A reader of the ledger's transaction envelopes that does not know how they are written: it takes
bytes from the front, in groups of four, and fails on anything that the format does not allow.
Amounts and sequence numbers are signed, codes keep their padding, and there may be any number of
operations and signatures that the format has room for.

* `Reader`: what all values share: words, counted bytes, lists, values that may be absent.
* `Envelope.decode?`: the envelope that a byte string is, if it is one to its last byte.
-/

namespace Paygate.Wire

/-- A reader takes bytes from the front and leaves the rest. -/
abbrev Reader := StateT Bytes Option

namespace Reader

variable {α : Type}

def take (n : Nat) : Reader Bytes := fun bytes =>
  if n ≤ bytes.length then some (bytes.take n, bytes.drop n) else none

/-- Go on only under a condition. -/
def check (condition : Bool) : Reader Unit := if condition then pure () else failure

def uint32 : Reader Nat := Bytes.toNat <$> take 4

def uint64 : Reader Nat := Bytes.toNat <$> take 8

/-- The number of 64 bits in two's complement. -/
def signed (n : Nat) : Int := if n < 2 ^ 63 then n else n - 2 ^ 64

def int64 : Reader Int := signed <$> uint64

/-- Bytes up to a limit: their count, the bytes, and zeros up to a whole group of four. -/
def counted (limit : Nat) : Reader Bytes := do
  let n ← uint32
  check (n ≤ limit)
  let bytes ← take n
  let padding ← take ((4 - n % 4) % 4)
  check (padding.all (· = 0))
  pure bytes

def many (item : Reader α) : (n : Nat) → Reader (List α)
  | 0 => pure []
  | n + 1 => do
    let first ← item
    let rest ← many item n
    pure (first :: rest)

/-- Values up to a limit: their count and the values. -/
def list (limit : Nat) (item : Reader α) : Reader (List α) := do
  let n ← uint32
  check (n ≤ limit)
  many item n

def possible (item : Reader α) : Reader (Option α) := do
  match ← uint32 with
  | 0 => pure none
  | 1 => do
    let a ← item
    pure (some a)
  | _ => failure

/-- A value and the bytes that it was read from. -/
def recorded (item : Reader α) : Reader (α × Bytes) := fun bytes => do
  let (a, rest) ← item.run bytes
  pure ((a, bytes.take (bytes.length - rest.length)), rest)

end Reader

open Reader

/-! ## Values -/

/-- A key as it stands in the place of an account. -/
def publicKey : Reader Bytes := do
  match ← uint32 with
  | 0 => take 32
  | _ => failure

inductive Account where
  | key (key : Bytes)
  | muxed (id : Nat) (key : Bytes)
deriving DecidableEq

def Account.read : Reader Account := do
  match ← uint32 with
  | 0 => do
    let key ← take 32
    pure (.key key)
  | 0x100 => do
    let id ← uint64
    let key ← take 32
    pure (.muxed id key)
  | _ => failure

/-- An asset whose code has four or twelve bytes, zeros at the end included. -/
inductive Asset where
  | native
  | alphanum4 (code : Bytes) (issuer : Bytes)
  | alphanum12 (code : Bytes) (issuer : Bytes)
deriving DecidableEq

def Asset.read : Reader Asset := do
  match ← uint32 with
  | 0 => pure .native
  | 1 => do
    let code ← take 4
    let issuer ← publicKey
    pure (.alphanum4 code issuer)
  | 2 => do
    let code ← take 12
    let issuer ← publicKey
    pure (.alphanum12 code issuer)
  | _ => failure

inductive Memo where
  | none
  | text (bytes : Bytes)
  | id (value : Nat)
  | hash (digest : Bytes)
  | returnHash (digest : Bytes)
deriving DecidableEq

def Memo.read : Reader Memo := do
  match ← uint32 with
  | 0 => pure .none
  | 1 => do
    let bytes ← counted 28
    pure (.text bytes)
  | 2 => do
    let value ← uint64
    pure (.id value)
  | 3 => do
    let digest ← take 32
    pure (.hash digest)
  | 4 => do
    let digest ← take 32
    pure (.returnHash digest)
  | _ => failure

/-- When a transaction is valid. Conditions other than a span of time are not read. -/
inductive Preconditions where
  | none
  | time (least : Nat) (greatest : Nat)
deriving DecidableEq

def Preconditions.read : Reader Preconditions := do
  match ← uint32 with
  | 0 => pure .none
  | 1 => do
    let least ← uint64
    let greatest ← uint64
    pure (.time least greatest)
  | _ => failure

/-! ## Transactions -/

/-- What an operation does. Kinds that no payment uses are not read. -/
inductive Body where
  | createAccount (destination : Bytes) (startingBalance : Int)
  | payment (destination : Account) (asset : Asset) (amount : Int)
  | pathPayment (sendAsset : Asset) (sendMax : Int) (destination : Account)
      (destinationAsset : Asset) (destinationAmount : Int) (path : List Asset)
deriving DecidableEq

def Body.read : Reader Body := do
  match ← uint32 with
  | 0 => do
    let destination ← publicKey
    let startingBalance ← int64
    pure (.createAccount destination startingBalance)
  | 1 => do
    let destination ← Account.read
    let asset ← Asset.read
    let amount ← int64
    pure (.payment destination asset amount)
  | 2 => do
    let sendAsset ← Asset.read
    let sendMax ← int64
    let destination ← Account.read
    let destinationAsset ← Asset.read
    let destinationAmount ← int64
    let path ← list 5 Asset.read
    pure (.pathPayment sendAsset sendMax destination destinationAsset destinationAmount path)
  | _ => failure

/-- An operation, with a source account of its own if it has one. -/
structure Operation where
  source : Option Account
  body : Body
deriving DecidableEq

def Operation.read : Reader Operation := do
  let source ← possible Account.read
  let body ← Body.read
  pure ⟨source, body⟩

structure Transaction where
  source : Account
  fee : Nat
  sequence : Int
  preconditions : Preconditions
  memo : Memo
  operations : List Operation
deriving DecidableEq

def Transaction.read : Reader Transaction := do
  let source ← Account.read
  let fee ← uint32
  let sequence ← int64
  let preconditions ← Preconditions.read
  let memo ← Memo.read
  let operations ← list 100 Operation.read
  let extension ← uint32
  check (extension = 0)
  pure ⟨source, fee, sequence, preconditions, memo, operations⟩

/-- A signature and the end of the key that it belongs to. -/
structure Signature where
  hint : Bytes
  signature : Bytes
deriving DecidableEq

def Signature.read : Reader Signature := do
  let hint ← take 4
  let signature ← counted 64
  pure ⟨hint, signature⟩

/-- A transaction, the bytes that it was read from, and its signatures. -/
structure Envelope where
  transaction : Transaction
  bytes : Bytes
  signatures : List Signature
deriving DecidableEq

/-- The envelope of a transaction of the first version, whose case number is 2. -/
def Envelope.read : Reader Envelope := do
  let version ← uint32
  check (version = 2)
  let (transaction, bytes) ← recorded Transaction.read
  let signatures ← list 20 Signature.read
  pure ⟨transaction, bytes, signatures⟩

/-- The envelope that these bytes are, if they are one and nothing else. -/
def Envelope.decode? (bytes : Bytes) : Option Envelope :=
  match Envelope.read.run bytes with
  | some (envelope, []) => some envelope
  | _ => none

end Paygate.Wire
