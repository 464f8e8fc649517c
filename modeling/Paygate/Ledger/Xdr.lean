import Paygate.Bytes.Base64
import Paygate.Crypto.Ed25519
import Paygate.Crypto.Sha256
import Paygate.Ledger.Transaction

/-!
# The binary form of transactions

External Data Representation: numbers are big-endian words of four or eight bytes, a union starts
with the number of its case, a list with its length, and everything fills whole groups of four
bytes. `Transaction.hash` is what a signature signs; `sign` makes the envelope.
-/

namespace Paygate.Ledger

namespace Xdr

def word (n : Nat) : Bytes := Bytes.ofNat 4 n

def double (n : Nat) : Bytes := Bytes.ofNat 8 n

/-- Bytes of any number: their count, the bytes, and zeros up to a whole group. -/
def counted (bytes : Bytes) : Bytes :=
  word bytes.length ++ bytes ++ List.replicate ((4 - bytes.length % 4) % 4) 0

def list {α : Type} (item : α → Bytes) (items : List α) : Bytes :=
  word items.length ++ items.flatMap item

end Xdr

open Xdr

/-- An account that must be a plain key. -/
def keyXdr (key : Bytes32) : Bytes := word 0 ++ key.1

def Account.xdr : Account → Bytes
  | key bytes => word 0 ++ bytes.1
  | muxed bytes id => word 0x100 ++ double id.toNat ++ bytes.1

/-- The bytes of a code, filled with zeros to `width`. -/
def AssetCode.padded (code : AssetCode) (width : Nat) : Bytes :=
  code.1.map (fun c => UInt8.ofNat c.toNat) ++ List.replicate (width - code.1.length) 0

def Asset.xdr : Asset → Bytes
  | native => word 0
  | credit code issuer =>
    if code.1.length ≤ 4 then word 1 ++ AssetCode.padded code 4 ++ keyXdr issuer
    else word 2 ++ AssetCode.padded code 12 ++ keyXdr issuer

def Memo.xdr : Memo → Bytes
  | none => word 0
  | text bytes => word 1 ++ counted bytes.1
  | id value => word 2 ++ double value.toNat
  | hash digest => word 3 ++ digest.1

def Operation.body : Operation → Bytes
  | createAccount destination startingBalance => word 0 ++ keyXdr destination ++ double startingBalance.1
  | payment destination asset amount => word 1 ++ destination.xdr ++ asset.xdr ++ double amount.1
  | pathPayment sendAsset sendMax destination destinationAsset destinationAmount path =>
    word 2 ++ sendAsset.xdr ++ double sendMax.1 ++ destination.xdr ++ destinationAsset.xdr ++
      double destinationAmount.1 ++ list Asset.xdr path.1

/-- The operation has no source account of its own. -/
def Operation.xdr (operation : Operation) : Bytes := word 0 ++ operation.body

/-- Preconditions, and the extension at the end, are absent. -/
def Transaction.xdr (t : Transaction) : Bytes :=
  t.source.xdr ++ word t.fee.toNat ++ double t.sequence.toUInt64.toNat ++ word 0 ++ t.memo.xdr ++
    list Operation.xdr [t.operation] ++ word 0

/-- The case number of a transaction in envelopes and in what is signed. -/
def envelopeCase : Nat := 2

/-- The hash that is signed: it binds the transaction to the network with that passphrase. -/
def Transaction.hash (t : Transaction) (passphrase : String) : Bytes :=
  Sha256.hash (Sha256.hash (Bytes.ofString passphrase) ++ word envelopeCase ++ t.xdr)

def Envelope.xdr (e : Envelope) : Bytes :=
  word envelopeCase ++ e.transaction.xdr ++ word 1 ++ e.hint.1 ++ counted e.signature.1

def Envelope.text (e : Envelope) : String := Base64.encode e.xdr

def Transaction.sign (t : Transaction) (passphrase : String) (seed : Bytes32) : Envelope where
  transaction := t
  hint := ⟨(Ed25519.publicKey seed.1).drop 28, by simp⟩
  signature := ⟨Ed25519.sign seed.1 (t.hash passphrase), by simp⟩

end Paygate.Ledger
