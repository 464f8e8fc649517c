import Paygate.Ledger.Xdr
import Paygate.Proofs.Ledger.Wire

/-!
# What is written is read

`Reads item bytes a` says that a reader takes exactly these bytes from the front of any byte string
and makes `a` of them. Each writer of the ledger's form has a value that its bytes are read as
(`wire`), and the rules put these together in the order in which the bytes stand.

* `Envelope.decode?_xdr`: the bytes of an envelope are read, to the last one, as that envelope.
-/

namespace Paygate.Wire

/-- The reader takes these bytes, whatever follows them, and makes this value of them. -/
def Reads {α : Type} (item : Reader α) (bytes : Bytes) (a : α) : Prop :=
  ∀ rest, item.run (bytes ++ rest) = some (a, rest)

namespace Reads

variable {α β : Type} {item : Reader α} {next : α → Reader β} {bytes bytes' : Bytes} {a : α} {b : β}

theorem pure (a : α) : Reads (Pure.pure a) [] a := fun _ => rfl

theorem bind (h : Reads item bytes a) (h' : Reads (next a) bytes' b) :
    Reads (item >>= next) (bytes ++ bytes') b := by
  intro rest
  rw [StateT.run_bind, List.append_assoc, h]
  exact h' rest

theorem map {f : α → β} (h : Reads item bytes a) : Reads (f <$> item) bytes (f a) := by
  intro rest
  rw [StateT.run_map, h]
  rfl

/-- The last value of a record. -/
theorem bind_pure {f : α → β} (h : Reads item bytes a) :
    Reads (item >>= fun a => Pure.pure (f a)) bytes (f a) := by
  have hread : Reads (item >>= fun a => Pure.pure (f a)) (bytes ++ []) (f a) := h.bind (pure (f a))
  rwa [List.append_nil] at hread

/-- A condition that holds takes nothing. -/
theorem check {condition : Bool} {next : Unit → Reader β} (h : condition = true)
    (h' : Reads (next ()) bytes b) : Reads (Reader.check condition >>= next) bytes b := by
  rw [Reader.check, if_pos h]
  exact h'

theorem take (bytes : Bytes) : Reads (Reader.take bytes.length) bytes bytes := by
  intro rest
  simp [Reader.take, StateT.run]

theorem take_of_length {n : Nat} (h : bytes.length = n) : Reads (Reader.take n) bytes bytes :=
  h ▸ take bytes

theorem uint32 {n : Nat} (h : n < 2 ^ 32) : Reads Reader.uint32 (Ledger.Xdr.word n) n := by
  have hn : Bytes.toNat (Bytes.ofNat 4 n) = n := by
    rw [Bytes.toNat_ofNat]
    exact Nat.mod_eq_of_lt h
  have hread := (take_of_length (Bytes.length_ofNat 4 n)).map (f := Bytes.toNat)
  rwa [hn] at hread

theorem uint64 {n : Nat} (h : n < 2 ^ 64) : Reads Reader.uint64 (Ledger.Xdr.double n) n := by
  have hn : Bytes.toNat (Bytes.ofNat 8 n) = n := by
    rw [Bytes.toNat_ofNat]
    exact Nat.mod_eq_of_lt h
  have hread := (take_of_length (Bytes.length_ofNat 8 n)).map (f := Bytes.toNat)
  rwa [hn] at hread

theorem int64 {n : Nat} (h : n < 2 ^ 64) :
    Reads Reader.int64 (Ledger.Xdr.double n) (Reader.signed n) := (uint64 h).map

/-- Bytes within a limit, with their padding. -/
theorem counted {limit : Nat} (h : bytes.length ≤ limit) (hlimit : limit < 2 ^ 32) :
    Reads (Reader.counted limit) (Ledger.Xdr.counted bytes) bytes := by
  let width := (4 - bytes.length % 4) % 4
  have hpadding : Reads (Reader.take width) (List.replicate width 0) (List.replicate width 0) :=
    take_of_length List.length_replicate
  have hzeros : (List.replicate width (0 : UInt8)).all (· = 0) = true := by simp
  have hlast : Reads (Reader.take width >>= fun padding => do
      Reader.check (padding.all (· = 0))
      Pure.pure bytes) (List.replicate width 0 ++ []) bytes :=
    hpadding.bind (check hzeros (pure bytes))
  rw [List.append_nil] at hlast
  rw [Ledger.Xdr.counted, List.append_assoc]
  exact (uint32 (by omega)).bind (check (by simpa using h) ((take bytes).bind hlast))

theorem many {γ : Type} {write : γ → Bytes} {value : γ → α}
    (h : ∀ x, Reads item (write x) (value x)) (xs : List γ) :
    Reads (Reader.many item xs.length) (xs.flatMap write) (xs.map value) := by
  induction xs with
  | nil => exact pure []
  | cons x xs ih => exact (h x).bind (ih.bind_pure (f := fun rest => value x :: rest))

/-- Values within a limit, each written and read in the same way. -/
theorem list {γ : Type} {write : γ → Bytes} {value : γ → α} {limit : Nat}
    (h : ∀ x, Reads item (write x) (value x)) {xs : List γ} (hlength : xs.length ≤ limit)
    (hlimit : limit < 2 ^ 32) :
    Reads (Reader.list limit item) (Ledger.Xdr.list write xs) (xs.map value) :=
  (uint32 (by omega)).bind (check (by simpa using hlength) (many h xs))

/-- A value that is absent. -/
theorem absent : Reads (Reader.possible item) (Ledger.Xdr.word 0) none := by
  have hread : Reads (Reader.possible item) (Ledger.Xdr.word 0 ++ []) none :=
    (uint32 (by decide)).bind (pure _)
  rwa [List.append_nil] at hread

theorem recorded (h : Reads item bytes a) : Reads (Reader.recorded item) bytes (a, bytes) := by
  intro rest
  simp [Reader.recorded, StateT.run, show item (bytes ++ rest) = some (a, rest) from h rest]

end Reads

end Paygate.Wire

namespace Paygate.Ledger

open Wire (Reads)
open Xdr

/-! ## Values -/

theorem keyXdr_reads (key : Bytes32) : Reads Wire.publicKey (keyXdr key) key.1 :=
  (Reads.uint32 (by decide)).bind (Reads.take_of_length key.2)

def Account.wire : Account → Wire.Account
  | key bytes => .key bytes.1
  | muxed bytes id => .muxed id.toNat bytes.1

theorem Account.xdr_reads (account : Account) : Reads Wire.Account.read account.xdr account.wire := by
  cases account with
  | key bytes =>
    exact (Reads.uint32 (by decide)).bind (Reads.take_of_length bytes.2).bind_pure
  | muxed bytes id =>
    rw [Account.xdr, List.append_assoc]
    exact (Reads.uint32 (by decide)).bind ((Reads.uint64 id.toNat_lt).bind
      (Reads.take_of_length bytes.2).bind_pure)

theorem AssetCode.length_padded {code : AssetCode} {width : Nat} (h : code.1.length ≤ width) :
    (AssetCode.padded code width).length = width := by
  simp [AssetCode.padded]
  omega

def Asset.wire : Asset → Wire.Asset
  | native => .native
  | credit code issuer =>
    if code.1.length ≤ 4 then .alphanum4 (AssetCode.padded code 4) issuer.1
    else .alphanum12 (AssetCode.padded code 12) issuer.1

theorem Asset.xdr_reads (asset : Asset) : Reads Wire.Asset.read asset.xdr asset.wire := by
  cases asset with
  | native => exact (Reads.uint32 (by decide)).bind (Reads.pure _)
  | credit code issuer =>
    unfold Asset.xdr Asset.wire
    simp only [List.append_assoc]
    split
    · rename_i hshort
      exact (Reads.uint32 (by decide)).bind ((Reads.take_of_length
        (AssetCode.length_padded hshort)).bind (keyXdr_reads issuer).bind_pure)
    · exact (Reads.uint32 (by decide)).bind ((Reads.take_of_length
        (AssetCode.length_padded code.2.1.2)).bind (keyXdr_reads issuer).bind_pure)

def Memo.wire : Memo → Wire.Memo
  | none => .none
  | text bytes => .text bytes.1
  | id value => .id value.toNat
  | hash digest => .hash digest.1

theorem Memo.xdr_reads (memo : Memo) : Reads Wire.Memo.read memo.xdr memo.wire := by
  cases memo with
  | none => exact (Reads.uint32 (by decide)).bind (Reads.pure _)
  | text bytes =>
    exact (Reads.uint32 (by decide)).bind (Reads.counted bytes.2 (by decide)).bind_pure
  | id value => exact (Reads.uint32 (by decide)).bind (Reads.uint64 value.toNat_lt).bind_pure
  | hash digest => exact (Reads.uint32 (by decide)).bind (Reads.take_of_length digest.2).bind_pure

/-! ## Transactions -/

theorem double_reads (amount : Stroops) : Reads Wire.Reader.int64 (double amount.1) amount.1 := by
  have hamount := amount.2.2
  have hread := Reads.int64 (show amount.1 < 2 ^ 64 by omega)
  rwa [Wire.Reader.signed, if_pos (by omega)] at hread

def Operation.wire : Operation → Wire.Body
  | createAccount destination startingBalance => .createAccount destination.1 startingBalance.1
  | payment destination asset amount => .payment destination.wire asset.wire amount.1
  | pathPayment sendAsset sendMax destination destinationAsset destinationAmount path =>
    .pathPayment sendAsset.wire sendMax.1 destination.wire destinationAsset.wire
      destinationAmount.1 (path.1.map Asset.wire)

theorem Operation.body_reads (operation : Operation) :
    Reads Wire.Body.read operation.body operation.wire := by
  cases operation with
  | createAccount destination startingBalance =>
    rw [Operation.body, List.append_assoc]
    exact (Reads.uint32 (by decide)).bind ((keyXdr_reads destination).bind
      (double_reads startingBalance).bind_pure)
  | payment destination asset amount =>
    simp only [Operation.body, List.append_assoc]
    exact (Reads.uint32 (by decide)).bind (destination.xdr_reads.bind (asset.xdr_reads.bind
      (double_reads amount).bind_pure))
  | pathPayment sendAsset sendMax destination destinationAsset destinationAmount path =>
    simp only [Operation.body, List.append_assoc]
    exact (Reads.uint32 (by decide)).bind (sendAsset.xdr_reads.bind ((double_reads sendMax).bind
      (destination.xdr_reads.bind (destinationAsset.xdr_reads.bind
        ((double_reads destinationAmount).bind
          (Reads.list Asset.xdr_reads path.2 (by decide)).bind_pure)))))

theorem Operation.xdr_reads (operation : Operation) :
    Reads Wire.Operation.read operation.xdr ⟨none, operation.wire⟩ := by
  exact Reads.absent.bind operation.body_reads.bind_pure

theorem signed_toUInt64 (n : Int64) : Wire.Reader.signed n.toUInt64.toNat = n.toInt := by
  have hvalue : n.toInt = n.toBitVec.toInt := rfl
  have hnat : n.toUInt64.toNat = n.toBitVec.toNat := rfl
  rw [hvalue, hnat, BitVec.toInt_eq_toNat_cond, Wire.Reader.signed]
  split <;> split <;> omega

def Transaction.wire (t : Transaction) : Wire.Transaction where
  source := t.source.wire
  fee := t.fee.toNat
  sequence := t.sequence.toInt
  preconditions := .none
  memo := t.memo.wire
  operations := [⟨none, t.operation.wire⟩]

theorem Transaction.xdr_reads (t : Transaction) : Reads Wire.Transaction.read t.xdr t.wire := by
  have hsequence := signed_toUInt64 t.sequence ▸ Reads.int64 t.sequence.toUInt64.toNat_lt
  have hconditions : Reads Wire.Preconditions.read (word 0 ++ []) .none :=
    (Reads.uint32 (by decide)).bind (Reads.pure _)
  have hoperations : Reads (Wire.Reader.list 100 Wire.Operation.read) (list Operation.xdr [t.operation])
      [⟨none, t.operation.wire⟩] :=
    Reads.list Operation.xdr_reads (by simp) (by decide)
  rw [List.append_nil] at hconditions
  simp only [Transaction.xdr, List.append_assoc]
  refine t.source.xdr_reads.bind ((Reads.uint32 t.fee.toNat_lt).bind (hsequence.bind
    (hconditions.bind (t.memo.xdr_reads.bind (hoperations.bind ?_)))))
  have hlast : Reads (Wire.Reader.uint32 >>= fun extension => do
      Wire.Reader.check (extension = 0)
      pure t.wire) (word 0 ++ []) t.wire :=
    (Reads.uint32 (by decide)).bind (Reads.check rfl (Reads.pure _))
  rwa [List.append_nil] at hlast

theorem signature_reads (e : Envelope) :
    Reads Wire.Signature.read (e.hint.1 ++ counted e.signature.1) ⟨e.hint.1, e.signature.1⟩ :=
  (Reads.take_of_length e.hint.2).bind
    (Reads.counted (Nat.le_of_eq e.signature.2) (by decide)).bind_pure

def Envelope.wire (e : Envelope) : Wire.Envelope where
  transaction := e.transaction.wire
  bytes := e.transaction.xdr
  signatures := [⟨e.hint.1, e.signature.1⟩]

theorem Envelope.xdr_reads (e : Envelope) : Reads Wire.Envelope.read e.xdr e.wire := by
  have hone : Reads (Wire.Reader.many Wire.Signature.read 1)
      ([e].flatMap fun e => e.hint.1 ++ counted e.signature.1)
      ([e].map fun e => ⟨e.hint.1, e.signature.1⟩) := Reads.many signature_reads [e]
  rw [List.flatMap_singleton] at hone
  have hsignatures : Reads (Wire.Reader.list 20 Wire.Signature.read)
      (word 1 ++ (e.hint.1 ++ counted e.signature.1)) [⟨e.hint.1, e.signature.1⟩] :=
    (Reads.uint32 (by decide)).bind (Reads.check rfl hone)
  simp only [Envelope.xdr, List.append_assoc]
  exact (Reads.uint32 (by decide)).bind (Reads.check rfl (e.transaction.xdr_reads.recorded.bind
    hsignatures.bind_pure))

/-- The bytes of an envelope are read, to the last one, as that envelope. -/
theorem Envelope.decode?_xdr (e : Envelope) : Wire.Envelope.decode? e.xdr = some e.wire := by
  have hread := e.xdr_reads []
  rw [List.append_nil] at hread
  rw [Wire.Envelope.decode?, hread]

end Paygate.Ledger
