import Mathlib.Data.Int.ModEq
import Mathlib.Data.List.Induction
import Mathlib.Data.List.TakeWhile
import Paygate.Ledger.Builder
import Paygate.Proofs.Bytes.Base32
import Paygate.Proofs.Bytes.Base64
import Paygate.Proofs.Except
import Paygate.Proofs.Ledger.Reads
import Paygate.Proofs.Payment.Amount
import Paygate.Proofs.Sample
import Paygate.Proofs.Text.Ascii

/-!
# What an envelope says

The envelope of a transaction, read back from its text, says what the transaction says: the same
accounts, assets, amounts and memo, nothing else, and one signature over the bytes that were read.

* `Account.Named`, `Asset.Named`, `Memo.Named`, `Counts`, `Body.Performs`: a value that was read is the
  one that a payment names.
* `Transaction.Carries`, `Envelope.Carries`: the whole.
* `Builder.envelope_carries`: whenever an envelope is built, its text is read as an envelope that
  carries the transaction.
-/

namespace Paygate.Wire

/-! ## The values of a payment -/

/-- The account that a text names. The id of a multiplexed account stands behind its key. -/
inductive Account.Named (text : String) : Account → Prop
  | key {payload : StrKey.Payload .account} (decoded : StrKey.decode? .account text = some payload) :
      Named text (.key payload.1)
  | muxed {payload : StrKey.Payload .muxed} (decoded : StrKey.decode? .muxed text = some payload) :
      Named text (.muxed (Bytes.toNat (payload.1.drop 32)) (payload.1.take 32))

/-- The characters of a code without the zeros at its end. -/
def unpadded (code : Bytes) : List Char :=
  ((code.reverse.dropWhile (· = 0)).reverse).map fun b => Char.ofNat b.toNat

/-- The bytes are the code and the issuer of an asset whose code is this text. -/
structure Issues (asset : IssuedAsset) (text : String) (code key : Bytes) : Prop where
  code_eq : asset.code = .text text
  unpadded_eq : unpadded code = text.toList
  issuer : ∃ issuer : String, ∃ payload, asset.issuer = .text issuer ∧
    StrKey.decode? .account issuer = some payload ∧ key = payload.1

/-- The asset of a payment. Codes of at most four characters are written in four bytes. -/
inductive Asset.Named : Paygate.Asset → Asset → Prop
  | native : Named .native .native
  | alphanum4 {asset : IssuedAsset} {text : String} {code key : Bytes}
      (issues : Issues asset text code key) (short : text.length ≤ 4) :
      Named (.issued asset) (.alphanum4 code key)
  | alphanum12 {asset : IssuedAsset} {text : String} {code key : Bytes}
      (issues : Issues asset text code key) (long : 4 < text.length) :
      Named (.issued asset) (.alphanum12 code key)

/-- A count of stroops is the number that a text writes, times ten million. -/
def Counts (amount : Field) (stroops : Int) : Prop :=
  ∃ value, Amount.Denotes amount value ∧ (stroops : ℚ) = value * 10 ^ 7

inductive Memo.Named : Paygate.Memo → Memo → Prop
  | none : Named .none .none
  | id (value : UInt64) : Named (.id value) (.id value.toNat)
  | text (s : String) : Named (.text (.text s)) (.text (Bytes.ofString s))
  | hash (digest : Bytes32) : Named (.hash digest) (.hash digest.1)

/-- An operation that was read does what an operation of a payment asks for. -/
inductive Body.Performs : Paygate.Operation → Body → Prop
  | createAccount {destination : String} {payload : StrKey.Payload .account} {startingBalance : Field}
      {stroops : Int} (decoded : StrKey.decode? .account destination = some payload)
      (balance : Counts startingBalance stroops) :
      Performs (.createAccount destination startingBalance) (.createAccount payload.1 stroops)
  | payment {destination : String} {account : Account} {sent : Paygate.Asset} {asset : Asset}
      {amount : Field} {stroops : Int} (named : Account.Named destination account)
      (sent_named : Asset.Named sent asset) (counts : Counts amount stroops) :
      Performs (.payment destination sent amount) (.payment account asset stroops)
  | pathPayment {destination : String} {account : Account} {sendAsset destinationAsset : Paygate.Asset}
      {sent received : Asset} {sendMax destinationAmount : Field} {greatest amount : Int}
      {path : List Paygate.Asset} {legs : List Asset} (sent_named : Asset.Named sendAsset sent)
      (greatest_counts : Counts sendMax greatest) (named : Account.Named destination account)
      (received_named : Asset.Named destinationAsset received)
      (amount_counts : Counts destinationAmount amount)
      (legs_named : List.Forall₂ Asset.Named path legs) :
      Performs (.pathPayment destination sendAsset sendMax destinationAsset destinationAmount path)
        (.pathPayment sent greatest account received amount legs)

/-- A transaction that was read says what a transaction of a payment says, and no more. -/
structure Transaction.Carries (w : Transaction) (t : Paygate.Transaction) : Prop where
  source : Account.Named t.source w.source
  fee : (w.fee : Int) = t.baseFee
  sequence_range : -2 ^ 63 ≤ w.sequence ∧ w.sequence < 2 ^ 63
  sequence_modEq : w.sequence ≡ t.sequence [ZMOD 2 ^ 64]
  sequence_eq : -2 ^ 63 ≤ t.sequence → w.sequence = t.sequence
  preconditions : w.preconditions = .none
  memo : Memo.Named t.memo w.memo
  operation : ∃ body, w.operations = [⟨none, body⟩] ∧ Body.Performs t.operation body

/-- What is signed: the network, the case number of a transaction, and the bytes of one. -/
def digest (passphrase : String) (bytes : Bytes) : Bytes :=
  Sha256.hash (Sha256.hash (Bytes.ofString passphrase) ++ [0, 0, 0, 2] ++ bytes)

/-- An envelope that was read carries a transaction with the one signature of this seed. -/
structure Envelope.Carries (w : Envelope) (t : Paygate.Transaction) (signer : String) : Prop where
  transaction : w.transaction.Carries t
  signature : ∃ seed, StrKey.decode? .seed signer = some seed ∧
    w.signatures = [⟨(Ed25519.publicKey seed.1).drop 28,
      Ed25519.sign seed.1 (digest t.passphrase w.bytes)⟩]

end Paygate.Wire

namespace Paygate.Builder

open Wire

/-! ## What the builder makes of a value -/

theorem amount_counts {value : Field} {stroops : Stroops} (h : amount value = .ok stroops) :
    Counts value stroops.1 := by
  unfold amount at h
  split at h
  · cases h
  · cases h
  · split at h <;> cases h
    rename_i hparse
    obtain ⟨value, hdenotes, heq⟩ := Amount.denotes_of_parse hparse
    exact ⟨value, hdenotes, by exact_mod_cast heq⟩

theorem accountKey_eq_ok {text : String} {key : Bytes32} (h : accountKey text = .ok key) :
    StrKey.decode? .account text = some key := by
  unfold accountKey at h
  split at h <;> cases h
  assumption

theorem account_named {text : String} {lowered : Ledger.Account} (h : account text = .ok lowered) :
    Account.Named text lowered.wire := by
  unfold account at h
  split at h
  · rename_i hdecoded
    cases h
    exact .key hdecoded
  · split at h <;> cases h
    rename_i payload hdecoded
    have hlength : (payload.1.drop 32).length = 8 := by simp [payload.2, KeyKind.payloadLength]
    have hid : (UInt64.ofNat (Bytes.toNat (payload.1.drop 32))).toNat =
        Bytes.toNat (payload.1.drop 32) := by
      have hlt := Bytes.toNat_lt (payload.1.drop 32)
      rw [hlength] at hlt
      exact UInt64.toNat_ofNat_of_lt' hlt
    rw [Ledger.Account.wire, hid]
    exact .muxed hdecoded

/-- A character of a code is one byte that is not zero. -/
theorem byte_of_isCodeChar {c : Char} (h : Ledger.isCodeChar c = true) :
    UInt8.ofNat c.toNat ≠ 0 ∧ Char.ofNat (UInt8.ofNat c.toNat).toNat = c := by
  have hrange : 0 < c.toNat ∧ c.toNat < 256 := by
    have hrows := Ascii.toNat_of_isAlphanum h
    omega
  have hbyte : (UInt8.ofNat c.toNat).toNat = c.toNat := UInt8.toNat_ofNat_of_lt' hrange.2
  constructor
  · intro hzero
    rw [hzero] at hbyte
    exact hrange.1.ne hbyte
  · rw [hbyte, Char.ofNat_toNat]

theorem unpadded_padded (code : Ledger.AssetCode) (width : Nat) :
    unpadded (Ledger.AssetCode.padded code width) = code.1 := by
  have hchars := List.all_eq_true.mp code.2.2
  have hzeros : ∀ b ∈ List.replicate (width - code.1.length) (0 : UInt8),
      decide (b = 0) = true := by simp
  have hnonzero : (code.1.map fun c => UInt8.ofNat c.toNat).reverse.dropWhile (· = 0) =
      (code.1.map fun c => UInt8.ofNat c.toNat).reverse := by
    rw [List.dropWhile_eq_self_iff]
    intro hlength
    obtain ⟨c, hc, heq⟩ := List.mem_map.mp (List.mem_reverse.mp (List.getElem_mem hlength))
    rw [← heq]
    simpa using (byte_of_isCodeChar (hchars c hc)).1
  rw [unpadded, Ledger.AssetCode.padded, List.reverse_append, List.reverse_replicate,
    List.dropWhile_append_of_pos hzeros, hnonzero, List.reverse_reverse, List.map_map]
  calc
    _ = code.1.map id :=
      List.map_congr_left fun c hc => (byte_of_isCodeChar (hchars c hc)).2
    _ = code.1 := List.map_id code.1

theorem assetCode_eq_ok {value : Field} {code : Ledger.AssetCode} (h : assetCode value = .ok code) :
    ∃ text : String, value = .text text ∧ text.toList = code.1 := by
  unfold assetCode at h
  split at h
  · cases h
  · cases h
  · split at h <;> cases h
    exact ⟨_, rfl, rfl⟩

theorem issuer_eq_ok {value : Field} {key : Bytes32} (h : issuer value = .ok key) :
    ∃ text : String, value = .text text ∧ StrKey.decode? .account text = some key := by
  unfold issuer at h
  split at h
  · cases h
  · cases h
  · exact ⟨_, rfl, accountKey_eq_ok h⟩

theorem asset_named {named : Asset} {lowered : Ledger.Asset} (h : asset named = .ok lowered) :
    Wire.Asset.Named named lowered.wire := by
  cases named with
  | native =>
    cases h
    exact .native
  | issued a =>
    simp only [asset, bind_eq_ok, pure_eq_ok] at h
    obtain ⟨code, hcode, key, hkey, rfl⟩ := h
    obtain ⟨text, htext, hchars⟩ := assetCode_eq_ok hcode
    obtain ⟨issuer, hissuer, hdecoded⟩ := issuer_eq_ok hkey
    have hissues : ∀ width, Issues a text (Ledger.AssetCode.padded code width) key.1 := fun width =>
      ⟨htext, by rw [unpadded_padded, hchars], issuer, key, hissuer, hdecoded, rfl⟩
    have hlength : text.length = code.1.length := by rw [← hchars, String.length_toList]
    by_cases hshort : code.1.length ≤ 4
    · rw [Ledger.Asset.wire, if_pos hshort]
      exact .alphanum4 (hissues 4) (by omega)
    · rw [Ledger.Asset.wire, if_neg hshort]
      exact .alphanum12 (hissues 12) (by omega)

theorem legs_named {named : List Asset} {lowered : List Ledger.Asset}
    (h : named.mapM asset = .ok lowered) :
    List.Forall₂ Wire.Asset.Named named (lowered.map Ledger.Asset.wire) := by
  rw [List.forall₂_map_right_iff]
  exact (mapM_eq_ok.mp h).imp fun _ _ => asset_named

theorem path_eq_ok {assets : List Ledger.Asset} {lowered : Ledger.Path} (h : path assets = .ok lowered) :
    lowered.1 = assets := by
  unfold path at h
  split at h <;> cases h
  rfl

theorem operation_performs {named : Operation} {lowered : Ledger.Operation}
    (h : operation named = .ok lowered) : Body.Performs named lowered.wire := by
  cases named with
  | createAccount destination startingBalance =>
    simp only [operation, bind_eq_ok, pure_eq_ok] at h
    obtain ⟨balance, hbalance, key, hkey, rfl⟩ := h
    exact .createAccount (accountKey_eq_ok hkey) (amount_counts hbalance)
  | payment destination sent value =>
    simp only [operation, bind_eq_ok, pure_eq_ok] at h
    obtain ⟨sent', hsent, value', hvalue, account', haccount, rfl⟩ := h
    exact .payment (account_named haccount) (asset_named hsent) (amount_counts hvalue)
  | pathPayment destination sendAsset sendMax destinationAsset destinationAmount legs =>
    simp only [operation, bind_eq_ok, pure_eq_ok] at h
    obtain ⟨sent, hsent, greatest, hgreatest, received, hreceived, value, hvalue, legs', hlegs,
      account', haccount, path', hpath, rfl⟩ := h
    rw [Ledger.Operation.wire, path_eq_ok hpath]
    exact .pathPayment (asset_named hsent) (amount_counts hgreatest) (account_named haccount)
      (asset_named hreceived) (amount_counts hvalue) (legs_named hlegs)
  | unsupported name => cases h

theorem memo_named {named : Memo} {lowered : Ledger.Memo} (h : memo named = .ok lowered) :
    Memo.Named named lowered.wire := by
  cases named with
  | none =>
    cases h
    exact .none
  | id value =>
    cases h
    exact .id value
  | text value =>
    cases value with
    | upload => cases h
    | text s =>
      simp only [memo, bind_eq_ok, pure_eq_ok] at h
      obtain ⟨text, htext, rfl⟩ := h
      unfold memoText at htext
      split at htext
      · cases htext
      · split at htext <;> cases htext
        exact .text _
  | hash digest =>
    cases h
    exact .hash digest

theorem seed_eq_ok {text : String} {key : Bytes32} (h : seed text = .ok key) :
    StrKey.decode? .seed text = some key := by
  unfold seed at h
  split at h <;> cases h
  assumption

theorem fee_eq_ok {value : Int} {lowered : UInt32} (h : fee value = .ok lowered) :
    (lowered.toNat : Int) = value := by
  unfold fee at h
  split at h <;> cases h
  rename_i hrange
  have hsize : UInt32.size = 4294967296 := rfl
  rw [UInt32.toNat_ofNat_of_lt' (by omega)]
  omega

/-! ## Envelopes -/

theorem toInt_ofInt_modEq (n : Int) : (Int64.ofInt n).toInt ≡ n [ZMOD 2 ^ 64] := by
  rw [Int64.toInt_ofInt]
  exact Int.bmod_emod

theorem lower_carries {t : Transaction} {signer : String} {lowered : Ledger.Transaction}
    {key : Bytes32} (h : lower t signer = .ok (lowered, key)) :
    lowered.wire.Carries t ∧ StrKey.decode? .seed signer = some key := by
  unfold lower at h
  have hlimit : ¬ t.sequence > sequenceLimit := by
    intro hlarge
    rw [if_pos hlarge] at h
    cases h
  rw [if_neg hlimit] at h
  simp only [bind_eq_ok, pure_eq_ok, Prod.mk.injEq] at h
  obtain ⟨operation, hoperation, memo, hmemo, source, hsource, key, hkey, fee, hfee, rfl, rfl⟩ := h
  have hlt : t.sequence < 2 ^ 63 := by
    unfold sequenceLimit at hlimit
    omega
  refine ⟨?_, seed_eq_ok hkey⟩
  exact {
    source := account_named hsource
    fee := fee_eq_ok hfee
    sequence_range := ⟨Int64.le_toInt _, Int64.toInt_lt _⟩
    sequence_modEq := toInt_ofInt_modEq t.sequence
    sequence_eq := fun hle => Int64.toInt_ofInt_of_le hle hlt
    preconditions := rfl
    memo := memo_named hmemo
    operation := ⟨operation.wire, rfl, operation_performs hoperation⟩ }

theorem wire_carries {t : Transaction} {signer : String} {built : Ledger.Envelope}
    (h : envelope t signer = .ok built) : built.wire.Carries t signer := by
  simp only [envelope, bind_eq_ok, pure_eq_ok] at h
  obtain ⟨⟨lowered, key⟩, hlower, rfl⟩ := h
  obtain ⟨hcarries, hkey⟩ := lower_carries hlower
  exact ⟨hcarries, key, hkey, rfl⟩

/-- An envelope that is built is read back from its text and carries the transaction. -/
theorem envelope_carries {t : Transaction} {signer : String} {built : Ledger.Envelope}
    (h : envelope t signer = .ok built) :
    ∃ bytes read, Base64.decode? built.text = some bytes ∧
      Wire.Envelope.decode? bytes = some read ∧ read.Carries t signer :=
  ⟨built.xdr, built.wire, Base64.decode?_encode _, built.decode?_xdr, wire_carries h⟩

/-- A payment over one leg, from a multiplexed account. -/
def sample : Transaction where
  source := "MABQGAYDAMBQGAYDAMBQGAYDAMBQGAYDAMBQGAYDAMBQGAYDAMBQGAAAAAAAAAAAAWZ5U"
  sequence := 8
  passphrase := "network"
  baseFee := 100
  operation := .pathPayment Sample.destination .native "3.5"
    (.issued ⟨"EURO", "GABAEAQCAIBAEAQCAIBAEAQCAIBAEAQCAIBAEAQCAIBAEAQCAIBAEJXA", rfl, rfl⟩) "2"
    [.issued ⟨"POUND", "GABAEAQCAIBAEAQCAIBAEAQCAIBAEAQCAIBAEAQCAIBAEAQCAIBAEJXA", rfl, rfl⟩]
  memo := .text "rent"

theorem envelope_sample : ∃ built, envelope sample Sample.seed = .ok built := by
  have hlower : (lower sample Sample.seed).isOk = true := by decide +kernel
  unfold envelope
  cases h : lower sample Sample.seed with
  | error e =>
    rw [h] at hlower
    cases hlower
  | ok lowered => exact ⟨_, rfl⟩

theorem sample_carried : ∃ built bytes read, envelope sample Sample.seed = .ok built ∧
    Base64.decode? built.text = some bytes ∧ Wire.Envelope.decode? bytes = some read ∧
      read.Carries sample Sample.seed := by
  obtain ⟨built, hbuilt⟩ := envelope_sample
  obtain ⟨bytes, read, hread⟩ := envelope_carries hbuilt
  exact ⟨built, bytes, read, hbuilt, hread⟩

end Paygate.Builder
