import Paygate.Bytes.Base32
import Paygate.Crypto.Crc16
import Paygate.Crypto.Ed25519
import Paygate.Text.Str

/-!
# Key texts

A key is written as the base-32 text of a version byte, the payload, and the CRC-16 of both with its
low byte first. The version byte tells account keys (`G…`), secret seeds (`S…`) and multiplexed
accounts (`M…`) apart; the payload is a key of 32 bytes, followed in the last kind by an id of eight.
-/

namespace Paygate

inductive KeyKind where
  | account
  | seed
  | muxed
deriving DecidableEq, Repr

namespace KeyKind

def version : KeyKind → UInt8
  | account => 0x30
  | seed => 0x90
  | muxed => 0x60

def payloadLength : KeyKind → Nat
  | account => 32
  | seed => 32
  | muxed => 40

end KeyKind

namespace StrKey

/-- The two bytes that follow the version byte and the payload. -/
def check (body : Bytes) : Bytes := Bytes.ofNatLE 2 (Crc16.checksum body).toNat

def encode (kind : KeyKind) (payload : Bytes) : String :=
  let body := kind.version :: payload
  String.ofList (Base32.encode (body ++ check body))

/-- The bytes that a key of a kind stands for. -/
abbrev Payload (kind : KeyKind) := { bytes : Bytes // bytes.length = kind.payloadLength }

/-- The payload of a key text of the given kind. -/
def decode? (kind : KeyKind) (text : String) : Option (Payload kind) :=
  match Base32.decode? text.toList with
  | some (version :: rest) =>
    if h : rest.length = kind.payloadLength + 2 then
      let payload := rest.take kind.payloadLength
      if version = kind.version ∧ rest.drop kind.payloadLength = check (version :: payload) then
        some ⟨payload, by simp [payload, h]⟩
      else none
    else none
  | _ => none

def isValid (kind : KeyKind) (text : String) : Bool := (decode? kind text).isSome

/-- A text that is a valid key of a kind, as it stands. A broken text is none. -/
def key? (kind : KeyKind) : Str → Option String
  | .whole text => if isValid kind text then some text else none
  | .broken _ => none

theorem key?_eq_some_iff {kind : KeyKind} {text : Str} {key : String} :
    key? kind text = some key ↔ text = key ∧ isValid kind key = true := by
  cases text with
  | whole text =>
    by_cases h : isValid kind text = true
    · simp only [key?, h, if_true, Option.some.injEq, Str.whole.injEq]
      exact ⟨fun heq => ⟨heq, heq ▸ h⟩, fun heq => heq.1⟩
    · simp only [key?, h, Str.whole.injEq]
      exact ⟨nofun, fun heq => absurd (heq.1 ▸ heq.2) h⟩
  | broken text => simp [key?]

theorem key?_of_valid {kind : KeyKind} {key : String} (h : isValid kind key = true) :
    key? kind key = some key := key?_eq_some_iff.mpr ⟨rfl, h⟩

/-- The account that signs with a seed. -/
def accountOfSeed (seed : Bytes) : String := encode .account (Ed25519.publicKey seed)

end StrKey

end Paygate
