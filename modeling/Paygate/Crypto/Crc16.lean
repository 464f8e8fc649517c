import Paygate.Bytes.Basic

/-!
# CRC-16 in its XModem form

The remainder of the message polynomial times `x ^ 16` modulo `x ^ 16 + x ^ 12 + x ^ 5 + 1`,
starting from zero, most significant bit first.
-/

namespace Paygate.Crc16

/-- One bit: shift left and reduce if a one falls out. -/
def shift (crc : UInt16) : UInt16 :=
  if crc &&& 0x8000 = 0 then crc <<< 1 else (crc <<< 1) ^^^ 0x1021

/-- One byte: add it to the high half and shift eight times. -/
def step (crc : UInt16) (b : UInt8) : UInt16 :=
  Nat.repeat shift 8 (crc ^^^ (b.toUInt16 <<< 8))

def checksum (bytes : Bytes) : UInt16 := bytes.foldl step 0

end Paygate.Crc16
