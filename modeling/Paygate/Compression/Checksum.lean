import Paygate.Bytes.Basic

/-!
# Checksums of compressed data

The cyclic redundancy check of 32 bits over the reflected polynomial `0xEDB88320`, and the sum of
bytes and of their partial sums modulo 65521.
-/

namespace Paygate.Compression

/-- Divide one bit out. -/
def crcBit (crc : UInt32) : UInt32 :=
  if crc &&& 1 = 1 then (crc >>> 1) ^^^ 0xEDB88320 else crc >>> 1

def crcByte (crc : UInt32) (b : UInt8) : UInt32 :=
  (List.range 8).foldl (fun crc _ => crcBit crc) (crc ^^^ b.toUInt32)

def crc32 (bytes : Bytes) : Nat := (bytes.foldl crcByte 0xFFFFFFFF ^^^ 0xFFFFFFFF).toNat

def adlerStep (sums : Nat × Nat) (b : UInt8) : Nat × Nat :=
  let low := (sums.1 + b.toNat) % 65521
  (low, (sums.2 + low) % 65521)

def adler32 (bytes : Bytes) : Nat :=
  let (low, high) := bytes.foldl adlerStep (1, 0)
  high * 65536 + low

end Paygate.Compression
