import Paygate.Bytes.Basic
import Paygate.Compression.Error

/-!
# Bits of compressed data

The bits of a byte come with the lowest first, and so do the bits of a number. Bytes begin where a
multiple of eight bits is left.
-/

namespace Paygate.Compression

abbrev Bits := List Bool

namespace Bits

def ofByte (b : UInt8) : Bits := (List.range 8).map b.toNat.testBit

def ofBytes (bytes : Bytes) : Bits := bytes.flatMap ofByte

/-- The number that bits write. -/
def toNat (bits : Bits) : Nat := bits.foldr (fun bit n => bit.toNat + 2 * n) 0

/-- A number of the given width. -/
def number (width : Nat) (bits : Bits) : Step Bits Nat :=
  let front := bits.take width
  if front.length = width then .done (toNat front) (bits.drop width) else .ended

/-- What is left from the next byte on. -/
def aligned (bits : Bits) : Bits := bits.drop (bits.length % 8)

end Bits

end Paygate.Compression
