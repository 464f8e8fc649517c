import Paygate.Compression.Checksum
import Paygate.Compression.Inflate

/-!
# Containers of deflated data

Deflated data stand alone, between a short header and a checksum, or in a file format whose header
may hold names and comments and whose end has a checksum and the length. What follows the end is
left out, and data that stop early give the output so far.
-/

namespace Paygate.Compression

/-- The output of data whose end `finish` checks. -/
def conclude (progress : Progress) (finish : Bytes → Bits → Step Bits Unit) : Except Error Bytes :=
  let output := progress.output.toList
  match progress.step with
  | .error cause => .error cause
  | .ended => .ok output
  | .done () bits =>
    match finish output bits.aligned with
    | .error cause => .error cause
    | _ => .ok output

/-- Deflated data that stand alone. -/
def inflate (bytes : Bytes) : Except Error Bytes :=
  conclude (inflateBits (Bits.ofBytes bytes)) fun _ bits => .done () bits

/-! ## The short header -/

/-- A big-endian number of four bytes. -/
def bigNumber (bits : Bits) : Step Bits Nat :=
  (bits.number 8).andThen fun a bits =>
  (bits.number 8).andThen fun b bits =>
  (bits.number 8).andThen fun c bits =>
  (bits.number 8).andThen fun d bits => .done (((a * 256 + b) * 256 + c) * 256 + d) bits

/-- The header: method, window size and a dictionary flag, and together a multiple of 31. -/
def shortHeader (bits : Bits) : Step Bits Unit :=
  (bits.number 8).andThen fun first bits =>
  (bits.number 8).andThen fun second bits =>
    .check ((first * 256 + second) % 31 = 0) .header <|
    .check (first % 16 = 8) .method <|
    .check (first / 16 ≤ 7) .windowSize <|
    if second / 32 % 2 = 1 then (bits.number 32).andThen fun _ _ => .error .dictionary
    else .done () bits

def inflateShort (bytes : Bytes) : Except Error Bytes :=
  match shortHeader (Bits.ofBytes bytes) with
  | .error cause => .error cause
  | .ended => .ok []
  | .done () bits =>
    conclude (inflateBits bits) fun output bits =>
      (bigNumber bits).andThen fun sum bits => .check (sum = adler32 output) .dataCheck (.done () bits)

/-! ## The file format -/

/-- Bytes up to a zero byte, that byte included. -/
def throughZero : Bytes → Step Bytes Unit
  | [] => .ended
  | b :: rest => if b = 0 then .done () rest else throughZero rest

/-- Leave out some bytes. -/
def skip (count : Nat) (bytes : Bytes) : Step Bytes Unit :=
  if count ≤ bytes.length then .done () (bytes.drop count) else .ended

/-- A little-endian number of two bytes. -/
def shortNumber : Bytes → Step Bytes Nat
  | a :: b :: rest => .done (a.toNat + 256 * b.toNat) rest
  | _ => .ended

/-- Go on after an optional part of a header. -/
def optional (present : Bool) (part : Bytes → Step Bytes Unit) (bytes : Bytes) : Step Bytes Unit :=
  if present then part bytes else .done () bytes

/-- The header: marks, method, flags, time and system, and the parts that the flags announce: extra
data, a name, a comment and a checksum of the header. -/
def fileHeader (bytes : Bytes) : Step Bytes Unit :=
  (shortNumber bytes).andThen fun marks rest =>
    .check (marks = 0x8B1F) .header <|
  (shortNumber rest).andThen fun word rest =>
    let flag (bit : Nat) : Bool := word.testBit (8 + bit)
    .check (word % 256 = 8) .method <|
    .check (word / 256 < 32) .flags <|
  (skip 6 rest).andThen fun _ rest =>
  (optional (flag 2) (fun bytes =>
    (shortNumber bytes).andThen fun length rest => skip length rest) rest).andThen fun _ rest =>
  (optional (flag 3) throughZero rest).andThen fun _ rest =>
  (optional (flag 4) throughZero rest).andThen fun _ rest =>
    let sum := crc32 (bytes.take (bytes.length - rest.length)) % 65536
    optional (flag 1) (fun bytes =>
      (shortNumber bytes).andThen fun written rest =>
        .check (written = sum) .headerCheck (.done () rest)) rest

def inflateFile (bytes : Bytes) : Except Error Bytes :=
  match fileHeader bytes with
  | .error cause => .error cause
  | .ended => .ok []
  | .done () rest =>
    conclude (inflateBits (Bits.ofBytes rest)) fun output bits =>
      (bits.number 32).andThen fun sum bits =>
        .check (sum = crc32 output) .dataCheck <|
      (bits.number 32).andThen fun length bits =>
        .check (length = output.length % 4294967296) .dataLength (.done () bits)

end Paygate.Compression
