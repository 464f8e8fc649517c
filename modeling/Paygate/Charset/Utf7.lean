import Paygate.Charset.Piece
import Paygate.Text.Encoding

/-!
# UTF-7

ASCII characters stand for themselves. Others are written as units of sixteen bits, as digits of six
bits each between `+` and `-`; `+-` is a plus sign. Another character than a digit ends the digits
too, and the bits that are left over must be zero and fewer than six. A unit without partner is half
of a surrogate pair.
-/

namespace Paygate.Charset.Utf7

/-- The value of a digit of six bits. -/
def digit? (b : UInt8) : Option Nat :=
  let n := b.toNat
  if 65 ≤ n && n ≤ 90 then some (n - 65)
  else if 97 ≤ n && n ≤ 122 then some (n - 71)
  else if 48 ≤ n && n ≤ 57 then some (n + 4)
  else if n = 43 then some 62
  else if n = 47 then some 63
  else none

/-- The digits read so far: bits that are no unit yet, how many, and a high surrogate. -/
structure Section where
  bits : Nat := 0
  count : Nat := 0
  high : Option Nat := none

namespace Section

/-- Whether the bits that are left over are no padding. -/
def hasRest (s : Section) : Bool := s.count ≥ 6 || (s.count > 0 && s.bits ≠ 0)

/-- What a unit adds. A high surrogate waits for the next unit. -/
def addUnit (s : Section) (unit : Nat) : Pieces × Section :=
  match s.high with
  | some high =>
    if Encoding.isLowSurrogate unit then
      ([some (.ofCode (Encoding.joinSurrogates high unit))], { s with high := none })
    else if Encoding.isHighSurrogate unit then ([some (.ofCode high)], { s with high := some unit })
    else ([some (.ofCode high), some (.ofCode unit)], { s with high := none })
  | none =>
    if Encoding.isHighSurrogate unit then ([], { s with high := some unit })
    else ([some (.ofCode unit)], s)

def addDigit (s : Section) (value : Nat) : Pieces × Section :=
  let bits := s.bits * 64 + value
  let count := s.count + 6
  if count ≥ 16 then
    let unit := bits >>> (count - 16)
    addUnit { s with bits := bits - unit <<< (count - 16), count := count - 16 } unit
  else ([], { s with bits, count })

end Section

/-- Read on, inside digits if `open_` is there; `done` is in reverse. -/
def readFrom : (fuel : Nat) → (open_ : Option Section) → (done : Pieces) → Bytes → Pieces
  | 0, _, done, _ => done.reverse
  | _ + 1, none, done, [] => done.reverse
  | _ + 1, some s, done, [] =>
    (if s.hasRest || s.high.isSome then none :: done else done).reverse
  | fuel + 1, some s, done, b :: rest =>
    match digit? b with
    | some value =>
      let (pieces, s) := s.addDigit value
      readFrom fuel (some s) (pieces.reverse ++ done) rest
    | none =>
      if s.hasRest then readFrom fuel none (none :: done) rest
      else
        let done := match s.high with
          | some high => if b < 128 then some (.ofCode high) :: done else done
          | none => done
        readFrom fuel none done (if b = 45 then rest else b :: rest)
  | fuel + 1, none, done, b :: rest =>
    if b = 43 then
      match rest with
      | [] => done.reverse
      | c :: after =>
        if c = 45 then readFrom fuel none (some (.char '+') :: done) after
        else if (digit? c).isNone then readFrom fuel none (none :: done) after
        else readFrom fuel (some {}) done rest
    else readFrom fuel none ((if b < 128 then some ↑(byteChar b) else none) :: done) rest

def read (bytes : Bytes) : Pieces := readFrom (2 * bytes.length + 1) none [] bytes

end Paygate.Charset.Utf7
