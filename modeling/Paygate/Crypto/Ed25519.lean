import Paygate.Crypto.Sha512

/-!
# Ed25519 keys and signatures

The signature scheme of RFC 8032 over the twisted Edwards curve `-x² + y² = 1 + d x² y²` modulo
`2 ^ 255 - 19`. Points are kept in extended coordinates `(X : Y : Z : T)` with `x = X / Z`,
`y = Y / Z` and `x y = T / Z`, where one formula adds any two points.
-/

namespace Paygate.Ed25519

def p : Nat := 0x7fffffffffffffffffffffffffffffffffffffffffffffffffffffffffffffed

/-- The order of the base point. -/
def order : Nat := 0x1000000000000000000000000000000014def9dea2f79cd65812631a5cf5d3ed

/-- `base ^ exponent` modulo `m`, by squaring. -/
def powMod (base exponent m : Nat) : Nat :=
  if h : exponent = 0 then 1 % m
  else
    let half := powMod (base * base % m) (exponent / 2) m
    if exponent % 2 = 1 then half * base % m else half
termination_by exponent
decreasing_by omega

/-- The inverse of a number that `p` does not divide. -/
def inverse (a : Nat) : Nat := powMod a (p - 2) p

/-- The curve constant `-121665 / 121666`. -/
def d : Nat := 37095705934669439343138083508754565189542113879843219016388785533085940283555

structure Point where
  x : Nat
  y : Nat
  z : Nat
  t : Nat

namespace Point

def zero : Point := ⟨0, 1, 1, 0⟩

/-- The generator, the point with `y = 4 / 5` and even `x`. -/
def base : Point :=
  let x := 15112221349535400772501151409588531511454012693041857206046113283949847762202
  let y := 46316835694926478169428394003475163141307993866256225615783033603165251855960
  ⟨x, y, 1, x * y % p⟩

def add (a b : Point) : Point :=
  let n := (p + a.y - a.x) * (p + b.y - b.x) % p
  let m := (a.y + a.x) * (b.y + b.x) % p
  let c := 2 * a.t * b.t % p * d % p
  let e := 2 * a.z * b.z % p
  let h := m + p - n
  let i := e + p - c
  let j := e + c
  let k := m + n
  ⟨h * i % p, j * k % p, i * j % p, h * k % p⟩

/-- The sum of `n` copies of `a`, by doubling. -/
def mul (n : Nat) (a : Point) : Point :=
  if h : n = 0 then zero
  else
    let half := mul (n / 2) (a.add a)
    if n % 2 = 1 then half.add a else half
termination_by n
decreasing_by omega

/-- `y` in 32 bytes, least significant first, with the parity of `x` in the top bit. -/
def encode (a : Point) : Bytes :=
  let i := inverse a.z
  let x := a.x * i % p
  let y := a.y * i % p
  Bytes.ofNatLE 32 (y + (x % 2) <<< 255)

@[simp] theorem length_encode (a : Point) : a.encode.length = 32 := by
  simp [encode]

end Point

/-- The secret scalar of a seed: the low half of its hash, a multiple of eight with bit 254 set. -/
def scalar (seed : Bytes) : Nat :=
  let n := Bytes.toNatLE ((Sha512.hash seed).take 32)
  n % (1 <<< 254) / 8 * 8 + 1 <<< 254

def publicKey (seed : Bytes) : Bytes := (Point.mul (scalar seed) Point.base).encode

def sign (seed message : Bytes) : Bytes :=
  let a := scalar seed
  let half := (Sha512.hash seed).drop 32
  let key := publicKey seed
  let r := Bytes.toNatLE (Sha512.hash (half ++ message)) % order
  let point := (Point.mul r Point.base).encode
  let k := Bytes.toNatLE (Sha512.hash (point ++ key ++ message)) % order
  point ++ Bytes.ofNatLE 32 ((r + k * a) % order)

@[simp] theorem length_publicKey (seed : Bytes) : (publicKey seed).length = 32 := by
  simp [publicKey]

@[simp] theorem length_sign (seed message : Bytes) : (sign seed message).length = 64 := by
  simp [sign]

end Paygate.Ed25519
