import Paygate.Bytes.Base64

/-!
# Base 64 reads back what it writes

* `decode?_encode`: the text of a byte string is read as that byte string.
-/

namespace Paygate.Base64

theorem value?_digit {n : Nat} (h : n < 64) : value? (digit n) = some n := by
  have hall : ∀ n < 64, value? (digit n) = some n := by decide
  exact hall n h

theorem digit_ne_pad {n : Nat} (h : n < 64) : digit n ≠ '=' := by
  have hall : ∀ n < 64, digit n ≠ '=' := by decide
  exact hall n h

/-- Four digits without padding are three bytes. -/
theorem decodeChars?_four {i j k l : Nat} (hi : i < 64) (hj : j < 64) (hk : k < 64) (hl : l < 64)
    (rest : List Char) :
    decodeChars? (digit i :: digit j :: digit k :: digit l :: rest) =
      (decodeChars? rest).map fun bytes =>
        let n := 64 * (64 * (64 * i + j) + k) + l
        UInt8.ofNat (n / 65536) :: UInt8.ofNat (n / 256) :: UInt8.ofNat n :: bytes := by
  rw [decodeChars?]
  · simp only [value?_digit hi, value?_digit hj, value?_digit hk, value?_digit hl]
    cases decodeChars? rest <;> rfl
  · intro _ hpad _
    exact digit_ne_pad hl hpad
  · intro hpad _
    exact digit_ne_pad hl hpad

theorem ofNat_eq {n : Nat} {b : UInt8} (h : n % 256 = b.toNat) : UInt8.ofNat n = b := by
  rw [← UInt8.toNat_inj, UInt8.toNat_ofNat', h]

theorem decodeChars?_encodeChars (bytes : Bytes) : decodeChars? (encodeChars bytes) = some bytes := by
  induction bytes using encodeChars.induct with
  | case1 => rfl
  | case2 a =>
    have ha := a.toNat_lt
    have hread : 64 * (a.toNat * 16 / 64) + a.toNat * 16 % 64 = a.toNat * 16 := by omega
    rw [encodeChars, decodeChars?, value?_digit (by omega), value?_digit (by omega)]
    simp [hread]
  | case3 a b =>
    have ha := a.toNat_lt
    have hb := b.toNat_lt
    generalize hn : (a.toNat * 256 + b.toNat) * 4 = n
    have hread : 64 * (64 * (n / 4096) + n / 64 % 64) + n % 64 = n := by omega
    have hfirst : UInt8.ofNat (n / 1024) = a := ofNat_eq (by omega)
    have hsecond : UInt8.ofNat (n / 4) = b := ofNat_eq (by omega)
    have hzero : n % 4 = 0 := by omega
    simp only [encodeChars, hn]
    rw [decodeChars?, value?_digit (by omega), value?_digit (by omega), value?_digit (by omega)]
    · simp [hread, hfirst, hsecond, hzero]
    · exact fun hpad => digit_ne_pad (by omega) hpad
  | case4 a b c rest ih =>
    have ha := a.toNat_lt
    have hb := b.toNat_lt
    have hc := c.toNat_lt
    generalize hn : (a.toNat * 256 + b.toNat) * 256 + c.toNat = n
    have hread : 64 * (64 * (64 * (n / 262144) + n / 4096 % 64) + n / 64 % 64) + n % 64 = n := by
      omega
    have hfirst : UInt8.ofNat (n / 65536) = a := ofNat_eq (by omega)
    have hsecond : UInt8.ofNat (n / 256) = b := ofNat_eq (by omega)
    have hthird : UInt8.ofNat n = c := ofNat_eq (by omega)
    simp only [encodeChars, hn]
    rw [decodeChars?_four (by omega) (by omega) (by omega) (by omega), ih]
    simp [hread, hfirst, hsecond, hthird]

theorem decode?_encode (bytes : Bytes) : decode? (encode bytes) = some bytes := by
  rw [decode?, encode, String.toList_ofList, decodeChars?_encodeChars]

end Paygate.Base64
