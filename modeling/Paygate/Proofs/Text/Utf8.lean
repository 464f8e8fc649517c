import Paygate.Text.Utf8

/-!
# UTF-8 reads back what it writes

* `next_utf8EncodeChar`: the bytes of a character are read as that character.
* `decodeLossy_ofString`: the bytes of a text are read as that text.
-/

namespace Paygate

namespace Bytes

theorem toList_loop (array : ByteArray) (i : Nat) (done : List UInt8) :
    ByteArray.toList.loop array i done = done.reverse ++ array.data.toList.drop i := by
  fun_induction ByteArray.toList.loop array i done with
  | case1 i done h ih =>
    have hlength : i < array.data.toList.length := by simpa using h
    have hget : array.get! i = array.data.toList[i] := by
      rw [Array.getElem_toList]
      exact getElem!_pos array.data i h
    rw [ih, List.drop_eq_getElem_cons hlength, hget]
    simp
  | case2 i done h =>
    rw [List.drop_eq_nil_of_le (by simpa using h), List.append_nil]

theorem toList_eq (array : ByteArray) : array.toList = array.data.toList := by
  rw [ByteArray.toList, toList_loop]
  rfl

/-- The bytes of a text are those of its characters. -/
theorem ofString_eq (s : String) : ofString s = s.toList.flatMap String.utf8EncodeChar := by
  rw [ofString, String.toUTF8_eq_toByteArray, toList_eq, ← String.utf8Encode_toList, List.utf8Encode,
    List.toList_data_toByteArray]

end Bytes

namespace Utf8

/-- A number in a byte. -/
theorem toNat_ofNat {n : Nat} (h : n < 256) : (UInt8.ofNat n).toNat = n :=
  UInt8.toNat_ofNat_of_lt' h

/-- A byte between `l` and `h` that follows adds six bits. -/
theorem trail_cons {count l h n code : Nat} {low high : UInt8} {rest : Bytes} (low_eq : low.toNat = l)
    (high_eq : high.toNat = h) (hlow : l ≤ n) (hhigh : n ≤ h) :
    trail (count + 1) low high code (UInt8.ofNat n :: rest) =
      trail count 0x80 0xBF (code * 64 + (n - 0x80)) rest := by
  have hb := toNat_ofNat (Nat.lt_of_le_of_lt (high_eq ▸ hhigh) high.toNat_lt)
  rw [trail, hb, if_pos]
  rw [UInt8.le_iff_toNat_le, UInt8.le_iff_toNat_le, hb, low_eq, high_eq]
  exact ⟨hlow, hhigh⟩

theorem trail_zero {low high : UInt8} {code : Nat} {rest : Bytes} {c : Char} (h : code = c.toNat) :
    trail 0 low high code rest = (some c, rest) := by
  rw [trail, h, Char.ofNat_toNat]

/-- The lead byte of a character decides what follows, as a number. -/
theorem next_eq (b : UInt8) (rest : Bytes) : next b rest =
    if b.toNat < 0x80 then (some (Char.ofNat b.toNat), rest)
    else if b.toNat < 0xC2 then (none, rest)
    else if b.toNat < 0xE0 then trail 1 0x80 0xBF (b.toNat - 0xC0) rest
    else if b.toNat = 0xE0 then trail 2 0xA0 0xBF 0 rest
    else if b.toNat = 0xED then trail 2 0x80 0x9F 0xD rest
    else if b.toNat < 0xF0 then trail 2 0x80 0xBF (b.toNat - 0xE0) rest
    else if b.toNat = 0xF0 then trail 3 0x90 0xBF 0 rest
    else if b.toNat < 0xF4 then trail 3 0x80 0xBF (b.toNat - 0xF0) rest
    else if b.toNat = 0xF4 then trail 3 0x80 0x8F 4 rest
    else (none, rest) := by
  simp only [next, UInt8.lt_iff_toNat_lt, ← UInt8.toNat_inj]
  rfl

variable {c : Char} {v : Nat} (hv : c.toNat = v)

include hv

/-- Two bytes: eleven bits. -/
theorem next_two (hlow : 0x80 ≤ v) (hhigh : v ≤ 0x7FF) (rest : Bytes) :
    next (UInt8.ofNat (v / 64 % 32 + 0xC0)) (UInt8.ofNat (v % 64 + 0x80) :: rest) =
      (some c, rest) := by
  have hlead := toNat_ofNat (show v / 64 % 32 + 0xC0 < 256 by omega)
  rw [next_eq, hlead, if_neg (by omega), if_neg (by omega), if_pos (by omega),
    trail_cons (l := 0x80) (h := 0xBF) rfl rfl (by omega) (by omega)]
  exact trail_zero (by omega)

/-- Three bytes: sixteen bits, no surrogates. -/
theorem next_three (hvalid : v < 0xD800 ∨ 0xDFFF < v) (hlow : 0x800 ≤ v) (hhigh : v ≤ 0xFFFF)
    (rest : Bytes) :
    next (UInt8.ofNat (v / 4096 % 16 + 0xE0))
      (UInt8.ofNat (v / 64 % 64 + 0x80) :: UInt8.ofNat (v % 64 + 0x80) :: rest) =
      (some c, rest) := by
  have hlead := toNat_ofNat (show v / 4096 % 16 + 0xE0 < 256 by omega)
  rw [next_eq, hlead, if_neg (by omega), if_neg (by omega), if_neg (by omega)]
  split
  · rw [trail_cons (l := 0xA0) (h := 0xBF) rfl rfl (by omega) (by omega),
      trail_cons (l := 0x80) (h := 0xBF) rfl rfl (by omega) (by omega)]
    exact trail_zero (by omega)
  split
  · rw [trail_cons (l := 0x80) (h := 0x9F) rfl rfl (by omega) (by omega),
      trail_cons (l := 0x80) (h := 0xBF) rfl rfl (by omega) (by omega)]
    exact trail_zero (by omega)
  · rw [if_pos (by omega), trail_cons (l := 0x80) (h := 0xBF) rfl rfl (by omega) (by omega),
      trail_cons (l := 0x80) (h := 0xBF) rfl rfl (by omega) (by omega)]
    exact trail_zero (by omega)

/-- Four bytes: what is beyond sixteen bits. -/
theorem next_four (hlow : 0x10000 ≤ v) (hhigh : v < 0x110000) (rest : Bytes) :
    next (UInt8.ofNat (v / 262144 % 8 + 0xF0))
      (UInt8.ofNat (v / 4096 % 64 + 0x80) :: UInt8.ofNat (v / 64 % 64 + 0x80) ::
        UInt8.ofNat (v % 64 + 0x80) :: rest) = (some c, rest) := by
  have hlead := toNat_ofNat (show v / 262144 % 8 + 0xF0 < 256 by omega)
  rw [next_eq, hlead, if_neg (by omega), if_neg (by omega), if_neg (by omega), if_neg (by omega),
    if_neg (by omega), if_neg (by omega)]
  split
  · rw [trail_cons (l := 0x90) (h := 0xBF) rfl rfl (by omega) (by omega),
      trail_cons (l := 0x80) (h := 0xBF) rfl rfl (by omega) (by omega),
      trail_cons (l := 0x80) (h := 0xBF) rfl rfl (by omega) (by omega)]
    exact trail_zero (by omega)
  split
  · rw [trail_cons (l := 0x80) (h := 0xBF) rfl rfl (by omega) (by omega),
      trail_cons (l := 0x80) (h := 0xBF) rfl rfl (by omega) (by omega),
      trail_cons (l := 0x80) (h := 0xBF) rfl rfl (by omega) (by omega)]
    exact trail_zero (by omega)
  · rw [if_pos (by omega), trail_cons (l := 0x80) (h := 0x8F) rfl rfl (by omega) (by omega),
      trail_cons (l := 0x80) (h := 0xBF) rfl rfl (by omega) (by omega),
      trail_cons (l := 0x80) (h := 0xBF) rfl rfl (by omega) (by omega)]
    exact trail_zero (by omega)

omit hv

/-- The bytes of a character are read as that character. -/
theorem next_utf8EncodeChar (c : Char) (rest : Bytes) :
    ∃ b bytes, String.utf8EncodeChar c = b :: bytes ∧ next b (bytes ++ rest) = (some c, rest) := by
  have hc : c.val.toNat = c.toNat := rfl
  have hvalid : c.toNat < 0xD800 ∨ 0xDFFF < c.toNat ∧ c.toNat < 0x110000 := c.valid
  unfold String.utf8EncodeChar
  simp only [hc]
  generalize hv : c.toNat = v at *
  split
  · have hb := toNat_ofNat (show v < 256 by omega)
    refine ⟨_, _, rfl, ?_⟩
    rw [next_eq, if_pos (by omega), hb, ← hv, Char.ofNat_toNat]
    rfl
  split
  · exact ⟨_, _, rfl, next_two hv (by omega) (by omega) rest⟩
  split
  · exact ⟨_, _, rfl, next_three hv (by omega) (by omega) (by omega) rest⟩
  · exact ⟨_, _, rfl, next_four hv (by omega) (by omega) rest⟩

theorem go_eq (bytes : Bytes) (done : List (Option Char)) :
    pieces.go bytes done = done.reverse ++ pieces bytes := by
  suffices h : ∀ n bytes done, bytes.length ≤ n →
      pieces.go bytes done = done.reverse ++ pieces.go bytes [] from h _ bytes done (Nat.le_refl _)
  intro n
  induction n with
  | zero =>
    intro bytes done hlength
    rw [List.length_eq_zero_iff.mp (Nat.le_zero.mp hlength)]
    simp [pieces.go]
  | succ n ih =>
    intro bytes done hlength
    cases bytes with
    | nil => simp [pieces.go]
    | cons b rest =>
      have hrest : (next b rest).2.length ≤ n :=
        Nat.le_trans (length_next_le b rest) (Nat.le_of_succ_le_succ hlength)
      rw [pieces.go, pieces.go, ih _ _ hrest, ih _ [_] hrest]
      simp

/-- The bytes of a character are its piece. -/
theorem pieces_utf8EncodeChar (c : Char) (rest : Bytes) :
    pieces (String.utf8EncodeChar c ++ rest) = some c :: pieces rest := by
  obtain ⟨b, bytes, hbytes, hnext⟩ := next_utf8EncodeChar c rest
  rw [hbytes, pieces, List.cons_append, pieces.go, hnext, go_eq]
  rfl

/-- The bytes of a text are read as that text. -/
theorem decodeLossy_ofString (s : String) : decodeLossy (Bytes.ofString s) = s.toList := by
  have hpieces : ∀ cs : List Char, pieces (cs.flatMap String.utf8EncodeChar) = cs.map some := by
    intro cs
    induction cs with
    | nil => simp [pieces, pieces.go]
    | cons c cs ih => rw [List.flatMap_cons, pieces_utf8EncodeChar, ih, List.map_cons]
  rw [decodeLossy, Bytes.ofString_eq, hpieces, List.map_map]
  exact List.map_id _

end Utf8

end Paygate
