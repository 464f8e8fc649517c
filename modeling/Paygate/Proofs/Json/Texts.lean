import Mathlib.Tactic.SplitIfs
import Paygate.Json.Reader
import Paygate.Json.Writer

/-!
# Texts in documents

A text is written between quotes with its quotes, its backslashes and its control characters escaped. So
nothing of it ends the text or the line that it stands on, and it is read as it was, halves of surrogate
pairs included.

* `Escapes`, `escapes_escapePoint`: how a code point is written.
* `Escapes.readTextBody_eq`, `readTextBody_escaped`: the reader takes one code point back, and so all of them.
* `readText?_escaped`: a text that is written is read as itself.
* `IsPrintable`, `isPrintable_writeText`: and it holds no control character.
-/

namespace Paygate.Json

/-- One of the control characters before the space. -/
def isControl : Point → Bool
  | .char c => c.toNat < 32
  | .half _ => false

/-- No code point is a control character. -/
def IsPrintable (points : List Point) : Prop := ∀ point ∈ points, isControl point = false

instance (points : List Point) : Decidable (IsPrintable points) :=
  List.decidableBAll (fun point : Point => isControl point = false) points

theorem isControl_char {c : Char} : isControl (.char c) = false ↔ 32 ≤ c.toNat := by
  simp [isControl]

namespace IsPrintable

variable {point : Point} {points points' : List Point}

theorem cons (hpoint : isControl point = false) (hpoints : IsPrintable points) :
    IsPrintable (point :: points) :=
  List.forall_mem_cons.mpr ⟨hpoint, hpoints⟩

theorem append (h : IsPrintable points) (h' : IsPrintable points') : IsPrintable (points ++ points') :=
  List.forall_mem_append.mpr ⟨h, h'⟩

end IsPrintable

/-- How a code point is written: behind a backslash as a letter or by its four digits, or as it is. -/
inductive Escapes : Point → List Point → Prop
  | letter {c letter : Char} (read : plainEscape? letter = some c) (ne_u : letter ≠ 'u')
      (printable : 32 ≤ letter.toNat) : Escapes (.char c) [.char '\\', .char letter]
  | digits {c : Char} (control : c.toNat < 32) :
      Escapes (.char c) (.char '\\' :: .char 'u' :: (Hex.padded 4 c.toNat).map .char)
  | plain {c : Char} (ne_quote : c ≠ '"') (ne_slash : c ≠ '\\') (printable : 32 ≤ c.toNat) :
      Escapes (.char c) [.char c]
  | half (h : Half) : Escapes (.half h) [.half h]

theorem escapes_escapePoint (point : Point) : Escapes point (escapePoint point) := by
  cases point with
  | half h => exact .half h
  | char c =>
    show Escapes (.char c) ((escapeChar c).map .char)
    unfold escapeChar
    split_ifs with hquote hslash hn hr ht hb hf hcontrol
    · exact .letter (by rw [hquote]; rfl) (by decide) (by decide)
    · exact .letter (by rw [hslash]; rfl) (by decide) (by decide)
    · exact .letter (by rw [hn]; rfl) (by decide) (by decide)
    · exact .letter (by rw [hr]; rfl) (by decide) (by decide)
    · exact .letter (by rw [ht]; rfl) (by decide) (by decide)
    · exact .letter (by rw [hb]; rfl) (by decide) (by decide)
    · exact .letter (by rw [hf]; rfl) (by decide) (by decide)
    · exact .digits hcontrol
    · exact .plain hquote hslash (Nat.le_of_not_lt hcontrol)

/-- The four digits of a control character. -/
theorem padded_control : ∀ n < 32, (Hex.padded 4 n).length = 4 ∧ Hex.number? (Hex.padded 4 n) = some n ∧
    IsPrintable ((Hex.padded 4 n).map .char) := by
  decide

theorem hex4?_padded {n : Nat} (h : n < 32) (rest : List Point) :
    hex4? ((Hex.padded 4 n).map .char ++ rest) = some (n, rest) := by
  obtain ⟨hlength, hnumber, -⟩ := padded_control n h
  match Hex.padded 4 n, hlength, hnumber with
  | [a, b, c, d], _, hnumber => simp [hex4?, hnumber]

/-- A control character is no half of a pair. -/
theorem codeEscape_control {c : Char} (h : c.toNat < 32) (rest : List Point) :
    codeEscape c.toNat rest = (.char c, rest) := by
  have hhigh : Encoding.isHighSurrogate c.toNat = false := by
    simp only [Encoding.isHighSurrogate, Bool.and_eq_false_iff, decide_eq_false_iff_not]
    omega
  have hsurrogate : Encoding.isSurrogate c.toNat = false := by
    simp only [Encoding.isSurrogate, Bool.and_eq_false_iff, decide_eq_false_iff_not]
    omega
  simp [codeEscape, hhigh, Point.ofCode, hsurrogate]

namespace Escapes

variable {point : Point} {points : List Point}

theorem isPrintable (h : Escapes point points) : IsPrintable points := by
  cases h with
  | letter _ _ printable => exact .cons (by decide) (.cons (isControl_char.mpr printable) (by decide))
  | digits control => exact .cons (by decide) (.cons (by decide) (padded_control _ control).2.2)
  | plain _ _ printable => exact .cons (isControl_char.mpr printable) (by decide)
  | half h => exact .cons rfl (by decide)

theorem ne_nil (h : Escapes point points) : points ≠ [] := by
  cases h <;> simp

/-- One code point is read back. -/
theorem readTextBody_eq (h : Escapes point points) (fuel : Nat) (done rest : List Point) :
    readTextBody (fuel + 1) done (points ++ rest) = readTextBody fuel (point :: done) rest := by
  cases h with
  | letter read ne_u => simp [readTextBody, read]
  | digits control => simp [readTextBody, hex4?_padded control, codeEscape_control control]
  | plain ne_quote ne_slash printable =>
    have hcontrol : ¬ (Char.toNat _ < 32) := Nat.not_lt.mpr printable
    simp [readTextBody, ne_slash, hcontrol]
  | half h => simp [readTextBody]

end Escapes

/-! ## Whole texts -/

variable {fuel : Nat} {points : List Point}

/-- All code points up to the closing quote are read back. -/
theorem readTextBody_escaped (done rest : List Point) (h : points.length < fuel) :
    readTextBody fuel done (points.flatMap escapePoint ++ .char '"' :: rest) =
      some (.ofPoints (done.reverse ++ points), rest) := by
  induction points generalizing fuel done with
  | nil =>
    obtain ⟨fuel, rfl⟩ := Nat.exists_eq_add_of_lt h
    simp [readTextBody]
  | cons point points ih =>
    obtain ⟨fuel, rfl⟩ : ∃ n, fuel = n + 1 := ⟨fuel - 1, by omega⟩
    have hrest : points.length < fuel := by simpa using h
    rw [List.flatMap_cons, List.append_assoc, (escapes_escapePoint point).readTextBody_eq,
      ih (point :: done) hrest, List.reverse_cons, List.append_assoc, List.singleton_append]

theorem length_le_escaped (points : List Point) :
    points.length ≤ (points.flatMap escapePoint).length := by
  induction points with
  | nil => exact Nat.le_refl 0
  | cons point points ih =>
    have hpos : 0 < (escapePoint point).length := List.length_pos_iff.mpr (escapes_escapePoint point).ne_nil
    rw [List.flatMap_cons, List.length_append, List.length_cons]
    omega

/-- A text that is written is read as itself. -/
theorem readText?_escaped (s : Str) (rest : List Point) :
    readText? (s.points.flatMap escapePoint ++ .char '"' :: rest) = some (s, rest) := by
  have hfuel : s.points.length < (s.points.flatMap escapePoint ++ .char '"' :: rest).length + 1 := by
    have hlength := length_le_escaped s.points
    rw [List.length_append]
    omega
  rw [readText?, readTextBody_escaped [] rest hfuel, List.reverse_nil, List.nil_append, Str.ofPoints_points]

/-- A text that is written holds no control character. -/
theorem isPrintable_writeText (s : Str) : IsPrintable (writeText s) := by
  have hbody : IsPrintable (s.points.flatMap escapePoint) := by
    intro point hpoint
    obtain ⟨other, -, hother⟩ := List.mem_flatMap.mp hpoint
    exact (escapes_escapePoint other).isPrintable point hother
  exact (IsPrintable.cons (by decide) hbody).append (by decide)

end Paygate.Json
