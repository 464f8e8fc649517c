import Paygate.Text.Encoding

/-!
# Texts of code points

A text is a row of code points. Most code points are characters; the others are halves of surrogate
pairs, which no encoding of Unicode has a form for. A text without halves is whole, and it is a
string. A broken text has at least one half; it can be read, compared and passed on like any other,
but it cannot be sent.
-/

namespace Paygate

/-- Half of a surrogate pair. -/
structure Half where
  code : Nat
  isSurrogate : Encoding.isSurrogate code = true
deriving DecidableEq, Repr

inductive Point where
  | char (c : Char)
  | half (half : Half)
deriving DecidableEq, Repr

namespace Point

instance : Coe Char Point := ⟨.char⟩

def char? : Point → Option Char
  | char c => some c
  | half _ => none

/-- The code point of a number. -/
def ofCode (n : Nat) : Point :=
  if h : Encoding.isSurrogate n = true then half ⟨n, h⟩ else char (Char.ofNat n)

/-- What stands for a code point among characters: U+FFFD for a half. -/
def readable : Point → Char
  | char c => c
  | half _ => Utf8.replacement

/-- The characters at the front that `p` holds of, and what follows them. -/
def span (p : Char → Bool) : List Point → List Char × List Point
  | char c :: rest =>
    if p c then
      let (cs, rest) := span p rest
      (c :: cs, rest)
    else ([], char c :: rest)
  | points => ([], points)

@[simp] theorem char?_char (c : Char) : (char c).char? = some c := rfl

@[simp] theorem char?_half (h : Half) : (half h).char? = none := rfl

@[simp] theorem readable_char (c : Char) : (char c).readable = c := rfl

@[simp] theorem char_inj {c d : Char} : char c = char d ↔ c = d := by
  rw [char.injEq]

end Point

/-- A row of code points of which at least one is a half. -/
structure Broken where
  points : List Point
  isBroken : points.mapM Point.char? = none
deriving DecidableEq, Repr

inductive Str where
  | whole (text : String)
  | broken (text : Broken)
deriving DecidableEq, Repr

namespace Str

instance : Coe String Str := ⟨whole⟩

instance : Inhabited Str := ⟨""⟩

def points : Str → List Point
  | whole s => s.toList.map .char
  | broken b => b.points

def ofPoints (points : List Point) : Str :=
  match h : points.mapM Point.char? with
  | some cs => whole (String.ofList cs)
  | none => broken ⟨points, h⟩

def isEmpty : Str → Bool
  | whole s => s.isEmpty
  | broken _ => false

/-- The string that a whole text is. -/
def whole? : Str → Option String
  | whole s => some s
  | broken _ => none

def isWhole (s : Str) : Bool := s.whole?.isSome

/-- The text with U+FFFD for every half. -/
def readable : Str → String
  | whole s => s
  | broken b => String.ofList (b.points.map Point.readable)

def append (s t : Str) : Str :=
  match s, t with
  | whole a, whole b => whole (a ++ b)
  | s, t => ofPoints (s.points ++ t.points)

instance : Append Str := ⟨append⟩

/-! ## Code points -/

theorem mapM_char (cs : List Char) : (cs.map Point.char).mapM Point.char? = some cs := by
  induction cs with
  | nil => rfl
  | cons c cs ih => simp [List.mapM_cons, ih]

theorem map_char_of_mapM {points : List Point} {cs : List Char}
    (h : points.mapM Point.char? = some cs) : points = cs.map .char := by
  induction points generalizing cs with
  | nil =>
    cases h
    rfl
  | cons point points ih =>
    cases point with
    | half half => simp [List.mapM_cons] at h
    | char c =>
      obtain ⟨ds, hds, rfl⟩ : ∃ ds, points.mapM Point.char? = some ds ∧ c :: ds = cs := by
        simpa [List.mapM_cons, Option.bind_eq_some_iff] using h
      rw [ih hds]
      rfl

@[simp] theorem points_whole (s : String) : (whole s).points = s.toList.map .char := rfl

@[simp] theorem points_ofPoints (points : List Point) : (ofPoints points).points = points := by
  unfold ofPoints
  split
  · rename_i cs hcs
    rw [points_whole, String.toList_ofList, map_char_of_mapM hcs]
  · rfl

theorem ofPoints_map_char (cs : List Char) : ofPoints (cs.map .char) = whole (String.ofList cs) := by
  unfold ofPoints
  split
  · rename_i ds hds
    rw [mapM_char] at hds
    cases hds
    rfl
  · rename_i hnone
    rw [mapM_char] at hnone
    cases hnone

@[simp] theorem ofPoints_points (s : Str) : ofPoints s.points = s := by
  cases s with
  | whole s => rw [points_whole, ofPoints_map_char, String.ofList_toList]
  | broken b =>
    unfold ofPoints
    split
    · rename_i cs hcs
      have hbroken := b.isBroken
      rw [points, hbroken] at hcs
      cases hcs
    · rfl

theorem points_injective {s t : Str} (h : s.points = t.points) : s = t := by
  rw [← ofPoints_points s, h, ofPoints_points]

theorem points_inj {s t : Str} : s.points = t.points ↔ s = t := ⟨points_injective, congrArg points⟩

@[simp] theorem points_append (s t : Str) : (s ++ t).points = s.points ++ t.points := by
  show (append s t).points = _
  unfold append
  split
  · simp
  · rw [points_ofPoints]

theorem append_assoc (s t u : Str) : s ++ t ++ u = s ++ (t ++ u) := by
  rw [← points_inj]
  simp

@[simp] theorem points_eq_nil {s : Str} : s.points = [] ↔ s = "" := by
  constructor
  · exact fun h => points_injective (h.trans rfl)
  · rintro rfl
    rfl

@[simp] theorem isEmpty_iff {s : Str} : s.isEmpty = true ↔ s = "" := by
  cases s with
  | whole s => simp [isEmpty]
  | broken b => simp [isEmpty]

@[simp] theorem whole?_whole (s : String) : (whole s).whole? = some s := rfl

theorem whole?_eq_some_iff {s : Str} {text : String} : s.whole? = some text ↔ s = text := by
  cases s <;> simp [whole?]

@[simp] theorem readable_whole (s : String) : (whole s).readable = s := rfl

theorem toList_readable (s : Str) : s.readable.toList = s.points.map Point.readable := by
  cases s with
  | whole s =>
    rw [points_whole, List.map_map]
    exact (List.map_id s.toList).symm
  | broken b => rw [readable, String.toList_ofList, points]

@[simp] theorem readable_append (s t : Str) : (s ++ t).readable = s.readable ++ t.readable := by
  rw [← String.toList_inj]
  simp [toList_readable]

@[simp] theorem whole_append (a b : String) : (whole a ++ whole b : Str) = whole (a ++ b) := rfl

theorem eq_whole_of_points {s : Str} {cs : List Char} (h : s.points = cs.map .char) :
    s = whole (String.ofList cs) := by
  rw [← ofPoints_points s, h, ofPoints_map_char]

/-- A text that is whole has whole parts. -/
theorem exists_of_append_eq {s t : Str} {text : String} (h : s ++ t = whole text) :
    ∃ a b, s = whole a ∧ t = whole b := by
  have hpoints : s.points ++ t.points = text.toList.map .char := by
    rw [← points_append, h, points_whole]
  obtain ⟨as, bs, -, ha, hb⟩ := List.append_eq_map_iff.mp hpoints
  exact ⟨_, _, eq_whole_of_points ha.symm, eq_whole_of_points hb.symm⟩

end Str

end Paygate
