import Mathlib.Data.List.Nodup
import Paygate.Proofs.Json.Convertible
import Paygate.Proofs.Json.Numbers
import Paygate.Proofs.Json.Texts

/-!
# Objects on one line

An object whose members are single values under distinct names is written on one line, and this line is
read as the object: the same names with the same values in the same order, and nothing else.

* `Single`: the values that are read back from what is written for them.
* `WritesWord`, `Single.cases`: such a value is a text, or it is written as a word or a number.
* `readValue_single`, `readMembers_member`: one value and one member are read back.
* `readMembers_written`, `readValue_object`: so are all members and their object.
* `ofStr?_render`: so is a whole document.
* `isPrintable_write`: no control character stands on its line.
-/

namespace Paygate

namespace Entries

variable {α κ : Type} [DecidableEq κ]

theorem lookup_map {β : Type} (f : α → β) (entries : Entries α κ) (name : κ) :
    (entries.map fun (key, value) => (key, f value)).lookup name = (entries.lookup name).map f := by
  induction entries with
  | nil => rfl
  | cons entry rest ih =>
    obtain ⟨key, value⟩ := entry
    rw [List.map_cons, lookup_cons_ite, lookup_cons_ite, ih]
    split <;> rfl

theorem set_of_not_mem {name : κ} {entries : Entries α κ} (h : name ∉ entries.map Prod.fst) (value : α) :
    set name value entries = entries ++ [(name, value)] := by
  induction entries with
  | nil => rfl
  | cons entry rest ih =>
    obtain ⟨other, old⟩ := entry
    rw [List.map_cons, List.mem_cons, not_or] at h
    rw [set, if_neg (Ne.symm h.1), ih h.2, List.cons_append]

theorem foldl_set_of_nodup {entries pairs : Entries α κ} (h : ((entries ++ pairs).map Prod.fst).Nodup) :
    pairs.foldl (fun entries (name, value) => set name value entries) entries = entries ++ pairs := by
  induction pairs generalizing entries with
  | nil => exact (List.append_nil entries).symm
  | cons pair pairs ih =>
    obtain ⟨name, value⟩ := pair
    have hnew : name ∉ entries.map Prod.fst := by
      rw [List.map_append, List.map_cons] at h
      intro hold
      exact (List.nodup_append.mp h).2.2 name hold name List.mem_cons_self rfl
    have hnext : (((entries ++ [(name, value)]) ++ pairs).map Prod.fst).Nodup := by
      rwa [List.append_assoc, List.singleton_append]
    rw [List.foldl_cons]
    show pairs.foldl _ (set name value entries) = _
    rw [set_of_not_mem hnew value, ih hnext, List.append_assoc, List.singleton_append]

/-- Pairs of distinct names replace nothing. -/
theorem ofPairs_of_nodup {pairs : Entries α κ} (h : (pairs.map Prod.fst).Nodup) : ofPairs pairs = pairs :=
  foldl_set_of_nodup h

end Entries

/-- Characters of one kind in front of something else. -/
theorem Point.span_append {p : Char → Bool} {run : List Char} {rest : List Point}
    (hrun : ∀ c ∈ run, p c = true) (hrest : ∀ c, rest.head? = some (.char c) → p c = false) :
    span p (run.map .char ++ rest) = (run, rest) := by
  induction run with
  | nil =>
    match rest with
    | [] => rfl
    | .half h :: rest => rfl
    | .char c :: rest => simp [span, hrest c rfl]
  | cons c run ih =>
    obtain ⟨hc, hrun⟩ := List.forall_mem_cons.mp hrun
    rw [List.map_cons, List.cons_append, span, if_pos hc, ih hrun]

namespace Json

/-- A value without parts that is read back as it is written. A number may not have more digits than are
converted. -/
inductive Single : Json → Prop
  | null : Single .null
  | bool (value : Bool) : Single (.bool value)
  | int {n : Int} (fits : n.natAbs < 10 ^ Numeral.digitLimit) : Single (.int n)
  | str (s : Str) : Single (.str s)

theorem ofMembers_of_nodup {members : List (Str × Json)} (h : (members.map Prod.fst).Nodup) :
    ofMembers members = .obj members := by
  rw [ofMembers, Entries.ofPairs_of_nodup h]

/-! ## Words and numbers -/

section Words

variable {value : Json} {run : List Char} {rest : List Point}

/-- A word or a number ends in front of this text. -/
def EndsWord (rest : List Point) : Prop := ∀ c, rest.head? = some (.char c) → isPlain c = false

/-- A value is written as a word or a number, and that is read as the value. -/
structure WritesWord (value : Json) (run : List Char) : Prop where
  written : write spaced value = run.map .char
  ne_nil : run ≠ []
  plain : ∀ c ∈ run, isPlain c = true
  read : readPlain? run = some (value, [])

/-- No character of a word is a quote, a bracket, a space or a control character. -/
theorem plain_char {c : Char} (h : isPlain c = true) : c ≠ '"' ∧ c ≠ '[' ∧ c ≠ '\x7b' ∧
    isSpace (.char c) = false ∧ isControl (.char c) = false := by
  have hlow : ∀ n < 33, isPlain (Char.ofNat n) = false := by decide
  have hprintable : 33 ≤ c.toNat := by
    by_contra hcontrol
    have hnone := hlow c.toNat (by omega)
    rw [Char.ofNat_toNat, h] at hnone
    cases hnone
  have hspace : isSpace (.char c) = false := by
    by_contra hspace
    simp only [isSpace, Bool.not_eq_false, Bool.or_eq_true, decide_eq_true_eq, Point.char_inj] at hspace
    obtain ((rfl | rfl) | rfl) | rfl := hspace <;> simp at hprintable
  refine ⟨?_, ?_, ?_, hspace, isControl_char.mpr (by omega)⟩ <;> rintro rfl <;> revert h <;> decide

/-- A number is written in digits, perhaps behind a sign. -/
theorem writesWord_int {n : Int} (fits : n.natAbs < 10 ^ Numeral.digitLimit) :
    WritesWord (.int n) (toString n).toList where
  written := rfl
  ne_nil := by
    rw [ne_eq, String.toList_eq_nil_iff]
    exact Text.toString_int_ne_empty n
  plain := by
    intro c hc
    rcases Text.mem_toString_int hc with rfl | hdigit
    · decide
    · simp [isPlain, Char.isAlphanum, hdigit]
  read := by
    have hread := @readPlain?_decimal _ fits [] nofun
    rwa [List.append_nil] at hread

/-- A value that is read back is a text, or it is written as a word or a number. -/
theorem Single.cases (h : Single value) : (∃ s, value = .str s) ∨ ∃ run, WritesWord value run := by
  cases h with
  | null => exact .inr ⟨"null".toList, rfl, by decide, List.all_eq_true.mp (by decide), rfl⟩
  | bool value =>
    cases value with
    | true => exact .inr ⟨"true".toList, rfl, by decide, List.all_eq_true.mp (by decide), rfl⟩
    | false => exact .inr ⟨"false".toList, rfl, by decide, List.all_eq_true.mp (by decide), rfl⟩
  | int fits => exact .inr ⟨_, writesWord_int fits⟩
  | str s => exact .inl ⟨s, rfl⟩

namespace WritesWord

variable (h : WritesWord value run)

include h

theorem readWord?_eq (hrest : EndsWord rest) : readWord? (run.map .char ++ rest) = some (value, rest) := by
  rw [readWord?, Point.span_append h.plain hrest]
  simp [h.read]

/-- What starts like no text, array or object is a word or a number. -/
theorem readValue_eq (fuel depth : Nat) (hrest : EndsWord rest) :
    readValue (fuel + 1) depth (run.map .char ++ rest) = .ok (value, rest) := by
  have hread := h.readWord?_eq hrest
  obtain ⟨c, cs, rfl⟩ := List.exists_cons_of_ne_nil h.ne_nil
  obtain ⟨hquote, hbracket, hbrace, -⟩ := plain_char (h.plain c List.mem_cons_self)
  rw [List.map_cons, List.cons_append] at hread ⊢
  simp [readValue, hquote, hbracket, hbrace, hread, orMalformed]

theorem skipSpace_eq : skipSpace (run.map .char ++ rest) = run.map .char ++ rest := by
  obtain ⟨c, cs, rfl⟩ := List.exists_cons_of_ne_nil h.ne_nil
  obtain ⟨-, -, -, hspace, -⟩ := plain_char (h.plain c List.mem_cons_self)
  rw [List.map_cons, List.cons_append, skipSpace, List.dropWhile_cons, hspace]
  rfl

theorem isPrintable : IsPrintable (run.map .char) := by
  intro point hpoint
  obtain ⟨c, hc, rfl⟩ := List.mem_map.mp hpoint
  obtain ⟨-, -, -, -, hcontrol⟩ := plain_char (h.plain c hc)
  exact hcontrol

end WritesWord

end Words

/-! ## Values -/

section Values

variable {value : Json} {fuel depth : Nat} {rest : List Point}

/-- A value is read back, if no word goes on behind it. -/
theorem readValue_single (h : Single value) (hrest : EndsWord rest) :
    readValue (fuel + 1) depth (write spaced value ++ rest) = .ok (value, rest) := by
  rcases h.cases with ⟨s, rfl⟩ | ⟨run, hword⟩
  · have hread := readText?_escaped s rest
    simp [write, writeText, readValue, hread, orMalformed]
  · rw [hword.written]
    exact hword.readValue_eq fuel depth hrest

/-- No value starts with space. -/
theorem skipSpace_single (h : Single value) :
    skipSpace (write spaced value ++ rest) = write spaced value ++ rest := by
  rcases h.cases with ⟨s, rfl⟩ | ⟨run, hword⟩
  · rfl
  · rw [hword.written]
    exact hword.skipSpace_eq

theorem isPrintable_single (h : Single value) : IsPrintable (write spaced value) := by
  rcases h.cases with ⟨s, rfl⟩ | ⟨run, hword⟩
  · exact isPrintable_writeText s
  · rw [hword.written]
    exact hword.isPrintable

end Values

/-! ## Members -/

section Members

variable {name : Str} {value : Json} {members : List (Str × Json)} {rest : List Point}

/-- No word goes on behind a member. -/
theorem endsWord_members (members : List (Str × Json)) (rest : List Point) :
    EndsWord (writeMembers spaced members ++ .char '\x7d' :: rest) := by
  cases members with
  | nil =>
    rintro c ⟨⟩
    decide
  | cons member members =>
    rintro c ⟨⟩
    decide

/-- How an object goes on behind a member: with the next one or with its end. -/
def readOn (fuel depth : Nat) (done : List (Str × Json)) (points : List Point) :
    Except ReadError (Json × List Point) :=
  match points with
  | .char ',' :: rest => readMembers fuel depth done (skipSpace rest)
  | .char '\x7d' :: rest => .ok (ofMembers done.reverse, rest)
  | _ => .error .malformed

/-- One member is read back, and what stands behind it says how the object goes on. -/
theorem readMembers_member {fuel : Nat} (depth : Nat) (done : List (Str × Json))
    (hvalue : Single value) (hrest : EndsWord rest) :
    readMembers (fuel + 2) depth done
        (writeText name ++ (spaced.name ++ (write spaced value ++ rest))) =
      readOn (fuel + 1) depth ((name, value) :: done) (skipSpace rest) := by
  have htext := readText?_escaped name (spaced.name ++ (write spaced value ++ rest))
  have hname : writeText name ++ (spaced.name ++ (write spaced value ++ rest)) =
      .char '"' :: (name.points.flatMap escapePoint ++
        .char '"' :: (spaced.name ++ (write spaced value ++ rest))) := by
    simp [writeText]
  have hcolon : skipSpace (spaced.name ++ (write spaced value ++ rest)) =
      .char ':' :: .char ' ' :: (write spaced value ++ rest) := rfl
  have hspace : skipSpace (.char ' ' :: (write spaced value ++ rest)) = write spaced value ++ rest :=
    skipSpace_single hvalue
  rw [hname, readMembers]
  simp only [htext, hcolon, hspace, readValue_single hvalue hrest]
  rfl

/-- The members from one on, up to the brace that closes their object, are read back behind those that
were read before. -/
theorem readMembers_written {fuel : Nat} (depth : Nat) (done : List (Str × Json))
    (hvalue : Single value) (hmembers : ∀ member ∈ members, Single member.2)
    (hfuel : members.length + 2 ≤ fuel) :
    readMembers fuel depth done (writeText name ++ (spaced.name ++ (write spaced value ++
        (writeMembers spaced members ++ .char '\x7d' :: rest)))) =
      .ok (ofMembers (done.reverse ++ (name, value) :: members), rest) := by
  induction members generalizing fuel name value done with
  | nil =>
    obtain ⟨fuel, rfl⟩ : ∃ n, fuel = n + 2 := ⟨fuel - 2, by omega⟩
    have hclosed : skipSpace (writeMembers spaced [] ++ .char '\x7d' :: rest) = .char '\x7d' :: rest := rfl
    rw [readMembers_member depth done hvalue (endsWord_members [] rest), hclosed, ← List.reverse_cons]
    rfl
  | cons member members ih =>
    obtain ⟨name', value'⟩ := member
    obtain ⟨hvalue', hmembers⟩ := List.forall_mem_cons.mp hmembers
    obtain ⟨fuel, rfl⟩ : ∃ n, fuel = n + 2 := ⟨fuel - 2, by omega⟩
    have hnext : members.length + 2 ≤ fuel + 1 := by
      rw [List.length_cons] at hfuel
      omega
    have hcomma : skipSpace (writeMembers spaced ((name', value') :: members) ++ .char '\x7d' :: rest) =
        .char ',' :: .char ' ' :: (writeText name' ++ (spaced.name ++ (write spaced value' ++
          (writeMembers spaced members ++ .char '\x7d' :: rest)))) := by
      simp [writeMembers, spaced, skipSpace, isSpace]
    rw [readMembers_member depth done hvalue (endsWord_members _ rest), hcomma]
    show readMembers (fuel + 1) depth ((name, value) :: done) (writeText name' ++ (spaced.name ++
      (write spaced value' ++ (writeMembers spaced members ++ .char '\x7d' :: rest)))) = _
    rw [ih ((name, value) :: done) hvalue' hmembers hnext, List.reverse_cons, List.append_assoc,
      List.singleton_append]

theorem length_le_writeMembers (members : List (Str × Json)) :
    members.length ≤ (writeMembers spaced members).length := by
  induction members with
  | nil => exact Nat.le_refl 0
  | cons member members ih =>
    simp only [writeMembers, spaced, List.length_append, List.length_cons] at ih ⊢
    omega

theorem isConvertible_single (h : Single value) : value.isConvertible = true := by
  cases h with
  | null => rfl
  | bool value => rfl
  | int fits => exact isConvertible_int.mpr fits
  | str s => rfl

theorem isPrintable_writeMembers (hmembers : ∀ member ∈ members, Single member.2) :
    IsPrintable (writeMembers spaced members) := by
  have hcomma : IsPrintable spaced.item := by decide
  have hcolon : IsPrintable spaced.name := by decide
  induction members with
  | nil => nofun
  | cons member members ih =>
    obtain ⟨name, value⟩ := member
    obtain ⟨hvalue, hmembers⟩ := List.forall_mem_cons.mp hmembers
    exact (((hcomma.append (isPrintable_writeText name)).append hcolon).append
      (isPrintable_single hvalue)).append (ih hmembers)

end Members

/-! ## Objects -/

section Objects

variable {members : List (Str × Json)}

/-- Behind the brace of an object stands its first name. -/
theorem readValue_brace (fuel depth : Nat) (name : Str) (rest : List Point) :
    readValue (fuel + 1) (depth + 1) (.char '\x7b' :: (writeText name ++ rest)) =
      readMembers fuel depth [] (writeText name ++ rest) := by
  have hskip : skipSpace (writeText name ++ rest) = writeText name ++ rest := rfl
  rw [readValue]
  simp only [hskip]
  rfl

/-- An object is read back, at any depth that it may stand in. -/
theorem readValue_object {fuel : Nat} (depth : Nat) (hmembers : ∀ member ∈ members, Single member.2)
    (hnodup : (members.map Prod.fst).Nodup) (hfuel : members.length + 1 ≤ fuel) (rest : List Point) :
    readValue (fuel + 1) (depth + 1) (write spaced (.obj members) ++ rest) = .ok (.obj members, rest) := by
  cases members with
  | nil => rfl
  | cons member members =>
    obtain ⟨name, value⟩ := member
    obtain ⟨hvalue, hmembers⟩ := List.forall_mem_cons.mp hmembers
    have hwritten : write spaced (.obj ((name, value) :: members)) ++ rest =
        .char '\x7b' :: (writeText name ++ (spaced.name ++ (write spaced value ++
          (writeMembers spaced members ++ .char '\x7d' :: rest)))) := by
      simp [write]
    rw [hwritten, readValue_brace, readMembers_written depth [] hvalue hmembers hfuel, List.reverse_nil,
      List.nil_append, ofMembers_of_nodup hnodup]

theorem length_lt_write (members : List (Str × Json)) :
    members.length + 1 ≤ (write spaced (.obj members)).length := by
  cases members with
  | nil => decide
  | cons member members =>
    have hlength := length_le_writeMembers members
    simp only [write, writeText, List.length_cons, List.length_append]
    omega

/-- A document that is one object is read back. -/
theorem ofPoints_write (hmembers : ∀ member ∈ members, Single member.2)
    (hnodup : (members.map Prod.fst).Nodup) : ofPoints (write spaced (.obj members)) = .ok (.obj members) := by
  have hdepth : depthLimit = depthLimit - 1 + 1 := rfl
  have hskip : skipSpace (write spaced (.obj members)) = write spaced (.obj members) := by
    cases members <;> rfl
  have hread := readValue_object (depthLimit - 1) hmembers hnodup (length_lt_write members) []
  rw [List.append_nil, ← hdepth] at hread
  rw [ofPoints, hskip, hread]
  rfl

/-- No control character stands in an object. -/
theorem isPrintable_write (hmembers : ∀ member ∈ members, Single member.2) :
    IsPrintable (write spaced (.obj members)) := by
  have hcolon : IsPrintable spaced.name := by decide
  cases members with
  | nil => decide
  | cons member members =>
    obtain ⟨name, value⟩ := member
    obtain ⟨hvalue, hrest⟩ := List.forall_mem_cons.mp hmembers
    have hfirst := ((isPrintable_writeText name).append hcolon).append (isPrintable_single hvalue)
    rw [write]
    exact IsPrintable.cons (by decide) ((hfirst.append (isPrintable_writeMembers hrest)).append (by decide))

/-- What is written for an object is read as the object. -/
theorem ofStr?_render (hmembers : ∀ member ∈ members, Single member.2)
    (hnodup : (members.map Prod.fst).Nodup) :
    ofStr? (render spaced (.obj members)) = some (.obj members) := by
  rw [ofStr?, render, Str.points_ofPoints, ofPoints_write hmembers hnodup]
  rfl

end Objects

end Json

end Paygate
