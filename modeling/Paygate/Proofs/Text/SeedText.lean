import Mathlib.Tactic.Ring
import Paygate.Payment.Field
import Paygate.Proofs.StrKey
import Paygate.Proofs.Text.Decimal
import Paygate.Text.Quoted

/-!
# Seeds inside of texts

A seed consists of letters and digits and starts with the letter `S`. So where texts are put together
a seed can come about only if it stood in one of them.

* `Holds`: a seed stands in a text.
* `IsSeed.holds_append`, `IsSeed.holds_split`: a text in front that has no `S`, and a character that no
  key has, can be left out of account.
* `IsSeed.holds_of_quoted`: a seed in a quoted text stands in the text.
-/

namespace Paygate

/-- A text that is accepted as a secret seed. -/
def IsSeed (seed : String) : Prop := StrKey.isValid .seed seed = true

/-- The seed stands somewhere in the text. -/
def Holds (text : List Char) (seed : String) : Prop := seed.toList <:+: text

/-! ## What a seed looks like -/

namespace Base32

/-- The first of the low digits of a number. -/
theorem head?_digits (count n : Nat) :
    (digits (count + 1) n).head? = some (digit (n / 32 ^ count % 32)) := by
  induction count generalizing n with
  | zero => simp [digits]
  | succ count ih =>
    rw [digits, List.head?_append, ih, Nat.div_div_eq_div_mul, ← Nat.pow_succ']
    rfl

end Base32

namespace Bytes

/-- The first byte of a number is its most significant one. -/
theorem toNat_cons (b : UInt8) (bytes : Bytes) :
    toNat (b :: bytes) = b.toNat * 256 ^ bytes.length + toNat bytes := by
  induction bytes using List.reverseRecOn with
  | nil => simp [toNat]
  | append_singleton bytes last ih =>
    rw [← List.cons_append, toNat_append_singleton, toNat_append_singleton, ih, List.length_append,
      List.length_singleton, Nat.pow_succ]
    ring

end Bytes

/-! ## Numbers in texts -/

namespace Text

theorem not_mem_toDigits (base n : Nat) : 'S' ∉ Nat.toDigits (base + 2) n := by
  have hdigit : ∀ d : Nat, 'S' ∉ [d.digitChar] := by
    intro d hmem
    exact Nat.digitChar_ne 'S' (by decide) (List.mem_singleton.mp hmem).symm
  induction n using Nat.strong_induction_on with
  | _ n ih =>
    rw [Nat.toDigits_eq_if (by omega)]
    split
    · exact hdigit n
    · rw [List.mem_append, not_or]
      exact ⟨ih _ (Nat.div_lt_self (by omega) (by omega)), hdigit _⟩

/-- The decimal text of a number has no letters. -/
theorem not_mem_toString_nat (n : Nat) : 'S' ∉ (toString n).toList := by
  show 'S' ∉ (Nat.repr n).toList
  rw [Nat.toList_repr]
  exact not_mem_toDigits 8 n

theorem not_mem_toString_int (n : Int) : 'S' ∉ (toString n).toList := by
  intro h
  rcases mem_toString_int h with hsign | hdigit
  · cases hsign
  · cases hdigit

end Text

namespace IsSeed

variable {seed : String}

theorem decoded (h : IsSeed seed) : ∃ payload, StrKey.decode? .seed seed = some payload :=
  Option.isSome_iff_exists.mp h

theorem length_eq (h : IsSeed seed) : seed.toList.length = 56 := by
  obtain ⟨payload, hdecode⟩ := h.decoded
  rw [String.length_toList, StrKey.length_of_decode? hdecode]
  rfl

theorem value?_isSome (h : IsSeed seed) {c : Char} (hc : c ∈ seed.toList) :
    (Base32.value? c).isSome = true := by
  obtain ⟨payload, hdecode⟩ := h.decoded
  exact StrKey.value?_of_mem hdecode hc

/-- The version byte makes the first letter of a seed. -/
theorem head?_eq (h : IsSeed seed) : seed.toList.head? = some 'S' := by
  obtain ⟨payload, hdecode⟩ := h.decoded
  have hpayload : payload.1.length = 32 := payload.2
  have hcheck : (StrKey.check (KeyKind.seed.version :: payload.1)).length = 2 := Bytes.length_ofNatLE _ _
  have hrest : (payload.1 ++ StrKey.check (KeyKind.seed.version :: payload.1)).length = 34 := by
    rw [List.length_append, hpayload, hcheck]
  have htext : seed.toList = Base32.encode
      (KeyKind.seed.version :: (payload.1 ++ StrKey.check (KeyKind.seed.version :: payload.1))) := by
    rw [← StrKey.decode?_eq_some_iff.mp hdecode, StrKey.encode, String.toList_ofList,
      List.cons_append]
  have hcount : Base32.digitCount (34 + 1) = 55 + 1 := rfl
  have hbound := Bytes.toNat_lt (payload.1 ++ StrKey.check (KeyKind.seed.version :: payload.1))
  rw [hrest] at hbound
  -- the version byte stands above 34 other bytes, and the first digit above 55 others
  have hdigit : Bytes.toNat (KeyKind.seed.version ::
      (payload.1 ++ StrKey.check (KeyKind.seed.version :: payload.1))) / 32 ^ 55 % 32 = 18 := by
    rw [Bytes.toNat_cons, hrest]
    have hversion : KeyKind.seed.version.toNat = 144 := rfl
    rw [hversion]
    omega
  rw [htext, Base32.encode, List.length_cons, hrest, hcount, Base32.head?_digits]
  simp only [Nat.reduceMul, Nat.reduceAdd, Nat.sub_self, Nat.shiftLeft_zero, hdigit]
  rfl

/-- A seed is no other key, so it does not stand in one. -/
theorem not_holds_accountKey (h : IsSeed seed) {account : String} (key : StrKey.AccountKey account) :
    ¬ Holds account.toList seed := by
  intro hholds
  have hsame : seed.toList = account.toList :=
    List.IsInfix.eq_of_length hholds (by rw [h.length_eq, String.length_toList, key.length])
  have hvalid := key.not_seed
  rw [← String.toList_injective hsame] at hvalid
  exact absurd h (by rw [IsSeed, hvalid]; exact nofun)

/-! ## Texts that are put together -/

variable {c : Char} {a text : List Char}

theorem ne_nil (h : IsSeed seed) : seed.toList ≠ [] := by
  intro hnil
  have hhead := h.head?_eq
  rw [hnil] at hhead
  cases hhead

/-- A text without an `S` holds no seed. -/
theorem not_holds (h : IsSeed seed) (htext : 'S' ∉ text) : ¬ Holds text seed := by
  intro hholds
  exact htext (hholds.subset (List.mem_of_mem_head? h.head?_eq))

/-- A text that is too short holds no seed. -/
theorem not_holds_of_length_lt (h : IsSeed seed) (htext : text.length < 56) : ¬ Holds text seed := by
  intro hholds
  have hle := hholds.length_le
  rw [h.length_eq] at hle
  omega

/-- Between two texts with a character that no key has, no seed comes about. -/
theorem holds_split (h : IsSeed seed) (hc : Base32.value? c = none) :
    Holds (a ++ c :: text) seed ↔ Holds a seed ∨ Holds text seed := by
  have hnot : c ∉ seed.toList := by
    intro hmem
    have hvalue := h.value?_isSome hmem
    rw [hc] at hvalue
    cases hvalue
  unfold Holds
  rw [List.infix_append_iff, List.infix_cons_iff]
  constructor
  · rintro (ha | (hfirst | htext) | ⟨left, right, heq, hleft, hright⟩)
    · exact .inl ha
    · obtain hnil | ⟨_, heq, -⟩ := List.prefix_cons_iff.mp hfirst
      · exact absurd hnil h.ne_nil
      · exact absurd (heq ▸ List.mem_cons_self) hnot
    · exact .inr htext
    · obtain rfl | ⟨_, rfl, -⟩ := List.prefix_cons_iff.mp hright
      · rw [List.append_nil] at heq
        exact .inl (heq ▸ hleft.isInfix)
      · exact absurd (heq ▸ List.mem_append_right _ List.mem_cons_self) hnot
  · rintro (ha | htext)
    · exact .inl ha
    · exact .inr (.inl (.inr htext))

/-- A text in front that has no `S` adds nothing. -/
theorem holds_append (h : IsSeed seed) (ha : 'S' ∉ a) : Holds (a ++ text) seed ↔ Holds text seed := by
  induction a with
  | nil => rfl
  | cons c a ih =>
    rw [List.mem_cons, not_or] at ha
    rw [List.cons_append, Holds, List.infix_cons_iff]
    have hfirst : ¬ seed.toList <+: c :: (a ++ text) := by
      intro hfirst
      have hhead := h.head?_eq
      obtain hnil | ⟨_, heq, -⟩ := List.prefix_cons_iff.mp hfirst
      · exact h.ne_nil hnil
      · rw [heq] at hhead
        exact ha.1 (Option.some.inj hhead).symm
    rw [or_iff_right hfirst]
    exact ih ha.2

/-! ## Quoted texts -/

theorem not_mem_codeEscape (n : Nat) : ∃ rest, Text.codeEscape n = '\\' :: rest ∧ 'S' ∉ rest := by
  have hpadded : ∀ width, 'S' ∉ Hex.padded width n := by
    intro width
    rw [Hex.padded, List.mem_append, not_or]
    exact ⟨fun hmem => absurd (List.eq_of_mem_replicate hmem) (by decide), Text.not_mem_toDigits 14 n⟩
  unfold Text.codeEscape
  split
  · exact ⟨_, rfl, by simp [hpadded]⟩
  · split
    · exact ⟨_, rfl, by simp [hpadded]⟩
    · exact ⟨_, rfl, by simp [hpadded]⟩

/-- A character is quoted as itself or by an escape. -/
theorem quoteChar_cases {quote : Char} (hquote : quote ≠ 'S') (c : Char) :
    Text.quoteChar quote c = [c] ∨ ∃ rest, Text.quoteChar quote c = '\\' :: rest ∧ 'S' ∉ rest := by
  have hescaped : ∀ c, ∃ rest, Text.codeEscape c = '\\' :: rest ∧ 'S' ∉ rest := not_mem_codeEscape
  unfold Text.quoteChar
  split_ifs with hplain
  · refine .inr ⟨[c], rfl, ?_⟩
    rw [List.mem_singleton]
    rintro rfl
    simp only [Bool.or_eq_true, decide_eq_true_eq] at hplain
    exact hplain.elim (fun heq => hquote heq.symm) (by decide)
  · exact .inr ⟨_, rfl, by decide⟩
  · exact .inr ⟨_, rfl, by decide⟩
  · exact .inr ⟨_, rfl, by decide⟩
  · exact .inr (hescaped _)
  · exact .inl rfl
  · exact .inl rfl
  · exact .inr (hescaped _)

/-- A half of a surrogate pair is quoted by an escape. -/
theorem quotePoint_cases {quote : Char} (hquote : quote ≠ 'S') (point : Point) :
    Text.quotePoint quote point = [point.readable] ∨
      ∃ rest, Text.quotePoint quote point = '\\' :: rest ∧ 'S' ∉ rest := by
  cases point with
  | char c => exact quoteChar_cases hquote c
  | half half => exact .inr (not_mem_codeEscape half.code)

/-- What starts a quoted text without a backslash starts the text. -/
theorem prefix_of_quoted {quote : Char} (hquote : quote ≠ 'S') {start : List Char}
    {points : List Point} (hstart : '\\' ∉ start)
    (h : start <+: points.flatMap (Text.quotePoint quote)) : start <+: points.map Point.readable := by
  induction start generalizing points with
  | nil => exact List.nil_prefix
  | cons c start ih =>
    rw [List.mem_cons, not_or] at hstart
    cases points with
    | nil => exact absurd (List.prefix_nil.mp h) (List.cons_ne_nil _ _)
    | cons point points =>
      rw [List.flatMap_cons] at h
      rcases quotePoint_cases hquote point with hd | ⟨rest, hd, -⟩
      · rw [hd, List.singleton_append, List.cons_prefix_cons] at h
        exact List.cons_prefix_cons.mpr ⟨h.1, ih hstart.2 h.2⟩
      · rw [hd, List.cons_append, List.cons_prefix_cons] at h
        exact absurd h.1.symm hstart.1

theorem holds_of_flatMap (h : IsSeed seed) {quote : Char} (hquote : quote ≠ 'S') {points : List Point}
    (hholds : Holds (points.flatMap (Text.quotePoint quote)) seed) :
    Holds (points.map Point.readable) seed := by
  induction points with
  | nil => exact hholds
  | cons point points ih =>
    rw [List.flatMap_cons] at hholds
    rcases quotePoint_cases hquote point with hd | ⟨rest, hd, hrest⟩
    · have hbackslash : '\\' ∉ seed.toList := by
        intro hmem
        exact absurd (h.value?_isSome hmem) (by decide)
      rw [hd, List.singleton_append, Holds, List.infix_cons_iff] at hholds
      rw [Holds, List.map_cons, List.infix_cons_iff]
      rcases hholds with hfirst | hholds
      · have hflat : seed.toList <+: (point :: points).flatMap (Text.quotePoint quote) := by
          rwa [List.flatMap_cons, hd, List.singleton_append]
        exact .inl (prefix_of_quoted hquote hbackslash hflat)
      · exact .inr (ih hholds)
    · rw [hd, h.holds_append (by simp [hrest])] at hholds
      rw [Holds, List.map_cons, List.infix_cons_iff]
      exact .inr (ih hholds)

/-- A seed in a quoted text stands in the text. -/
theorem holds_of_quoted (h : IsSeed seed) {text : Str} (hholds : Holds (Text.quoted text).toList seed) :
    Holds text.readable.toList seed := by
  unfold Text.quoted at hholds
  rw [String.toList_ofList] at hholds
  rw [Str.toList_readable]
  have hquote : Text.quoteFor text.points = '"' ∨ Text.quoteFor text.points = '\'' := by
    unfold Text.quoteFor
    split
    · exact .inl rfl
    · exact .inr rfl
  have hnone : Base32.value? (Text.quoteFor text.points) = none := by
    rcases hquote with hquote | hquote <;> rw [hquote] <;> decide
  have hne : Text.quoteFor text.points ≠ 'S' := by
    rcases hquote with hquote | hquote <;> rw [hquote] <;> decide
  rw [h.holds_split hnone, or_iff_left (h.not_holds (List.not_mem_nil))] at hholds
  rw [← List.singleton_append, h.holds_append (by simpa using hne.symm)] at hholds
  exact h.holds_of_flatMap hne hholds

end IsSeed

/-! ## Texts that do not mention a seed -/

/-- The seed does not stand in the text. What stands for the halves of surrogate pairs in the readable
text is no letter of a seed. -/
def Silent (seed : String) (text : Str) : Prop := ¬ Holds text.readable.toList seed

/-- The seed does not stand in the value of a field. A file shows nothing. -/
def Field.Silent (seed : String) : Field → Prop
  | .text s => Paygate.Silent seed s
  | .upload => True

namespace IsSeed

variable {seed : String}

theorem silent_accountKey (h : IsSeed seed) {account : String} (key : StrKey.AccountKey account) :
    Silent seed account := h.not_holds_accountKey key

/-- A text that is too short is silent. -/
theorem silent_of_length_lt (h : IsSeed seed) {text : Str} (htext : text.readable.toList.length < 56) :
    Silent seed text := h.not_holds_of_length_lt htext

theorem silent_of_not_mem (h : IsSeed seed) {text : Str} (htext : 'S' ∉ text.readable.toList) :
    Silent seed text := h.not_holds htext

/-- Where a text without an `S` is put in front, it adds nothing. -/
theorem silent_str_append (h : IsSeed seed) {front text : Str} (hfront : 'S' ∉ front.readable.toList) :
    Silent seed (front ++ text) ↔ Silent seed text := by
  rw [Silent, Silent, Str.readable_append, String.toList_append, h.holds_append hfront]

theorem silent_append (h : IsSeed seed) {front text : String} (hfront : 'S' ∉ front.toList) :
    Silent seed (front ++ text : String) ↔ Silent seed text := by
  rw [← Str.whole_append]
  exact h.silent_str_append hfront

/-- The text starts with a character that no key has. -/
def separates (text : Str) : Bool :=
  match text.readable.toList with
  | [] => false
  | c :: _ => (Base32.value? c).isNone

theorem separates_iff {text : Str} :
    separates text = true ↔ ∃ c rest, text.readable.toList = c :: rest ∧ Base32.value? c = none := by
  unfold separates
  split <;> simp_all

theorem separates_append {text : Str} (h : separates text = true) (rest : Str) :
    separates (text ++ rest) = true := by
  obtain ⟨c, cs, htext, hc⟩ := separates_iff.mp h
  refine separates_iff.mpr ⟨c, cs ++ rest.readable.toList, ?_, hc⟩
  rw [Str.readable_append, String.toList_append, htext]
  rfl

/-- Between a text and one that starts with a character that no key has, no seed comes about. -/
theorem silent_behind (h : IsSeed seed) {front text : Str} (hfirst : separates text = true)
    (hfront : Silent seed front) (htext : Silent seed text) : Silent seed (front ++ text) := by
  obtain ⟨c, rest, hrest, hc⟩ := separates_iff.mp hfirst
  unfold Silent at htext ⊢
  rw [Str.readable_append, String.toList_append, hrest, h.holds_split hc, not_or]
  refine ⟨hfront, fun hholds => htext ?_⟩
  rw [hrest]
  exact hholds.trans (List.suffix_cons c rest).isInfix

/-- So it is where something stands between the two that starts with such a character and has no `S`. -/
theorem silent_between (h : IsSeed seed) {front : Str} {between text : String}
    (hfirst : separates between = true) (hbetween : 'S' ∉ (Str.whole between).readable.toList)
    (hfront : Silent seed front) (htext : Silent seed text) :
    Silent seed (front ++ .whole (between ++ text)) := by
  rw [← Str.whole_append]
  exact h.silent_behind (separates_append hfirst _) hfront ((h.silent_str_append hbetween).mpr htext)

theorem silent_quoted (h : IsSeed seed) {text : Str} (htext : Silent seed text) :
    Silent seed (Text.quoted text) := fun hholds => htext (h.holds_of_quoted hholds)

end IsSeed

end Paygate
