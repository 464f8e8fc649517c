import Paygate.Log.Draft
import Paygate.Log.Line
import Paygate.Proofs.Json.Objects

/-!
# What a log line tells

Whatever the texts in a record are, its line is one line, and the line is read as an object that tells of
the record: its level, its logger, its message, the attributes that are shown, and the exception. So no text
of a client or of a server can end a line, start another one, or put a member into it.

* `Draft.Tells`: what a line tells, and under which names.
* `Draft.members`, `Draft.jsonLine?_recordOf`: the members that are written.
* `Draft.mem_members_iff`, `Draft.nodup_members`: they are what the line tells, under distinct names.
* `Draft.message_of_template`: any text can be the message.
* `Draft.line_exact`: the line of a draft; `Draft.unwritten` has four that have none.
-/

namespace Paygate

namespace Log

/-- The entries under other names stand in the order of these. -/
theorem sublist_filterMap {α : Type} {g : Str → Option (Str × α)}
    (hname : ∀ name pair, g name = some pair → pair.1 = name) (names : List Str) :
    ((names.filterMap g).map Prod.fst).Sublist names := by
  induction names with
  | nil => exact List.Sublist.slnil
  | cons name names ih =>
    cases hpair : g name with
    | none =>
      rw [List.filterMap_cons_none hpair]
      exact ih.cons name
    | some pair =>
      rw [List.filterMap_cons_some hpair, List.map_cons, hname name pair hpair]
      exact ih.cons_cons name

theorem Value.isNull_json {value : Json} : (json value).isNull = true ↔ value = .null := by
  cases value <;> simp [isNull]

namespace Draft

variable {draft : Draft} {time : String} {text name : Str} {value : Json} {exception : Option Str}

/-- The level's name, unless an attribute replaces it. -/
def levelName (draft : Draft) : Json := (draft.attribute? "levelname").getD (.str draft.level.name)

/-- The logger's name, unless an attribute replaces it. -/
def loggerName (draft : Draft) : Json := (draft.attribute? "name").getD (.str draft.logger)

/-- What the line of a draft with this message tells at this time, and under which names. -/
inductive Tells (draft : Draft) (time : String) (text : Str) : Str → Json → Prop
  | timestamp : Tells draft time text "timestamp" (.str time)
  | level : Tells draft time text "level" draft.levelName
  | logger : Tells draft time text "logger" draft.loggerName
  | message : Tells draft time text "message" (.str text)
  | carried {name : Str} {value : Json} (shown : name ∈ shownAttributes)
      (value_eq : draft.attribute? name = some value) (ne_null : value ≠ .null) :
      Tells draft time text name value
  | exception {e : Str} (reported : draft.reported = .ok (some e)) :
      Tells draft time text "exception" (.str e)

/-! ## Members -/

/-- The attributes that are shown. -/
def shown (draft : Draft) : List (Str × Json) :=
  shownAttributes.filterMap fun name =>
    match draft.attribute? name with
    | some value => if (Value.json value).isNull then none else some (name, value)
    | none => none

/-- The members of a line behind its time. -/
def body (draft : Draft) (text : Str) (exception : Option Str) : List (Str × Json) :=
  let head : List (Str × Json) :=
    [("level", draft.levelName), ("logger", draft.loggerName), ("message", .str text)]
  let reported : Option (Str × Json) := exception.map fun e => ("exception", .str e)
  head ++ draft.shown ++ reported.toList

/-- The members of a line. -/
def members (draft : Draft) (time : String) (text : Str) (exception : Option Str) : List (Str × Json) :=
  ("timestamp", .str time) :: draft.body text exception

theorem mem_shown_iff : (name, value) ∈ draft.shown ↔
    name ∈ shownAttributes ∧ draft.attribute? name = some value ∧ value ≠ .null := by
  rw [shown, List.mem_filterMap]
  constructor
  · rintro ⟨name', hname, hpair⟩
    cases hvalue : draft.attribute? name' with
    | none => simp [hvalue] at hpair
    | some value' =>
      by_cases hnull : (Value.json value').isNull = true
      · simp [hvalue, hnull] at hpair
      · simp only [hvalue, if_neg hnull, Option.some.injEq, Prod.mk.injEq] at hpair
        obtain ⟨rfl, rfl⟩ := hpair
        exact ⟨hname, hvalue, fun h => hnull (Value.isNull_json.mpr h)⟩
  · rintro ⟨hname, hvalue, hnull⟩
    have hshown : ¬ (Value.json value).isNull = true := fun h => hnull (Value.isNull_json.mp h)
    exact ⟨name, hname, by simp only [hvalue, if_neg hshown]⟩

/-- The members are what the line tells. -/
theorem mem_members_iff (hreported : draft.reported = .ok exception) :
    (name, value) ∈ draft.members time text exception ↔ draft.Tells time text name value := by
  constructor
  · intro h
    simp only [members, body, List.mem_append, List.mem_cons, List.not_mem_nil, or_false, Prod.mk.injEq,
      Option.mem_toList, Option.map_eq_some_iff] at h
    obtain ⟨rfl, rfl⟩ | ((⟨rfl, rfl⟩ | ⟨rfl, rfl⟩ | ⟨rfl, rfl⟩) | hshown) | ⟨e, rfl, rfl, rfl⟩ := h
    · exact .timestamp
    · exact .level
    · exact .logger
    · exact .message
    · obtain ⟨hname, hvalue, hnull⟩ := mem_shown_iff.mp hshown
      exact .carried hname hvalue hnull
    · exact .exception hreported
  · intro h
    cases h with
    | timestamp => simp [members]
    | level => simp [members, body]
    | logger => simp [members, body]
    | message => simp [members, body]
    | carried hname hvalue hnull =>
      have hshown : (name, value) ∈ draft.shown := mem_shown_iff.mpr ⟨hname, hvalue, hnull⟩
      simp [members, body, hshown]
    | exception reported =>
      cases Except.ok.inj (hreported.symm.trans reported)
      simp [members, body]

/-- No two members have one name. -/
theorem nodup_members (draft : Draft) (time : String) (text : Str) (exception : Option Str) :
    ((draft.members time text exception).map Prod.fst).Nodup := by
  have hshown : (draft.shown.map Prod.fst).Sublist shownAttributes := by
    refine sublist_filterMap (fun name pair hpair => ?_) _
    split at hpair
    · split at hpair <;> cases hpair
      rfl
    · cases hpair
  have hexception : ((exception.map fun e => ((.whole "exception", .str e) : Str × Json)).toList.map
      Prod.fst).Sublist [.whole "exception"] := by
    cases exception with
    | none => exact List.nil_sublist _
    | some e => exact List.Sublist.refl _
  have hall : (Str.whole "timestamp" :: ([.whole "level", .whole "logger", .whole "message"] ++
      shownAttributes ++ [.whole "exception"])).Nodup := by decide
  refine List.Nodup.sublist ?_ hall
  rw [members, body, List.map_cons, List.map_append, List.map_append]
  exact (((List.Sublist.refl _).append hshown).append hexception).cons_cons _

/-! ## Records -/

/-- The record of a draft that comes to a message and an exception. -/
def recordOf (draft : Draft) (text : Str) (exception : Option Str) : Record where
  level := draft.level
  logger := draft.logger
  message := text
  attributes := draft.attributes.map fun (name, value) => (name, .json value)
  exception := exception

theorem record_eq_ok (hmessage : draft.message = .ok text) (hreported : draft.reported = .ok exception) :
    draft.record = .ok (draft.recordOf text exception) := by
  rw [record, hmessage, hreported]
  rfl

theorem attribute?_recordOf (name : Str) :
    (draft.recordOf text exception).attribute? name = (draft.attribute? name).map .json := by
  show ((draft.attributes.map fun (name, value) => (name, Value.json value)).reverse).lookup name = _
  rw [← List.map_reverse]
  exact Entries.lookup_map Value.json draft.attributes.reverse name

theorem shown_recordOf : (draft.recordOf text exception).shown =
    draft.shown.map fun (name, value) => (name, .json value) := by
  rw [Record.shown, shown, List.map_filterMap]
  congr
  funext name
  rw [attribute?_recordOf]
  cases draft.attribute? name with
  | none => rfl
  | some value =>
    dsimp only [Option.map_some]
    split <;> rfl

theorem entries_recordOf : (draft.recordOf text exception).entries =
    (draft.body text exception).map fun (name, value) => (name, .json value) := by
  have hlevel : (draft.recordOf text exception).levelName = .json draft.levelName := by
    rw [Record.levelName, attribute?_recordOf, levelName]
    cases draft.attribute? "levelname" <;> rfl
  have hlogger : (draft.recordOf text exception).loggerName = .json draft.loggerName := by
    rw [Record.loggerName, attribute?_recordOf, loggerName]
    cases draft.attribute? "name" <;> rfl
  rw [Record.entries, hlevel, hlogger, shown_recordOf, body, List.map_append, List.map_append]
  cases exception <;> rfl

theorem mapM_json? (members : List (Str × Json)) :
    ((members.map fun (name, value) => (name, Value.json value)).mapM fun (name, value) =>
      value.json?.map (name, ·)) = some members := by
  induction members with
  | nil => rfl
  | cons member members ih =>
    rw [List.map_cons, List.mapM_cons, ih]
    rfl

/-- The members of a record are those of its draft. -/
theorem members?_recordOf :
    (draft.recordOf text exception).members? = some (draft.body text exception) := by
  rw [Record.members?, entries_recordOf]
  exact mapM_json? (draft.body text exception)

/-! ## Lines -/

/-- What is written of single values is a single value. -/
theorem single_of_tells (hvalues : ∀ name ∈ Str.whole "levelname" :: .whole "name" :: shownAttributes,
      ∀ value, draft.attribute? name = some value → value.Single)
    (h : draft.Tells time text name value) : value.Single := by
  cases h with
  | timestamp => exact .str time
  | message => exact .str text
  | exception => exact .str _
  | carried shown value_eq =>
    exact hvalues name (List.mem_cons_of_mem _ (List.mem_cons_of_mem _ shown)) value value_eq
  | level =>
    unfold levelName
    cases hvalue : draft.attribute? "levelname" with
    | none => exact .str _
    | some value => exact hvalues "levelname" List.mem_cons_self value hvalue
  | logger =>
    unfold loggerName
    cases hvalue : draft.attribute? "name" with
    | none => exact .str _
    | some value => exact hvalues "name" (List.mem_cons_of_mem _ List.mem_cons_self) value hvalue

theorem mem_of_attribute? (h : draft.attribute? name = some value) : (name, value) ∈ draft.attributes :=
  List.mem_reverse.mp (Entries.mem_of_lookup h)

/-- A record with a number that cannot be converted has no line. -/
theorem jsonLine?_of_overlong {n : Int} (hmem : (name, .int n) ∈ draft.body text exception)
    (hlong : 10 ^ Numeral.digitLimit ≤ n.natAbs) (time : String) :
    (draft.recordOf text exception).jsonLine? time = none := by
  rw [Record.jsonLine?, members?_recordOf]
  refine if_neg fun hconvertible => ?_
  rw [Json.isConvertible] at hconvertible
  have hfits := Json.membersConvertible_iff.mp hconvertible _ (List.mem_cons_of_mem _ hmem)
  exact Json.not_isConvertible_of_long hlong hfits

theorem jsonLine?_recordOf
    (hsingle : ∀ member ∈ draft.members time text exception, member.2.Single) :
    (draft.recordOf text exception).jsonLine? time =
      some (Json.render Json.spaced (.obj (draft.members time text exception))) := by
  have hconvertible : (Json.obj (draft.members time text exception)).isConvertible = true := by
    rw [Json.isConvertible]
    exact Json.membersConvertible_iff.mpr fun member hmember =>
      Json.isConvertible_single (hsingle member hmember)
  rw [Record.jsonLine?, members?_recordOf]
  exact if_pos hconvertible

/-- Any text is its own message, if no arguments come with it and no attribute stands in its place. -/
theorem message_of_template (htemplate : draft.template = .str text) (harguments : draft.arguments = [])
    (hgetMessage : draft.attribute? "getMessage" = none) (hmsg : draft.attribute? "msg" = none)
    (hargs : draft.attribute? "args" = none) : draft.message = .ok text := by
  simp only [message, hgetMessage, hmsg, hargs, htemplate, harguments]
  rfl

/-- An exception is reported if no attribute stands in its place, or an empty one. -/
theorem exists_reported (h : ∀ value, draft.attribute? "exc_info" = some value → value.isFalsy = true) :
    ∃ exception, draft.reported = .ok exception := by
  unfold reported
  cases hvalue : draft.attribute? "exc_info" with
  | none => exact ⟨draft.exception, rfl⟩
  | some value => exact ⟨none, if_pos (h value hvalue)⟩

/-- The line of a draft that comes to a message, at any time. No attribute may stand in the place of an
exception, unless it is empty, and the attributes that are looked at are texts, words, null or whole numbers
that can be converted; the others may be anything.

* The line holds no control character, so it is one line.
* It is read as an object with distinct names, and the object has a value under a name if and only if the
  line tells it: the time, the level, the logger, the message, the attributes of these names that are there
  and not null, and the exception, if one is reported. -/
theorem line_exact (draft : Draft) (time : String) (text : Str) (hmessage : draft.message = .ok text)
    (hreported : ∀ value, draft.attribute? "exc_info" = some value → value.isFalsy = true)
    (hvalues : ∀ name ∈ Str.whole "levelname" :: .whole "name" :: shownAttributes,
      ∀ value, draft.attribute? name = some value → value.Single) :
    ∃ record line members, draft.record = .ok record ∧ record.jsonLine? time = some line ∧
      (∀ c, .char c ∈ line.points → 32 ≤ c.toNat) ∧
      Json.ofStr? line = some (.obj members) ∧ (members.map Prod.fst).Nodup ∧
      ∀ name value, (name, value) ∈ members ↔ draft.Tells time text name value := by
  obtain ⟨exception, hreported⟩ := exists_reported hreported
  have hsingle : ∀ member ∈ draft.members time text exception, member.2.Single := fun member hmember =>
    single_of_tells hvalues ((mem_members_iff hreported).mp hmember)
  have hnodup := draft.nodup_members time text exception
  refine ⟨_, _, _, record_eq_ok hmessage hreported, jsonLine?_recordOf hsingle, ?_,
    Json.ofStr?_render hsingle hnodup, hnodup, fun name value => mem_members_iff hreported⟩
  intro c hc
  rw [Json.render, Str.points_ofPoints] at hc
  exact Json.isControl_char.mp (Json.isPrintable_write hsingle _ hc)

/-- A draft whose message would start another line, and which carries a secret. -/
def hostile : Draft where
  level := .warning
  logger := "gateway"
  template := .str "\"\x7d\n\x7b\"level\": \"CRITICAL\\"
  attributes := [("path", .str "\x00é\""), ("sequence", .int (-7)), ("error_code", .null),
    ("seed", .str "S")]
  exception := some "ValueError: \n"

theorem hostile_told : ∃ record line members, hostile.record = .ok record ∧
    record.jsonLine? "noon" = some line ∧ (∀ c, .char c ∈ line.points → 32 ≤ c.toNat) ∧
    Json.ofStr? line = some (.obj members) ∧ (members.map Prod.fst).Nodup ∧
    (.whole "level", .str "WARNING") ∈ members ∧ (.whole "path", .str "\x00é\"") ∈ members ∧
    (.whole "exception", .str "ValueError: \n") ∈ members ∧
    ∀ value, (.whole "seed", value) ∉ members := by
  have hmessage : hostile.message = .ok "\"\x7d\n\x7b\"level\": \"CRITICAL\\" :=
    message_of_template rfl rfl rfl rfl rfl
  have hreported : hostile.reported = .ok (some "ValueError: \n") := rfl
  have hvalues : ∀ name ∈ Str.whole "levelname" :: .whole "name" :: shownAttributes,
      ∀ value, hostile.attribute? name = some value → value.Single := by
    have hseven : (-7 : Int).natAbs < 10 ^ Numeral.digitLimit :=
      Nat.lt_of_lt_of_le (by decide : 7 < 10 ^ 1) (Nat.pow_le_pow_right (by decide) (by decide))
    have hall : ∀ pair ∈ hostile.attributes, pair.2.Single := by
      simp only [hostile, List.forall_mem_cons]
      exact ⟨.str _, .int hseven, .null, .str _, nofun⟩
    exact fun name _ value hvalue => hall _ (mem_of_attribute? hvalue)
  have hnone : hostile.attribute? "exc_info" = none := rfl
  obtain ⟨record, line, members, hrecord, hline, hone, hread, hnodup, htells⟩ :=
    line_exact hostile "noon" _ hmessage (by rw [hnone]; nofun) hvalues
  refine ⟨record, line, members, hrecord, hline, hone, hread, hnodup, (htells _ _).mpr .level,
    (htells _ _).mpr (.carried (by decide) rfl nofun), (htells _ _).mpr (.exception hreported), ?_⟩
  intro value hseed
  generalize hname : Str.whole "seed" = name at hseed
  cases (htells _ _).mp hseed with
  | carried shown => exact absurd (hname ▸ shown) (by decide)
  | timestamp => exact absurd hname (by decide)
  | level => exact absurd hname (by decide)
  | logger => exact absurd hname (by decide)
  | message => exact absurd hname (by decide)
  | exception => exact absurd hname (by decide)

/-- A text in the place of what makes the message. -/
def speechless : Draft where
  level := .info
  logger := "gateway"
  template := .str "m"
  attributes := [("getMessage", .str "n")]

/-- A number in the place of an exception. -/
def misreporting : Draft where
  level := .info
  logger := "gateway"
  template := .str "m"
  attributes := [("exc_info", .int 1)]

/-- A number with one digit more than is converted. -/
def overlong : Draft where
  level := .info
  logger := "gateway"
  template := .str "m"
  attributes := [("sequence", .int (10 ^ Numeral.digitLimit))]

/-- The same number in the place of the template. -/
def immense : Draft where
  level := .info
  logger := "gateway"
  template := .str "m"
  attributes := [("msg", .int (10 ^ Numeral.digitLimit))]

/-- The number of `overlong` and `immense` is too long. -/
theorem digitLimit_exceeded : 10 ^ Numeral.digitLimit ≤ (10 ^ Numeral.digitLimit : Int).natAbs := by
  have hten : (10 : Int).natAbs = 10 := rfl
  rw [Int.natAbs_pow, hten]

/-- None of them has a line, though each has a text for its message and one attribute, a text or a whole
number: three have no record, and the record of the other has no line at any time. -/
theorem unwritten : speechless.record = .error .argument ∧ misreporting.record = .error .argument ∧
    immense.record = .error .tooLong ∧ (∃ record, overlong.record = .ok record) ∧
    ∀ record, overlong.record = .ok record → ∀ time, record.jsonLine? time = none := by
  have htemplate : (Json.int (10 ^ Numeral.digitLimit)).shown? = none :=
    if_neg (Json.not_isConvertible_of_long digitLimit_exceeded)
  have himmense : immense.message = .error .tooLong := by
    show (Template.orTooLong (Json.int (10 ^ Numeral.digitLimit)).shown? >>= _) = _
    rw [htemplate]
    rfl
  refine ⟨rfl, rfl, ?_, ⟨_, rfl⟩, ?_⟩
  · rw [record, himmense]
    rfl
  intro record hrecord time
  have hmessage : overlong.message = .ok "m" := message_of_template rfl rfl rfl rfl rfl
  have hreported : overlong.reported = .ok none := rfl
  rw [record_eq_ok hmessage hreported] at hrecord
  cases hrecord
  have hmem : (.whole "sequence", .int (10 ^ Numeral.digitLimit)) ∈ overlong.body "m" none := by
    have hshown : (.whole "sequence", .int (10 ^ Numeral.digitLimit)) ∈ overlong.shown :=
      mem_shown_iff.mpr ⟨by decide, rfl, nofun⟩
    simp [body, hshown]
  exact jsonLine?_of_overlong hmem digitLimit_exceeded time

end Draft

end Log

end Paygate
