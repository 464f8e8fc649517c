import Paygate.Json.Basic
import Paygate.Payment.Field

/-!
# Log records

A record has a level, the name of its logger, a message, and attributes. `Record.entries` is what a
record shows: level, logger and message, those of the attributes in `shownAttributes` that are not
null, in that order, and the exception. A file among the attributes has no JSON form, and then the
record has no `Record.members?`.
-/

namespace Paygate.Log

structure Level where
  number : Int
deriving DecidableEq, Repr

namespace Level

def debug : Level := ⟨10⟩
def info : Level := ⟨20⟩
def warning : Level := ⟨30⟩
def error : Level := ⟨40⟩
def critical : Level := ⟨50⟩

def name (level : Level) : String :=
  if level.number = 0 then "NOTSET"
  else if level = debug then "DEBUG"
  else if level = info then "INFO"
  else if level = warning then "WARNING"
  else if level = error then "ERROR"
  else if level = critical then "CRITICAL"
  else "Level " ++ toString level.number

end Level

/-- The value of an attribute. -/
inductive Value where
  | json (value : Json)
  | upload

namespace Value

def text (s : Str) : Value := .json (.str s)

def ofField : Field → Value
  | .text s => text s
  | .upload => upload

def isNull : Value → Bool
  | json .null => true
  | _ => false

def json? : Value → Option Json
  | json value => some value
  | upload => none

end Value

structure Record where
  level : Level
  logger : Str
  message : Str
  attributes : List (Str × Value) := []
  /-- The type and text of an exception that the record reports. -/
  exception : Option Str := none

/-- The attributes that a formatted record shows. -/
def shownAttributes : List Str :=
  ["error_code", "path", "account_id", "destination", "payment_type", "sequence"]

namespace Record

/-- The value of an attribute, a later one before an earlier one of the same name. -/
def attribute? (record : Record) (name : Str) : Option Value :=
  record.attributes.reverse.lookup name

/-- The level's name, unless an attribute replaces it. -/
def levelName (record : Record) : Value :=
  (record.attribute? "levelname").getD (.text record.level.name)

/-- The logger's name, unless an attribute replaces it. -/
def loggerName (record : Record) : Value :=
  (record.attribute? "name").getD (.text record.logger)

def shown (record : Record) : List (Str × Value) :=
  shownAttributes.filterMap fun name =>
    match record.attribute? name with
    | some value => if value.isNull then none else some (name, value)
    | none => none

def entries (record : Record) : List (Str × Value) :=
  let head : List (Str × Value) :=
    [("level", record.levelName), ("logger", record.loggerName), ("message", .text record.message)]
  let reported : Option (Str × Value) := record.exception.map fun e => ("exception", .text e)
  head ++ record.shown ++ reported.toList

/-- The names and JSON values of a record, if all its values have one. -/
def members? (record : Record) : Option (List (Str × Json)) :=
  record.entries.mapM fun (name, value) => value.json?.map (name, ·)

end Record

end Paygate.Log
