import Paygate.Json.Writer
import Paygate.Log.Record
import Paygate.Log.Shown

/-!
# Log lines

A record is written on one line as a JSON object that starts with its time, or in the plain format
as its time, level, logger and message with the exception on the lines that follow.
-/

namespace Paygate.Log

inductive Format where
  | json
  | plain
deriving DecidableEq, Repr

namespace Format

/-- Only the exact word selects JSON. -/
def ofName (name : String) : Format := if name = "json" then json else plain

end Format

/-- The text of an attribute in the plain format, if its numbers are converted. -/
def Value.plain? : Value → Option Str
  | .json value => value.shown?
  | .upload => some ""

/-- An exception by its type and what it says. -/
def exceptionText (type : String) (text : Str) : Str :=
  if text.isEmpty then type else type ++ ": " ++ text

/-- A record as a JSON object on one line, if all that it shows has a written form. -/
def Record.jsonLine? (record : Record) (time : String) : Option Str :=
  record.members?.bind fun members =>
    let line : Json := .obj (("timestamp", .str time) :: members)
    if line.isConvertible then some (Json.render Json.spaced line) else none

/-- A text on a line of its own behind others. -/
def onNewLine (text added : Str) : Str :=
  (if text.points.getLast? = some (.char '\n') then text else text ++ "\n") ++ added

/-- A text that an attribute adds to a record in the plain format. An attribute that is empty adds
none; one that is no text cannot be added. -/
def Record.added? (record : Record) (name : Str) : Option (Option Str) :=
  match record.attribute? name with
  | none => some none
  | some .upload => none
  | some (.json value) =>
    if value.isFalsy then some none
    else
      match value with
      | .str s => some (some s)
      | _ => none

/-- A record in the plain format. The exception starts on a new line, and so does a stack. -/
def Record.plainLine? (record : Record) (time : String) : Option Str := do
  let level ← record.levelName.plain?
  let logger ← record.loggerName.plain?
  let line := time ++ " " ++ level ++ " " ++ logger ++ ": " ++ record.message
  let text ← record.added? "exc_text"
  let stack ← record.added? "stack_info"
  let line := (text.or record.exception).elim line (onNewLine line)
  pure (stack.elim line (onNewLine line))

def Record.line? (record : Record) (format : Format) (time : String) : Option Str :=
  match format with
  | .json => record.jsonLine? time
  | .plain => record.plainLine? time

end Paygate.Log
