import Paygate.Log.Record
import Paygate.Log.Template

/-!
# Drafts of log records

A draft has a template and its arguments where a record has a message. Attributes may replace parts of
the draft: `msg` its template, `args` its arguments and `exc_info` the exception that it reports. An
attribute `getMessage` stands in the place of what makes the message, and then nothing makes it.
-/

namespace Paygate.Log

structure Draft where
  level : Level
  logger : Str
  template : Json
  arguments : List Json := []
  attributes : List (Str × Json) := []
  exception : Option Str := none

namespace Draft

def attribute? (draft : Draft) (name : Str) : Option Json :=
  draft.attributes.reverse.lookup name

/-- A template that is no text is shown as one, if its numbers are converted. -/
def message (draft : Draft) : Except Template.Error Str :=
  match draft.attribute? "getMessage" with
  | some _ => .error .argument
  | none => do
    let template ← Template.orTooLong ((draft.attribute? "msg").getD draft.template).shown?
    match draft.attribute? "args" with
    | some value => Template.formatWith template value
    | none => Template.format template draft.arguments

/-- An attribute cannot be an exception; an empty one says that there is none. -/
def reported (draft : Draft) : Except Template.Error (Option Str) :=
  match draft.attribute? "exc_info" with
  | none => .ok draft.exception
  | some value => if value.isFalsy then .ok none else .error .argument

def record (draft : Draft) : Except Template.Error Record := do
  let message ← draft.message
  let exception ← draft.reported
  .ok {
    level := draft.level, logger := draft.logger, message, exception
    attributes := draft.attributes.map fun (name, value) => (name, .json value) }

end Draft

end Paygate.Log
