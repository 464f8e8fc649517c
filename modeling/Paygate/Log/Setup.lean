import Paygate.Log.Line

/-!
# Set-up of logging

The level from which on records are written, and the format of their lines.
-/

namespace Paygate.Log

namespace Level

/-- An upper-case letter for each lower-case letter of a level's name, the dotless i and the long s
included. -/
def upperChar (c : Char) : Char :=
  if c.toNat = 0x131 then 'I' else if c.toNat = 0x17F then 'S' else c.toUpper

/-- Why a name that is taken for a level has none: it stands for another setting of logging. -/
inductive Misnomer where
  | text
  | table
deriving DecidableEq, Repr

/-- The level of a name in any case. Unknown names stand for `info`. -/
def ofName (name : String) : Except Misnomer Level :=
  match String.ofList (name.toList.map upperChar) with
  | "DEBUG" => .ok debug
  | "INFO" => .ok info
  | "WARN" => .ok warning
  | "WARNING" => .ok warning
  | "ERROR" => .ok error
  | "CRITICAL" => .ok critical
  | "FATAL" => .ok critical
  | "NOTSET" => .ok ⟨0⟩
  | "BASIC_FORMAT" => .error .text
  | "_STYLES" => .error .table
  | _ => .ok info

/-- The levels that have a name of their own. -/
def standard : List Level := [debug, info, warning, error, critical]

end Level

structure Setup where
  level : Level
  format : Format
deriving DecidableEq, Repr

namespace Setup

/-- The set-up that two names ask for. -/
def ofNames (level format : String) : Except Level.Misnomer Setup :=
  (Level.ofName level).map fun level => ⟨level, .ofName format⟩

/-- Whether records of a level are written. -/
def enables (setup : Setup) (level : Level) : Bool := setup.level.number ≤ level.number

end Setup

end Paygate.Log
