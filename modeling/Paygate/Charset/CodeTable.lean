/-!
# Tables of characters

A table of two-byte codes is a list of runs: the first code of a run and its characters. A table of
single bytes is the text of the characters in order. U+FFFD stands where there is no character.
-/

namespace Paygate.Charset

/-- The character that stands for what is missing. -/
def replacement : Char := Char.ofNat 0xFFFD

def present (c : Char) : Option Char := if c = replacement then none else some c

/-- No run is longer. -/
def runLimit : Nat := 94

abbrev CodeTable := List (Nat × String)

namespace CodeTable

/-- The character of a code in a run that starts at `start`. -/
def inRun? (code start : Nat) (run : String) : Option Char :=
  if start ≤ code && code < start + runLimit then run.toList[code - start]? else none

def find? (table : CodeTable) (code : Nat) : Option Char :=
  (table.findSome? fun (start, run) => inRun? code start run).bind present

end CodeTable

/-- The control characters 128 to 159. -/
def controls : String := String.ofList ((List.range 32).map fun n => Char.ofNat (128 + n))

/-- A character by its place in a table of single bytes. -/
def at? (table : String) (place : Nat) : Option Char := (table.toList[place]?).bind present

end Paygate.Charset
