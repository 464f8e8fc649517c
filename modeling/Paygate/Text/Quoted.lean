import Paygate.Bytes.Hex
import Paygate.Text.Printable
import Paygate.Text.Str

/-!
# Quoted text

A text as it is shown inside a message: between single quotes, or between double quotes if it holds
a single quote and no double quote. The backslash, the quote in use, line feed, carriage return and
tab are escaped by a backslash; any other code point that does not print, and so every half of a
surrogate pair, is written in hexadecimal. So a quoted text is whole.
-/

namespace Paygate.Text

/-- The quote that surrounds a text. -/
def quoteFor (points : List Point) : Char :=
  if points.contains '\'' && !points.contains '"' then '"' else '\''

/-- A code point in the shortest of the forms of two, four and eight hexadecimal digits. -/
def codeEscape (n : Nat) : List Char :=
  if n < 256 then '\\' :: 'x' :: Hex.padded 2 n
  else if n < 65536 then '\\' :: 'u' :: Hex.padded 4 n
  else '\\' :: 'U' :: Hex.padded 8 n

def quoteChar (quote c : Char) : List Char :=
  if c = quote || c = '\\' then ['\\', c]
  else if c = '\n' then ['\\', 'n']
  else if c = '\r' then ['\\', 'r']
  else if c = '\t' then ['\\', 't']
  else if c.toNat < 127 then (if c.toNat < 32 then codeEscape c.toNat else [c])
  else if printable.contains c then [c]
  else codeEscape c.toNat

def quotePoint (quote : Char) : Point → List Char
  | .char c => quoteChar quote c
  | .half h => codeEscape h.code

def quoted (s : Str) : String :=
  let quote := quoteFor s.points
  String.ofList (quote :: s.points.flatMap (quotePoint quote) ++ [quote])

end Paygate.Text
