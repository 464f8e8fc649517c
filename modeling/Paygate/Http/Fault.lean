import Paygate.Charset.Piece
import Paygate.Http.Parameters
import Paygate.Text.Quoted
import Paygate.Url.Error
import Paygate.Url.Idna

/-!
# Faults of an exchange

The ways in which an exchange with a server breaks off that are no answer and no failure of the
network: an address that is no URL, a broken text where one is to be sent, a host without a form for
readers, a header that is not ASCII or cannot be taken apart, and a body that its charset has no text
for or that is nested too deep.
-/

namespace Paygate.Http

inductive Fault where
  | invalidUrl (cause : Url.Error)
  /-- Half of a surrogate pair is to be encoded. -/
  | brokenText
  | hostName (cause : Idna.Error)
  /-- A text outside ASCII stands where only ASCII is sent. -/
  | notAscii (text : List Char)
  | parameters (cause : ParameterError)
  | charset (cause : Charset.Fault)
  /-- The values of a body stand too deep inside each other. -/
  | tooDeep
deriving DecidableEq, Repr

namespace Fault

/-- The first run of characters outside ASCII: its position and its characters. -/
def foreignRun (text : List Char) : Nat × List Char :=
  let start := text.takeWhile (·.toNat < 128)
  (start.length, (text.drop start.length).takeWhile (128 ≤ ·.toNat))

def notAsciiMessage (text : List Char) : String :=
  let (position, run) := foreignRun text
  "'ascii' codec can't encode " ++
    (match run with
      | [c] =>
        "character '" ++ String.ofList (Text.codeEscape c.toNat) ++ "' in position " ++
          toString position
      | run =>
        "characters in position " ++ toString position ++ "-" ++
          toString (position + run.length - 1)) ++
    ": ordinal not in range(128)"

def message : Fault → String
  | invalidUrl cause => cause.message
  | brokenText => "half of a surrogate pair cannot be encoded"
  | hostName cause => cause.message
  | notAscii text => notAsciiMessage text
  | parameters cause => cause.message
  | charset cause => cause.message
  | tooDeep => "values stand too deep inside each other"

end Fault

end Paygate.Http
