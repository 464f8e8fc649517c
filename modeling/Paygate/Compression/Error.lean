/-!
# Damaged compressed data

What may be wrong with compressed data, each with its wording. Data that merely stops early is not
damaged.
-/

namespace Paygate.Compression

inductive Error where
  | header
  | method
  | flags
  | headerCheck
  | windowSize
  | dictionary
  | blockType
  | storedLengths
  | tooManySymbols
  | codeLengths
  | lengthRepeat
  | noEndOfBlock
  | literalCodes
  | distanceCodes
  | literalCode
  | distanceCode
  | distanceTooFar
  | dataCheck
  | dataLength
deriving DecidableEq, Repr

namespace Error

def reason : Error → String
  | header => "incorrect header check"
  | method => "unknown compression method"
  | flags => "unknown header flags set"
  | headerCheck => "header crc mismatch"
  | windowSize => "invalid window size"
  | dictionary => "need dictionary"
  | blockType => "invalid block type"
  | storedLengths => "invalid stored block lengths"
  | tooManySymbols => "too many length or distance symbols"
  | codeLengths => "invalid code lengths set"
  | lengthRepeat => "invalid bit length repeat"
  | noEndOfBlock => "invalid code -- missing end-of-block"
  | literalCodes => "invalid literal/lengths set"
  | distanceCodes => "invalid distances set"
  | literalCode => "invalid literal/length code"
  | distanceCode => "invalid distance code"
  | distanceTooFar => "invalid distance too far back"
  | dataCheck => "incorrect data check"
  | dataLength => "incorrect length check"

def message (e : Error) : String := "Error -3 while decompressing data: " ++ e.reason

end Error

/-- A step of reading compressed data: it fails, the data stop before its end, or it gives a value
and what is left. -/
inductive Step (ρ α : Type) where
  | error (cause : Error)
  | ended
  | done (value : α) (rest : ρ)
deriving Repr

namespace Step

variable {ρ α β : Type}

def andThen (step : Step ρ α) (next : α → ρ → Step ρ β) : Step ρ β :=
  match step with
  | error cause => error cause
  | ended => ended
  | done value rest => next value rest

/-- Go on if a condition holds. -/
def check (condition : Bool) (cause : Error) (next : Step ρ α) : Step ρ α :=
  if condition then next else error cause

end Step

end Paygate.Compression
