import Paygate.Settings.EnvFile
import Paygate.Settings.Numeral
import Paygate.Text.LowerCase

/-!
# Settings

The settings of the gateway come from the environment and, for what the environment leaves open,
from an environment file. Names do not depend on case. The environment may hold any other names, the
file may not give them values. Either all settings are well formed or every fault is reported, in
the order of names.
-/

namespace Paygate

structure Settings where
  passphrase : String := "Test SDF Network ; September 2015"
  /-- The address of the ledger without slashes at its end. -/
  horizonUrl : String := "https://horizon-testnet.stellar.org"
  horizonTimeout : Binary64 := .ofDecimal false 30 0
  baseFee : Int := 100
  federationTimeout : Binary64 := .ofDecimal false 10 0
  logLevel : String := "INFO"
  logFormat : String := "json"
deriving DecidableEq, Repr

namespace Settings

/-- What is wrong with a setting. -/
inductive Problem where
  | notInteger
  | integerTooLong
  | notDecimal
  | feeNotPositive
  | unknownName
deriving DecidableEq, Repr

/-- The words for a problem that the gateway itself finds. -/
def Problem.message? : Problem → Option String
  | feeNotPositive => some "Value error, base_fee must be positive"
  | _ => none

structure FieldError where
  name : String
  problem : Problem
deriving DecidableEq, Repr

/-- Where settings come from. -/
structure Source where
  environment : Entries String := []
  /-- The text of the environment file, if there is one. -/
  file : Option String := none

def lowerName (name : String) : String := String.ofList (Text.lower name.toList)

def names : List String :=
  ["network_passphrase", "horizon_url", "horizon_timeout_seconds", "base_fee",
   "federation_timeout_seconds", "log_level", "log_format"]

namespace Source

def fileEntries (source : Source) : Entries (Option String) :=
  match source.file with
  | none => []
  | some text =>
    Entries.ofPairs ((EnvFile.read source.environment text).map fun (name, value) =>
      (lowerName name, value))

def environmentEntries (source : Source) : Entries String :=
  Entries.ofPairs (source.environment.map fun (name, value) => (lowerName name, value))

/-- The text of a setting. -/
def text? (source : Source) (name : String) : Option String :=
  match source.environmentEntries.lookup name with
  | some value => some value
  | none => (source.fileEntries.lookup name).join

/-- The names that the file gives a value and that are no settings. -/
def unknownNames (source : Source) : List String :=
  source.fileEntries.filterMap fun (name, value) =>
    if (value.getD "").isEmpty || names.contains name then none else some name

end Source

/-- A setting, or what is wrong with it. -/
abbrev Check (α : Type) := Except Problem α

def readFee (text : String) : Check Int :=
  match readInteger text with
  | .error .malformed => .error .notInteger
  | .error .tooLong => .error .integerTooLong
  | .ok fee => if fee ≤ 0 then .error .feeNotPositive else .ok fee

def readSeconds (text : String) : Check Binary64 :=
  match readDecimal? text with
  | some x => .ok x
  | none => .error .notDecimal

/-- The value of a setting, or the default if nothing sets it. -/
def Source.value {α : Type} (source : Source) (name : String) (read : String → Check α)
    (default : α) : Check α :=
  match source.text? name with
  | some text => read text
  | none => .ok default

def faultOf {α : Type} (name : String) : Check α → List FieldError
  | .ok _ => []
  | .error problem => [⟨name, problem⟩]

def trimUrl (url : String) : String := String.ofList (Text.trimEnd '/' url.toList)

/-- The settings that a source gives. -/
def load (source : Source) : Except (List FieldError) Settings :=
  let defaults : Settings := {}
  let string (name default : String) := (source.text? name).getD default
  let horizonTimeout := source.value "horizon_timeout_seconds" readSeconds defaults.horizonTimeout
  let baseFee := source.value "base_fee" readFee defaults.baseFee
  let federationTimeout :=
    source.value "federation_timeout_seconds" readSeconds defaults.federationTimeout
  match horizonTimeout, baseFee, federationTimeout, source.unknownNames with
  | .ok horizonTimeout, .ok baseFee, .ok federationTimeout, [] =>
    .ok {
      passphrase := string "network_passphrase" defaults.passphrase
      horizonUrl := trimUrl (string "horizon_url" defaults.horizonUrl)
      horizonTimeout, baseFee, federationTimeout
      logLevel := string "log_level" defaults.logLevel
      logFormat := string "log_format" defaults.logFormat }
  | _, _, _, unknown =>
    let faults := faultOf "horizon_timeout_seconds" horizonTimeout ++ faultOf "base_fee" baseFee ++
      faultOf "federation_timeout_seconds" federationTimeout ++
      unknown.map fun name => ⟨name, .unknownName⟩
    .error (faults.mergeSort fun a b => a.name ≤ b.name)

/-- A source with the settings that were read from it first. -/
structure Store where
  source : Source
  cached : Option Settings := none

namespace Store

/-- The settings as they were read first. A failure is not kept. -/
def get (store : Store) : Except (List FieldError) Settings × Store :=
  match store.cached with
  | some settings => (.ok settings, store)
  | none =>
    match load store.source with
    | .ok settings => (.ok settings, { store with cached := some settings })
    | .error faults => (.error faults, store)

def clear (store : Store) : Store := { store with cached := none }

/-- Set a variable of the environment. -/
def setVariable (store : Store) (name value : String) : Store :=
  { store with source := { store.source with
      environment := Entries.set name value store.source.environment } }

end Store

end Settings

end Paygate
