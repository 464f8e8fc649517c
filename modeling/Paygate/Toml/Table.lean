import Paygate.Entries
import Paygate.Text.Str

/-!
# Tables of a TOML document

A document is a table that grows statement by statement. Next to the data it keeps which tables were
opened by a header or by a dotted name (`declared`), which names hold an inline value, in which
nothing may be changed any more (`sealed_`), and which dotted names become declared at the next
header (`pending`).
-/

namespace Paygate.Toml

inductive Error where
  | invalid
  /-- A whole number has more digits than are converted. -/
  | numeralTooLong
  /-- Arrays and inline tables stand too deep inside each other. -/
  | tooDeep
deriving DecidableEq, Repr

/-- `plain` is a number, a date, a time or a truth value. `tables` is a list that headers with double
brackets append to, last table first. -/
inductive Value where
  | text (s : Str)
  | plain
  | array (items : List Value)
  | table (entries : List (Str × Value))
  | tables (latest : List (Str × Value)) (earlier : List (List (Str × Value)))

abbrev Table := Entries Value Str

abbrev Path := List Str

namespace Value

/-- Inline values in which nothing may be changed. -/
def isContainer : Value → Bool
  | array _ => true
  | table _ => true
  | _ => false

end Value

namespace Table

/-- Change the table at a path. Missing tables on the way are made; of a list of tables the last one
counts; any other value in the way is an error. -/
def within : Path → (Table → Option Table) → Table → Option Table
  | [], change, entries => change entries
  | name :: path, change, entries =>
    match entries.lookup name with
    | none => (within path change []).map fun inner => Entries.set name (.table inner) entries
    | some (.table inner) =>
      (within path change inner).map fun inner => Entries.set name (.table inner) entries
    | some (.tables latest earlier) =>
      (within path change latest).map fun inner => Entries.set name (.tables inner earlier) entries
    | some _ => none

/-- Add a new name. -/
def insertNew (name : Str) (value : Value) (entries : Table) : Option Table :=
  match entries.lookup name with
  | some _ => none
  | none => some (entries ++ [(name, value)])

/-- Append an empty table to the list of tables under a name. -/
def appendTable (name : Str) (entries : Table) : Option Table :=
  match entries.lookup name with
  | none => some (entries ++ [(name, .tables [] [])])
  | some (.tables latest earlier) => some (Entries.set name (.tables [] (latest :: earlier)) entries)
  | some _ => none

end Table

structure Document where
  entries : Table := []
  declared : List Path := []
  sealed_ : List Path := []
  pending : List Path := []
  /-- The path of the last header. -/
  header : Path := []

namespace Document

def isDeclared (doc : Document) (path : Path) : Bool := doc.declared.contains path

/-- Whether a path is, or lies inside, an inline value. -/
def isSealed (doc : Document) (path : Path) : Bool :=
  doc.sealed_.any fun root => !root.isEmpty && root.isPrefixOf path

def ofOption (entries : Option Table) (doc : Document) : Except Error Document :=
  match entries with
  | some entries => .ok { doc with entries }
  | none => .error .invalid

/-- Dotted names count as declared from the next header on. -/
def settle (doc : Document) : Document :=
  { doc with declared := doc.pending ++ doc.declared, pending := [] }

/-- A header with single brackets. -/
def openTable (path : Path) (doc : Document) : Except Error Document :=
  if doc.isDeclared path || doc.isSealed path then .error .invalid
  else
    ofOption (doc.entries.within path some)
      { doc with declared := path :: doc.declared, header := path }

/-- A header with double brackets. What was declared below the path belonged to the table before. -/
def openListTable (path : Path) (doc : Document) : Except Error Document :=
  if doc.isSealed path then .error .invalid
  else
    let keep (old : List Path) := old.filter fun p => !path.isPrefixOf p
    let doc := { doc with
      declared := path :: keep doc.declared, sealed_ := keep doc.sealed_, header := path }
    match path.getLast? with
    | none => .error .invalid
    | some name => ofOption (doc.entries.within path.dropLast (Table.appendTable name)) doc

/-- The proper, nonempty beginnings of a dotted name, below the header. -/
def stems (header : Path) (key : Path) : List Path :=
  (List.range key.length).filterMap fun i => if i = 0 then none else some (header ++ key.take i)

/-- A name with its value, below the last header. -/
def assign (key : Path) (value : Value) (doc : Document) : Except Error Document :=
  let stems := stems doc.header key
  let full := doc.header ++ key
  match full.getLast? with
  | none => .error .invalid
  | some name =>
    if stems.any doc.isDeclared || doc.isSealed full.dropLast then .error .invalid
    else
      let doc := { doc with
        pending := stems ++ doc.pending
        sealed_ := if value.isContainer then full :: doc.sealed_ else doc.sealed_ }
      ofOption (doc.entries.within full.dropLast (Table.insertNew name value)) doc

end Document

end Paygate.Toml
