import Paygate.Text.Integer
import Paygate.Text.LowerCase
import Paygate.Url.Error
import Paygate.Url.Idna
import Paygate.Url.IpAddress
import Paygate.Url.Percent

/-!
# Request addresses

A URL is read into its components and brought into a normal form: scheme and host in lower case,
default ports left out, `.` and `..` resolved in the path, and every character that may not
stand in a component percent-encoded, with existing escapes kept. Texts with control characters,
overlong texts, bad ports and bad addresses are no URLs. `join` resolves a reference against the URL
at which it stands.
-/

namespace Paygate

structure Url where
  scheme : String := ""
  userinfo : String := ""
  host : String := ""
  portNumber : Option Int := none
  path : String := ""
  query : Option String := none
  fragment : Option String := none
deriving DecidableEq, Repr

namespace Url

/-- The longest URL, and the longest component, in characters. -/
def lengthLimit : Nat := 65536

def isControl (c : Char) : Bool := c.toNat < 32 || c.toNat = 127

/-! ## Safe characters of the components -/

def isPrintable (c : Char) : Bool := 32 ≤ c.toNat && c.toNat < 127

def fragmentSafe (c : Char) : Bool :=
  isPrintable c && !(c = ' ' || c = '"' || c = '<' || c = '>' || c = '\x60')

def querySafe (c : Char) : Bool :=
  isPrintable c && !(c = ' ' || c = '"' || c = '#' || c = '<' || c = '>')

def pathSafe (c : Char) : Bool :=
  querySafe c && !(c = '?' || c = '\x60' || c = '\x7b' || c = '\x7d')

def userinfoSafe (c : Char) : Bool :=
  pathSafe c && !(c = '/' || c = ';' || c = '=' || c = '@' || c = '[' || c = '\\' || c = ']' ||
    c = '^' || c = '|')

def hostSafe (c : Char) : Bool :=
  Percent.isUnreserved c || "!$&'()*+,;=\"\x60\x7b\x7d%|\\".toList.contains c

/-! ## Components of a text -/

/-- The components as they stand in a text. -/
structure Parts where
  scheme : List Char := []
  authority : List Char := []
  path : List Char := []
  query : Option (List Char) := none
  fragment : Option (List Char) := none
  /-- A host that takes the place of the one in the authority. -/
  host : Option (List Char) := none

def isSchemeChar (c : Char) : Bool := c.isAlphanum || c = '+' || c = '.' || c = '-'

/-- The scheme before a colon, possibly empty, and the rest of the text. -/
def splitScheme (cs : List Char) : List Char × List Char :=
  let run := cs.takeWhile isSchemeChar
  match cs.drop run.length with
  | ':' :: rest => if (run.headD 'a').isAlpha then (run, rest) else ([], cs)
  | _ => ([], cs)

def splitAuthority (cs : List Char) : List Char × List Char :=
  match cs with
  | '/' :: '/' :: rest => rest.span fun c => !(c = '/' || c = '?' || c = '#')
  | cs => ([], cs)

def Parts.ofChars (cs : List Char) : Parts :=
  let (scheme, rest) := splitScheme cs
  let (authority, rest) := splitAuthority rest
  let (path, rest) := rest.span fun c => !(c = '?' || c = '#')
  let (query, rest) := match rest with
    | '?' :: rest => (some (rest.takeWhile (· ≠ '#')), rest.dropWhile (· ≠ '#'))
    | rest => (none, rest)
  let fragment := match rest with
    | '#' :: rest => some rest
    | _ => none
  { scheme, authority, path, query, fragment }

/-- The parts before and after the last `@`. -/
def splitUserinfo (cs : List Char) : List Char × List Char :=
  if cs.contains '@' then
    let host := (cs.reverse.takeWhile (· ≠ '@')).reverse
    (cs.take (cs.length - host.length - 1), host)
  else ([], cs)

/-- A bracketed address up to the last bracket, or the text up to a colon or `@`; and what
stands after the colon. -/
def splitHost (cs : List Char) : List Char × List Char :=
  let plain := cs.span fun c => !(c = ':' || c = '@')
  let (host, rest) :=
    if cs.head? = some '[' && cs.contains ']' then
      let after := (cs.reverse.takeWhile (· ≠ ']')).reverse
      (cs.take (cs.length - after.length), after)
    else plain
  match rest with
  | ':' :: digits => (host, digits)
  | digits => (host, digits)

/-! ## Normal forms of the components -/

/-- Four runs of ASCII digits between dots. -/
def looksLikeV4 (host : List Char) : Bool :=
  let parts := host.splitOn '.'
  parts.length == 4 && parts.all Numeral.isRun

/-- The normal form of a host. What looks like an IPv4 address must be one, a bracketed text must be
an IPv6 address, which is kept without its brackets, and a host outside ASCII must have an ASCII
form. -/
def normalHost (host : List Char) : Except Error (List Char) :=
  if host.isEmpty then .ok []
  else if looksLikeV4 host then
    if IpAddress.isV4 host then .ok host else .error (.address4 (String.ofList host))
  else if host.head? = some '[' && host.getLast? = some ']' then
    let inner := (host.drop 1).dropLast
    if IpAddress.isV6 inner then .ok inner else .error (.address6 (String.ofList host))
  else if host.all (·.toNat < 128) then
    .ok (Percent.encode hostSafe (host.map Char.toLower))
  else (Idna.encode (Text.lower host)).mapError fun _ => .hostName (String.ofList host)

/-- The number behind a host that a scheme need not write. -/
def defaultPort? (scheme : List Char) : Option Int :=
  match String.ofList scheme with
  | "ftp" => some 21
  | "http" => some 80
  | "https" => some 443
  | "ws" => some 80
  | "wss" => some 443
  | _ => none

/-- The number that a text writes, none if it is empty or the scheme's own. The scheme is compared as
it is written. -/
def normalPort (digits scheme : List Char) : Except Error (Option Int) :=
  if digits.isEmpty then .ok none
  else
    match Text.readInteger? digits with
    | some n => .ok (if defaultPort? scheme = some n then none else some n)
    | none => .error (.portNumber (String.ofList digits))

/-- Drop `.` segments, and `..` segments together with the segment before them. -/
def resolveSegments (segments : List (List Char)) : List (List Char) :=
  let step (done : List (List Char)) (segment : List Char) : List (List Char) :=
    if segment = ['.'] then done
    else if segment = ['.', '.'] then (if done = [] ∨ done = [[]] then done else done.drop 1)
    else segment :: done
  (segments.foldl step []).reverse

def normalPath (path : List Char) : List Char :=
  List.intercalate ['/'] (resolveSegments (path.splitOn '/'))

/-- Why a path may not stand where it stands: after an authority it starts with a slash, and on its
own it starts neither with two slashes nor with a colon. -/
def pathError? (hasScheme hasAuthority : Bool) (path : List Char) : Option Error :=
  if hasAuthority then
    if path.isEmpty || path.head? = some '/' then none else some .pathWithoutSlash
  else if hasScheme then none
  else if path.take 2 = ['/', '/'] then some .pathTwoSlashes
  else if path.head? = some ':' then some .pathColon
  else none

/-- The URL of components as they stand. -/
def ofParts (parts : Parts) : Except Error Url := do
  let (userinfo, rest) := splitUserinfo parts.authority
  let (written, digits) := splitHost rest
  let scheme := parts.scheme.map Char.toLower
  let userinfo := Percent.encode userinfoSafe userinfo
  let host ← normalHost (parts.host.getD written)
  let portNumber ← normalPort digits parts.scheme
  let hasScheme := !scheme.isEmpty
  let hasAuthority := !userinfo.isEmpty || !host.isEmpty || portNumber.isSome
  match pathError? hasScheme hasAuthority parts.path with
  | some e => throw e
  | none =>
    let path := if hasScheme || hasAuthority then normalPath parts.path else parts.path
    pure {
      scheme := String.ofList scheme, userinfo := String.ofList userinfo
      host := String.ofList host, portNumber
      path := String.ofList (Percent.encode pathSafe path)
      query := parts.query.map fun q => String.ofList (Percent.encode querySafe q)
      fragment := parts.fragment.map fun f => String.ofList (Percent.encode fragmentSafe f) }

/-- The URL of a text. -/
def parse (text : String) : Except Error Url :=
  let cs := text.toList
  if cs.length > lengthLimit then .error .tooLong
  else
    match cs.findIdx? isControl with
    | some i => .error (.control (cs.getD i ' ') i)
    | none => ofParts (Parts.ofChars cs)

/-! ## Texts of a URL -/

/-- Host and the number behind it. An address with colons stands in brackets. -/
def location (url : Url) : String :=
  (if url.host.toList.contains ':' then "[" ++ url.host ++ "]" else url.host) ++
    (match url.portNumber with
      | some n => ":" ++ toString n
      | none => "")

/-- User information, host and the number behind it. -/
def authority (url : Url) : String :=
  (if url.userinfo.isEmpty then "" else url.userinfo ++ "@") ++ url.location

def toText (url : Url) : String :=
  let authority := url.authority
  (if url.scheme.isEmpty then "" else url.scheme ++ ":") ++
    (if authority.isEmpty then "" else "//" ++ authority) ++ url.path ++
    (match url.query with
      | some q => "?" ++ q
      | none => "") ++
    (match url.fragment with
      | some f => "#" ++ f
      | none => "")

def parts (url : Url) : Parts where
  scheme := url.scheme.toList
  authority := url.authority.toList
  path := url.path.toList
  query := url.query.map String.toList
  fragment := url.fragment.map String.toList

/-- The first component that is too long. -/
def Parts.tooLong? (parts : Parts) : Option Part :=
  let long (part : List Char) : Bool := decide (part.length > lengthLimit)
  if long parts.scheme then some .scheme
  else if long parts.authority then some .authority
  else if long parts.path then some .path
  else if long (parts.query.getD []) then some .query
  else if long (parts.fragment.getD []) then some .fragment
  else none

/-- The URL of components that were taken from a URL and changed. -/
def rebuild (parts : Parts) : Except Error Url :=
  match parts.tooLong? with
  | some part => .error (.partTooLong part)
  | none => ofParts parts

/-- The URL with another query. -/
def withQuery (url : Url) (query : List Char) : Except Error Url :=
  rebuild { url.parts with query := some query }

/-- The URL with another host. -/
def withHost (url : Url) (host : List Char) : Except Error Url :=
  rebuild { url.parts with
    host := some (if host.contains ':' then '[' :: host ++ [']'] else host) }

/-- The URL with another fragment. -/
def withFragment (url : Url) (fragment : List Char) : Except Error Url :=
  rebuild { url.parts with fragment := some fragment }

/-- Whether the URL says by itself where to go. -/
def isAbsolute (url : Url) : Bool := !url.scheme.isEmpty && !url.host.isEmpty

/-- An absolute URL as it is; of any other the path and query alone, from the root. -/
def rooted (url : Url) : Except Error Url :=
  if url.isAbsolute then .ok url
  else
    let path := if url.path.isEmpty then ['/'] else url.path.toList
    let target := path ++ (match url.query with
      | some q => '?' :: q.toList
      | none => [])
    let (path, query) := (target.dropWhile (· = '/')).span (· ≠ '?')
    rebuild { path := '/' :: path, query := if query.isEmpty then none else some (query.drop 1) }

/-- The host in the form for readers. -/
def readableHost (url : Url) : Except Idna.Error (List Char) :=
  let host := url.host.toList
  if Idna.codeMark.isPrefixOf host then Idna.decode host else .ok host

/-! ## References -/

/-- The path of a reference that stands at another path. -/
def joinPaths (base path : List Char) : List Char :=
  if path.head? = some '/' then path
  else
    let directory := base.reverse.dropWhile (· ≠ '/')
    (if directory.isEmpty then ['/'] else directory.reverse) ++ path

/-- The URL that a reference without a scheme stands for at a URL. -/
def join (base reference : Url) : Except Error Url :=
  let text : Url :=
    if !reference.authority.isEmpty then { reference with scheme := base.scheme }
    else
      let query :=
        if reference.path.isEmpty && (reference.query.getD "").isEmpty then base.query
        else reference.query
      let path :=
        if reference.path.isEmpty then base.path
        else String.ofList (joinPaths base.path.toList reference.path.toList)
      { base with path, query, fragment := reference.fragment }
  parse text.toText

end Url

end Paygate
