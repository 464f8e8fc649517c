import Paygate.Json.Basic
import Paygate.Url.Basic

/-!
# Routes

The paths that the service answers, each with its one method. A path with slashes at its end is
redirected to the path without them.
-/

namespace Paygate.Service

inductive Route where
  | health
  | readiness
  | payment
deriving DecidableEq, Repr

namespace Route

def all : List Route := [health, readiness, payment]

def path : Route → String
  | health => "/health"
  | readiness => "/health/ready"
  | payment => "/payment"

def method : Route → String
  | health => "GET"
  | readiness => "GET"
  | payment => "POST"

def ofPath? (path : List Char) : Option Route := all.find? fun route => route.path.toList == path

end Route

/-- A request to the service. -/
structure Request where
  method : String
  url : Url
  contentType : String := ""
  body : Bytes := []

/-- The path of a request with its escapes read. -/
def Request.path (request : Request) : List Char := Percent.decode request.url.path.toList

/-- An answer to the client. Without a body nothing is written. -/
structure Reply where
  status : Nat
  body : Option Json := none
  allow : Option String := none
  location : Option String := none

namespace Reply

/-- An answer that names a fault of the request. -/
def detail (status : Nat) (text : String) : Reply :=
  { status, body := some (.obj [("detail", .str text)]) }

def notFound : Reply := detail 404 "Not Found"

def methodNotAllowed (route : Route) : Reply :=
  { detail 405 "Method Not Allowed" with allow := some route.method }

/-- The characters of a URL that a redirection writes as they are. -/
def locationSafe (c : Char) : Bool :=
  Percent.isUnreserved c || ":/%#?=@[]!$&'()*+,;".toList.contains c

def redirect (route : Route) (request : Request) : Reply :=
  let query := match request.url.query with
    | some q => if q.isEmpty then "" else "?" ++ q
    | none => ""
  let target := request.url.scheme ++ "://" ++ request.url.authority ++ route.path ++ query
  { status := 307, location := some (String.ofList (Percent.encode locationSafe target.toList)) }

end Reply

/-- What a request is for: a route, or an answer for a request that has none. -/
def dispatch (request : Request) : Except Reply Route :=
  match Route.ofPath? request.path with
  | some route =>
    if request.method = route.method then .ok route else .error (.methodNotAllowed route)
  | none =>
    if request.path.getLast? = some '/' then
      match Route.ofPath? (Text.trimEnd '/' request.path) with
      | some route => .error (.redirect route request)
      | none => .error .notFound
    else .error .notFound

end Paygate.Service
