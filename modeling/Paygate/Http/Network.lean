import Paygate.Http.Coding
import Paygate.Http.Message
import Paygate.Http.Redirect

/-!
# The network

The servers that the gateway asks, as a list of rules. A request takes the first rule for its method
and address that has not been used up, and meets 404 with an empty body if there is none. `Network`
keeps every request that was sent, in order. Only absolute `http` and `https` addresses are sent to
anyone; `send` sends at most one request. A response that comes back has lost its content codings,
and the address that it redirects to has been looked at.
-/

namespace Paygate.Http

/-- How a request ends. A failure may be a timeout and has a reason. -/
inductive Outcome where
  | response (response : Response)
  | failure (timedOut : Bool) (reason : String)
deriving DecidableEq, Repr

structure Rule where
  method : String
  /-- The address that the rule is for; `none` is any address. -/
  url : Option String
  /-- How often the rule may still be used; `none` is any number of times. -/
  uses : Option Nat := none
  outcome : Outcome
deriving DecidableEq, Repr

namespace Rule

def matchesRequest (rule : Rule) (request : Request) : Bool :=
  rule.method = request.method.name &&
    (match rule.url with
      | none => true
      | some url => decide (url = request.url)) &&
    rule.uses ≠ some 0

def used (rule : Rule) : Rule := { rule with uses := rule.uses.map (· - 1) }

end Rule

/-- The outcome of a request and the rules that are left. -/
def answer (request : Request) : List Rule → Outcome × List Rule
  | [] => (.response { status := 404, body := [] }, [])
  | rule :: rules =>
    if rule.matchesRequest request then (rule.outcome, rule.used :: rules)
    else
      let (outcome, rules) := answer request rules
      (outcome, rule :: rules)

structure Network where
  rules : List Rule
  sent : List Request := []
deriving DecidableEq, Repr

/-- Why there is no response. -/
inductive Error where
  | fault (cause : Fault)
  | failed (timedOut : Bool) (reason : String)
deriving DecidableEq, Repr

/-- Why a URL is not sent to anyone. -/
def refusal? (url : Url) : Option String :=
  if url.scheme.isEmpty || url.host.isEmpty then
    some "Request URL is missing an 'http://' or 'https://' protocol."
  else if url.scheme = "http" || url.scheme = "https" then none
  else some ("Request URL has an unsupported protocol '" ++ url.scheme ++ "://'.")

/-- Why a broken address is no URL. The halves in it are taken for a character that no host and no
number may hold; where that leaves a URL, they cannot be encoded. User information is encoded before
host and number are looked at, so it counts whether what is filled in can be seen there. -/
def brokenAddress (address : Broken) : Fault :=
  let filled (c : Char) : List Char := address.points.map fun point => point.char?.getD c
  let userinfo (c : Char) := (Url.splitUserinfo (Url.Parts.ofChars (filled c)).authority).1
  match Url.parse (String.ofList (filled '\uFFFD')) with
  | .ok _ => .brokenText
  | .error .tooLong => .invalidUrl .tooLong
  | .error (.control c position) => .invalidUrl (.control c position)
  | .error cause =>
    if userinfo '\uFFFD' = userinfo '\uFFFE' then .invalidUrl cause else .brokenText

/-- The URL of an address. -/
def urlOf : (address : Str) → Except Fault Url
  | .whole address => Redirect.orUrl (Url.parse address)
  | .broken address => .error (brokenAddress address)

/-- A pair that can be sent: its value is whole. -/
def wholePair : String × Str → Except Fault (String × String)
  | (name, .whole value) => .ok (name, value)
  | (_, .broken _) => .error .brokenText

def wholePairs (pairs : List (String × Str)) : Except Fault (List (String × String)) :=
  pairs.mapM wholePair

/-- The URL that a request goes to. The parameters, if there are any, replace its query. The host has
a form for readers, and it is ASCII as it stands in the URL. -/
def target (address : Str) (parameters : List (String × Str)) : Except Fault Url := do
  let url ← urlOf address
  let url ← Redirect.orUrl url.rooted
  let url ←
    if parameters.isEmpty then pure url
    else do
      let pairs ← wholePairs parameters
      Redirect.orUrl (url.withQuery (Percent.formPairs pairs))
  let _ ← Redirect.hostOf url
  let place := url.location.toList
  if !url.host.isEmpty && place.any (128 ≤ ·.toNat) then throw (.notAscii place)
  pure url

/-- A response without its content codings. -/
def Response.decoded (response : Response) : Except Error Response :=
  match response.headers.foreign? with
  | some text => .error (.fault (.notAscii text.toList))
  | none =>
    match Coding.decodeAll (Coding.ofHeaders response.headers) response.body with
    | .error e => .error (.failed false e.message)
    | .ok body => .ok { response with body }

/-- A response to a request for `sent`, unless it redirects to an address that makes no sense. -/
def Response.followed (response : Response) (sent : Url) : Except Error Response :=
  match response.headers.get? "location" with
  | none => .ok response
  | some address =>
    if Redirect.statuses.contains response.status then
      match Url.parse address with
      | .error e =>
        .error (.failed false ("Invalid URL in location header: " ++ e.message ++ "."))
      | .ok named => ((Redirect.check sent named).mapError .fault).map fun () => response
    else .ok response

namespace Network

/-- Send a request to a URL. -/
def exchange (method : Method) (url : Url) (body : String) (network : Network) :
    Except Error Response × Network :=
  let request : Request := { method, url := url.toText, body }
  let (outcome, rules) := answer request network.rules
  (match outcome with
    | .response response => response.decoded.bind (·.followed url)
    | .failure timedOut reason => .error (.failed timedOut reason),
   { rules, sent := network.sent ++ [request] })

/-- Ask for an address with the given parameters and form. -/
def send (method : Method) (address : Str) (parameters : List (String × Str))
    (form : List (String × String)) (network : Network) : Except Error Response × Network :=
  match target address parameters with
  | .error cause => (.error (.fault cause), network)
  | .ok url =>
    match refusal? url with
    | some reason => (.error (.failed false reason), network)
    | none => exchange method url (String.ofList (Percent.formPairs form)) network

def get (address : Str) (parameters : List (String × Str)) (network : Network) :
    Except Error Response × Network := send .get address parameters [] network

def post (address : Str) (form : List (String × String)) (network : Network) :
    Except Error Response × Network := send .post address [] form network

end Network

end Paygate.Http
