import Paygate.Http.Fault
import Paygate.Url.Basic

/-!
# Redirections

A response may name another address at which to ask. Nothing is asked there, but the address has to
make sense: it has to be a URL, and a URL again once it is completed by what it takes over from the
request. A request to another place names that place in a header, so it has to be ASCII.
-/

namespace Paygate.Http.Redirect

/-- The statuses that come with another address. -/
def statuses : List Nat := [301, 302, 303, 307, 308]

def orUrl {α : Type} (result : Except Url.Error α) : Except Fault α := result.mapError .invalidUrl

def hostOf (url : Url) : Except Fault (List Char) := url.readableHost.mapError .hostName

/-- The number behind a host, or the one that the scheme has. -/
def effectivePort (url : Url) : Option Int :=
  match url.portNumber with
  | some n => some n
  | none => if url.scheme = "http" then some 80 else if url.scheme = "https" then some 443 else none

/-- The address of the next request, after `sent`, for the address that a response names. -/
def complete (sent named : Url) : Except Fault Url := do
  let named ←
    if named.scheme.isEmpty then pure named
    else do
      let host ← hostOf named
      if host.isEmpty then orUrl (named.withHost (← hostOf sent)) else pure named
  let named ← if named.isAbsolute then pure named else orUrl (sent.join named)
  match sent.fragment with
  | none => pure named
  | some fragment =>
    if fragment.isEmpty || !(named.fragment.getD "").isEmpty then pure named
    else orUrl (named.withFragment (Percent.decode fragment.toList))

/-- Whether two addresses are at one place. -/
def sameOrigin (a b : Url) : Except Fault Bool := do
  if a.scheme = b.scheme then
    let host ← hostOf a
    pure (host == (← hostOf b) && effectivePort a == effectivePort b)
  else pure false

/-- Whether the next request can be made. -/
def check (sent named : Url) : Except Fault Unit := do
  let next ← complete sent named
  if !(← sameOrigin next sent) then
    let _ ← hostOf sent
    let _ ← hostOf next
    let place := next.location.toList
    if place.any (128 ≤ ·.toNat) then throw (.notAscii place)

end Paygate.Http.Redirect
