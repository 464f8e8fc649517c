import Paygate.Payment.Error

/-!
# Errors of address resolution

The causes for which an address cannot be resolved, each with its message. An address stays unresolved
for one of them, or because of a fault.
-/

namespace Paygate.Federation

inductive Error where
  | emptyAddress
  | malformedAddress (address : Str)
  | unreachable (url : Str) (reason : String)
  | refused (url : Str) (status : Nat)
  | notToml (url : Str)
  | noServer (url : Str)
  | queryFailed (server : Str) (reason : String)
  | queryRefused (server : Str) (status : Nat)
  | notJson (server : Str)
  | notObject
  | noAccount
  | halfMemo
  | memoNotText
deriving DecidableEq, Repr

def Error.message : Error → Str
  | emptyAddress => "Empty destination"
  | malformedAddress address => "Malformed federation address: " ++ Text.quoted address
  | unreachable url reason => .whole "Cannot fetch " ++ url ++ .whole (": " ++ reason)
  | refused url status => url ++ .whole (" returned " ++ toString status)
  | notToml url => url ++ .whole " is not valid TOML"
  | noServer url => url ++ .whole " has no FEDERATION_SERVER"
  | queryFailed server reason =>
    .whole "Federation request to " ++ server ++ .whole (" failed: " ++ reason)
  | queryRefused server status =>
    .whole "Federation server " ++ server ++ .whole (" returned " ++ toString status)
  | notJson server => .whole "Federation server " ++ server ++ .whole " returned non-JSON"
  | notObject => "Federation response is not a JSON object"
  | noAccount => "Federation response has no account_id"
  | halfMemo => "Federation response has only one of memo_type/memo"
  | memoNotText => "Federation memo fields must be strings"

/-- Why an address was not resolved. -/
inductive Failure where
  | error (error : Error)
  | fault (fault : Fault)
deriving DecidableEq, Repr

end Paygate.Federation
