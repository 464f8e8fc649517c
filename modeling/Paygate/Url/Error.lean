import Paygate.Text.Quoted

/-!
# What is no URL

The reasons for which a text is no URL, each with its wording.
-/

namespace Paygate.Url

inductive Part where
  | scheme
  | authority
  | path
  | query
  | fragment
deriving DecidableEq, Repr

def Part.name : Part → String
  | scheme => "scheme"
  | authority => "authority"
  | path => "path"
  | query => "query"
  | fragment => "fragment"

/-- Why a text is no URL. -/
inductive Error where
  | tooLong
  | partTooLong (part : Part)
  /-- A control character; positions count from zero. -/
  | control (c : Char) (position : Nat)
  | address4 (host : String)
  | address6 (host : String)
  | hostName (host : String)
  | portNumber (text : String)
  | pathWithoutSlash
  | pathTwoSlashes
  | pathColon
deriving DecidableEq, Repr

def Error.message : Error → String
  | tooLong => "URL too long"
  | partTooLong part => "URL component '" ++ part.name ++ "' too long"
  | control c position =>
    "Invalid non-printable ASCII character in URL, " ++ Text.quoted (String.singleton c) ++
      " at position " ++ toString position ++ "."
  | address4 host => "Invalid IPv4 address: " ++ Text.quoted host
  | address6 host => "Invalid IPv6 address: " ++ Text.quoted host
  | hostName host => "Invalid IDNA hostname: " ++ Text.quoted host
  | portNumber text => "Invalid port: " ++ Text.quoted text
  | pathWithoutSlash => "For absolute URLs, path must be empty or begin with '/'"
  | pathTwoSlashes => "Relative URLs cannot have a path starting with '//'"
  | pathColon => "Relative URLs cannot have a path starting with ':'"

end Paygate.Url
