import Paygate.Compression.Container
import Paygate.Http.Headers

/-!
# Content codings

A body may have been coded for transport, several times over; its headers list the codings in the
order in which they were applied. Codings of other names do not count. What is said to be deflated
may come with the short header or without it.
-/

namespace Paygate.Http

inductive Coding where
  | identity
  | gzip
  | deflate
deriving DecidableEq, Repr

namespace Coding

def ofName? (name : String) : Option Coding :=
  match Headers.lowerName name with
  | "identity" => some identity
  | "gzip" => some gzip
  | "deflate" => some deflate
  | _ => none

def decode (coding : Coding) (body : Bytes) : Except Compression.Error Bytes :=
  match coding with
  | identity => .ok body
  | gzip => Compression.inflateFile body
  | deflate =>
    match Compression.inflateShort body with
    | .ok content => .ok content
    | .error _ => Compression.inflate body

/-- The codings of a body. -/
def ofHeaders (headers : Headers) : List Coding :=
  (headers.items "content-encoding").filterMap ofName?

/-- A body without its codings, the last of which is undone first. -/
def decodeAll (codings : List Coding) (body : Bytes) : Except Compression.Error Bytes :=
  codings.reverse.foldlM (fun body coding => coding.decode body) body

end Coding

end Paygate.Http
