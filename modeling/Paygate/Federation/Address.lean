import Paygate.Federation.Error

/-!
# Federation addresses

A federation address is a name and a domain with a `*` between them. The last `*` divides: the name
may hold further ones, the domain holds none. A text without `*` is no federation address; one with
an empty name or domain is malformed.
-/

namespace Paygate.Federation

structure Address where
  name : Str
  domain : Str
deriving DecidableEq, Repr

namespace Address

/-- The texts before and after the last `*`, if there is one. -/
def split? (points : List Point) : Option (List Point × List Point) :=
  if points.contains '*' then
    some (((points.reverse.dropWhile (· ≠ Point.char '*')).drop 1).reverse,
      (points.reverse.takeWhile (· ≠ Point.char '*')).reverse)
  else none

/-- The federation address that a text writes; `none` for a text without `*`. -/
def parse (text : Str) : Except Error (Option Address) :=
  match split? text.points with
  | none => .ok none
  | some (name, domain) =>
    if name.isEmpty || domain.isEmpty then .error (.malformedAddress text)
    else .ok (some ⟨.ofPoints name, .ofPoints domain⟩)

end Address

end Paygate.Federation
