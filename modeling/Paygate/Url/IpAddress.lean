import Paygate.Bytes.Hex
import Paygate.Number.Numeral

/-!
# Texts of IP addresses

An IPv4 address is four numbers up to 255 without leading zeros. An IPv6 address is eight groups of
up to four hexadecimal digits, of which one run may be left out at `::` and the last two may be an
IPv4 address; a zone may follow after `%`.
-/

namespace Paygate.IpAddress

def isOctet (cs : List Char) : Bool :=
  Numeral.isRun cs && decide (cs.length ≤ 3) && (cs.length == 1 || cs.head? != some '0') &&
    decide (Numeral.ofDigits cs ≤ 255)

def isV4 (cs : List Char) : Bool :=
  let parts := cs.splitOn '.'
  parts.length == 4 && parts.all isOctet

def isGroup (cs : List Char) : Bool :=
  !cs.isEmpty && decide (cs.length ≤ 4) && cs.all fun c => (Hex.value? c).isSome

/-- Groups between colons, an IPv4 address at the end as two of them. -/
def groups? (cs : List Char) : Option (List (List Char)) :=
  let parts := cs.splitOn ':'
  match parts.getLast? with
  | some last =>
    if last.contains '.' then
      if isV4 last && parts.length ≥ 3 then some (parts.dropLast ++ [['0'], ['0']]) else none
    else if parts.length ≥ 3 then some parts
    else none
  | none => none

/-- Whether the groups before and after a left-out run are well formed: an empty group may stand
only at the very end that the run touches. -/
def isV6Groups (parts : List (List Char)) : Bool :=
  let inner := (parts.drop 1).dropLast
  let gaps := inner.countP List.isEmpty
  if parts.length > 9 || gaps > 1 then false
  else if gaps = 0 then parts.length == 8 && parts.all isGroup
  else
    let before := parts.takeWhile (fun part => !part.isEmpty)
    let high := if (parts.headD []).isEmpty then [] else before
    let after := (parts.reverse.takeWhile (fun part => !part.isEmpty)).reverse
    let low := if (parts.getLastD []).isEmpty then [] else after
    let first := if (parts.headD []).isEmpty then 1 else high.length
    let last := if (parts.getLastD []).isEmpty then 1 else low.length
    first + 1 + last == parts.length && high.all isGroup && low.all isGroup &&
      decide (high.length + low.length ≤ 7)

def isV6 (cs : List Char) : Bool :=
  let address := cs.takeWhile (· ≠ '%')
  let zone := cs.dropWhile (· ≠ '%')
  let zoneOk := zone.isEmpty || (zone.length > 1 && !(zone.drop 1).contains '%')
  zoneOk && !cs.contains '/' &&
    match groups? address with
    | some parts => isV6Groups parts
    | none => false

end Paygate.IpAddress
