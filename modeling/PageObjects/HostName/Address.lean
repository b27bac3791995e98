import PageObjects.Text.Digits

/-!
# Addresses of hosts

An address is four numbers between points, or groups of hexadecimal digits between colons.
-/

namespace PageObjects.HostName

/-- A part of a dotted address: a number up to 255 without a zero in front. -/
def isOctet (cs : List Char) : Bool :=
  !cs.isEmpty && cs.length ≤ 3 && cs.all Text.isAsciiDigit && (cs == ['0'] || cs.head? != some '0') &&
    Text.ofDigits (cs.filterMap Text.asciiDigitValue?) ≤ 255

/-- An address of four numbers between points. -/
def isDottedAddress (cs : List Char) : Bool :=
  let octets := cs.splitOn '.'
  octets.length == 4 && octets.all isOctet

/-- A group of an address in brackets: up to four hexadecimal digits. -/
def isHexGroup (cs : List Char) : Bool :=
  !cs.isEmpty && cs.length ≤ 4 && cs.all fun c => (Text.hexValue? c).isSome

/-- Groups in which the last may be a dotted address that counts as two; `none` where that is none. -/
def expandDotted (groups : List (List Char)) : Option (List (List Char)) :=
  match groups.getLast? with
  | some last =>
    if last.contains '.' then
      if isDottedAddress last then some (groups.dropLast ++ [['0'], ['0']]) else none
    else some groups
  | none => some groups

/-- The number of groups on one side of the gap, which may be empty only where the address starts or
ends with the gap; `none` where a group is wrong. -/
def sideLength? (groups : List (List Char)) : Option Nat :=
  if groups == [[]] then some 0 else if groups.all isHexGroup then some groups.length else none

/-- Eight groups between colons, or fewer with one gap, two colons, for at least one group. -/
def areColonGroups (groups : List (List Char)) : Bool :=
  let inner := (groups.drop 1).dropLast
  match inner.findIdx? List.isEmpty with
  | none => groups.length == 8 && groups.all isHexGroup
  | some gap =>
    match sideLength? (groups.take (gap + 1)), sideLength? (groups.drop (gap + 2)) with
    | some before, some after => before + after ≤ 7
    | _, _ => false

/-- An address of groups between colons, without its brackets; a zone may follow a percent sign. -/
def isColonAddress (cs : List Char) : Bool :=
  let address := cs.takeWhile (· != '%')
  let zone := cs.drop address.length
  let groups := address.splitOn ':'
  (zone.isEmpty || (zone.length != 1 && !(zone.drop 1).contains '%')) && 3 ≤ groups.length &&
    match expandDotted groups with
    | some groups => groups.length ≤ 9 && areColonGroups groups
    | none => false

/-- Four numbers of any size between points: what has to be a dotted address. -/
def looksDotted (cs : List Char) : Bool :=
  let parts := cs.splitOn '.'
  parts.length == 4 && parts.all fun part => !part.isEmpty && part.all Text.isAsciiDigit

end PageObjects.HostName
