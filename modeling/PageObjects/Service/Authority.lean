import PageObjects.HostName.Address
import PageObjects.HostName.Label

/-!
# Authorities of URLs

An authority names a server: a user before an at sign, a host, and a port behind a colon; all of them
may be missing. The host is a name, a dotted address, or an address in brackets. They stand in the
targets of requests to the Service (specification, 6).

* `isHost`: what a host may be.
* `Authority.ofText?`: the parts of an authority.
-/

namespace PageObjects.Http

/-! ## Hosts -/

/-- The host is in brackets. -/
def isBracketed (host : List Char) : Bool :=
  host.head? == some '[' && host.getLast? == some ']' && 2 ≤ host.length

/-- A host: no text, an address in one of the two forms, any ASCII text, or a name. -/
def isHost (host : List Char) : Bool :=
  if HostName.looksDotted host then HostName.isDottedAddress host
  else if isBracketed host then HostName.isColonAddress (host.drop 1).dropLast
  else host.all Text.isAscii || HostName.isName host

/-! ## Authorities -/

/-- The parts of an authority. -/
structure Authority where
  user : List Char := []
  host : List Char := []
  port : Option Int := none
  deriving DecidableEq, Repr

namespace Authority

/-- The user in front of the last at sign, and the rest. -/
def splitUser (cs : List Char) : List Char × List Char :=
  let rest := (cs.reverse.takeWhile (· != '@')).reverse
  (cs.take (cs.length - rest.length - 1), rest)

/-- The host and the rest: brackets and what they hold, or all up to a colon. -/
def splitHost (cs : List Char) : List Char × List Char :=
  if cs.head? == some '[' && cs.contains ']' then
    let after := (cs.reverse.takeWhile (· != ']')).reverse
    (cs.take (cs.length - after.length), after)
  else
    let host := cs.takeWhile (· != ':')
    (host, cs.drop host.length)

/-- The characters without a colon in front. -/
def dropColon : List Char → List Char
  | ':' :: rest => rest
  | cs => cs

/-- The parts of an authority, if its host is a host and its port a whole number. -/
def ofText? (cs : List Char) : Option Authority :=
  let (user, rest) := splitUser cs
  let (host, after) := splitHost rest
  let port := dropColon after
  if !isHost host then none
  else if port.isEmpty then some { user, host }
  else (Text.wholeNumber? (String.ofList port)).map fun n => { user, host, port := some n }

/-- Nothing is named. -/
def isEmpty (a : Authority) : Bool := a.user.isEmpty && a.host.isEmpty && a.port.isNone

end Authority
end PageObjects.Http
