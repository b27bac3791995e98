import PageObjects.Service.Authority
import PageObjects.Text.Digits

/-!
# Targets of requests

A target is a URL, of which the path counts. What stands in front of the path, scheme and authority,
may be missing; a target with a scheme and a host names another server, which is taken for this one.
Requests to the Service (specification, 6) are sent to targets.

* `resolveDots`: segments of one point are dropped, and segments of two points take the segment
  before them away.
* `percentDecoded`: escapes such as `%2F` stand for their characters.
* `Target.ofText?`: the parts of a target.
* `Target.lookup`: the path of a target, resolved and decoded.
-/

namespace PageObjects.Http

/-- Why a URL leads to no path: its scheme is not one of the web, its host stands for no name, or it
asks for a socket. -/
inductive TargetError where
  | unknownScheme
  | host (e : HostName.NameError)
  | socket
  deriving DecidableEq, Repr

/-- The parts of a target, without query and fragment. -/
structure Target where
  scheme : List Char := []
  authority : Authority := {}
  path : List Char
  deriving DecidableEq, Repr

namespace Target

/-! ## Parts -/

/-- An ASCII control character. -/
def isControl (c : Char) : Bool := c.toNat < 0x20 || c.toNat == 0x7F

/-- A character of a scheme. -/
def isSchemeChar (c : Char) : Bool :=
  Text.isAsciiLetter c || Text.isAsciiDigit c || c == '+' || c == '.' || c == '-'

/-- The scheme in front of a colon, empty if there is none, and what follows. A scheme starts with a
letter. -/
def splitScheme (cs : List Char) : List Char × List Char :=
  let scheme := cs.takeWhile isSchemeChar
  match cs.drop scheme.length with
  | ':' :: rest => if scheme.head?.all Text.isAsciiLetter then (scheme, rest) else ([], cs)
  | _ => ([], cs)

/-- The authority after two slashes, empty if there is none, and the path. -/
def splitAuthority : List Char → List Char × List Char
  | '/' :: '/' :: rest => (rest.takeWhile (· != '/'), rest.dropWhile (· != '/'))
  | cs => ([], cs)

/-- Takes a segment; `kept` holds the segments before it, last first. The empty segment in front of
the first slash stays. -/
def keepSegment (kept : List (List Char)) (segment : List Char) : List (List Char) :=
  if segment == ['.'] then kept
  else if segment == ['.', '.'] then if kept == [[]] then kept else kept.drop 1
  else segment :: kept

/-- The path without segments of one or two points. -/
def resolveDots (path : List Char) : List Char :=
  ['/'].intercalate ((path.splitOn '/').foldl keepSegment []).reverse

/-- A path that lacks the server in front of it must start with neither two slashes nor a colon. -/
def isMisplaced : List Char → Bool
  | '/' :: '/' :: _ => true
  | ':' :: _ => true
  | _ => false

/-- A path of this server: a slash and the path without slashes in front. -/
def rooted (path : List Char) : List Char := '/' :: path.dropWhile (· == '/')

/-! ## Length -/

/-- The most characters that a target may have, and that its path and its query may have with their
escapes. -/
def sizeLimit : Nat := 65536

/-- The characters of ASCII that a path escapes. -/
def pathEscapes : List Char := [' ', '"', '#', '<', '>', '?', '\x60', '\x7b', '\x7d']

/-- The characters of ASCII that a query escapes. -/
def queryEscapes : List Char := [' ', '"', '#', '<', '>']

/-- The length of a text in which some characters of ASCII, and the bytes of all others, are escapes
of three characters each. -/
def escapedSize (escapes cs : List Char) : Nat :=
  cs.foldl (fun size c =>
    size + if Text.isAscii c && !escapes.contains c then 1 else 3 * c.utf8Size) 0

/-- The query: what stands between a question mark and a number sign. -/
def query (cs : List Char) : List Char :=
  ((cs.takeWhile (· != '#')).dropWhile (· != '?')).drop 1

/-! ## Whole targets -/

/-- A scheme and a host are named. -/
def namesServer (t : Target) : Bool := !t.scheme.isEmpty && !t.authority.host.isEmpty

/-- The parts of a target, if it is a URL. The path is resolved, unless it stands alone: a target
that names no server is placed on this one first. -/
def ofText? (target : String) : Option Target :=
  let cs := target.toList
  let (scheme, rest) := splitScheme (cs.takeWhile fun c => c != '?' && c != '#')
  let (authority, path) := splitAuthority rest
  if sizeLimit < cs.length || cs.any isControl then none
  else
    match Authority.ofText? authority with
    | none => none
    | some authority =>
      let alone := scheme.isEmpty && authority.isEmpty
      let parts : Target := ⟨scheme, authority, if alone then path else resolveDots path⟩
      if alone && isMisplaced path then none
      else if parts.namesServer then some parts
      else if sizeLimit < escapedSize pathEscapes (rooted parts.path) then none
      else if sizeLimit < escapedSize queryEscapes (query cs) then none
      else some { parts with path := resolveDots (rooted parts.path) }

/-! ## Look-up -/

/-- The character of a byte; a byte beyond ASCII stands for no character of a known path. -/
def byteChar (byte : Nat) : Char := if byte < 0x80 then Char.ofNat byte else Char.ofNat 0xFFFD

/-- The characters with each escape, a percent sign and two hexadecimal digits, replaced by what it
stands for. -/
def percentDecoded : List Char → List Char
  | '%' :: a :: b :: rest =>
    match Text.hexValue? a, Text.hexValue? b with
    | some high, some low => byteChar (16 * high + low) :: percentDecoded rest
    | _, _ => '%' :: percentDecoded (a :: b :: rest)
  | c :: rest => c :: percentDecoded rest
  | [] => []

/-- A path as resources are looked up by it: escapes are decoded twice, so that an escaped percent
sign may start an escape. -/
def lookupPath (path : List Char) : List Char := percentDecoded (percentDecoded path)

/-- The schemes of the web. -/
def webSchemes : List String := ["http", "https"]

/-- The schemes of sockets. -/
def socketSchemes : List String := ["ws", "wss"]

/-- The path that a target leads to. -/
def lookup (t : Target) : Except TargetError (List Char) :=
  let scheme := String.ofList (t.scheme.map Char.toLower)
  if !t.namesServer then .ok (lookupPath t.path)
  else if !webSchemes.contains scheme && !socketSchemes.contains scheme then .error .unknownScheme
  else
    match HostName.sentFault? t.authority.host with
    | some e => .error (.host e)
    | none => if webSchemes.contains scheme then .ok (lookupPath t.path) else .error .socket

end Target
end PageObjects.Http
