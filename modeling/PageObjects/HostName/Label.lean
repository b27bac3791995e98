import PageObjects.HostName.Context
import PageObjects.HostName.Direction
import PageObjects.HostName.Letter
import PageObjects.HostName.Punycode
import PageObjects.Text.Case
import PageObjects.Text.Composition

/-!
# Host names beyond ASCII

A name consists of labels between points. A label beyond ASCII is sent in ASCII, as Punycode with a
mark in front, and neither a label nor the whole name may be too long in that form.

* `labelFault?`: why a text is no label.
* `sentLabel?`: a label as it is sent.
* `isName`: what a name may be.
* `sentFault?`: why a text stands for no name.
-/

namespace PageObjects.HostName

/-- Why a text is no name: it is not composed or not well formed, which goes for misplaced joiners too,
a character is not admitted at all or not in its place, or it has no one direction. -/
inductive NameError where
  | malformed
  | character
  | place
  | direction
  deriving DecidableEq, Repr

/-! ## Labels -/

/-- A label has two hyphens as its third and fourth character, as only those in Punycode do. -/
def hasTagHyphens (cs : List Char) : Bool := (cs.drop 2).take 2 == ['-', '-']

/-- The first fault of a character; `before` holds those in front, nearest first. -/
def characterFault? (before : List Char) : List Char → Option NameError
  | [] => none
  | c :: after =>
    if isLetter c || isPlaced before c after then characterFault? (c :: before) after
    else if isJoiner c then some .malformed
    else if needsPlace c then some .place
    else some .character

/-- Why a text is no label: composed text of admitted characters in one direction, without a hyphen or
a mark where it would be mistaken. -/
def labelFault? (cs : List Char) : Option NameError :=
  match cs with
  | [] => some .malformed
  | first :: _ =>
    if !Text.isComposed cs || hasTagHyphens cs || first == '-' || cs.getLast? == some '-' ||
        Text.isMark first then some .malformed
    else
      match characterFault? [] cs with
      | some fault => some fault
      | none => if isDirected cs then none else some .direction

/-- What a label in Punycode starts with. -/
def tag : List Char := ['x', 'n', '-', '-']

/-- Why a text of ASCII characters is no label: in Punycode it stands for a label, and otherwise it is
one. -/
def asciiLabelFault? (cs : List Char) : Option NameError :=
  if tag.isPrefixOf cs then
    let code := cs.drop tag.length
    if code.isEmpty || code.getLast? == some '-' then some .malformed
    else
      match Punycode.decode? code with
      | none => some .malformed
      | some codes =>
        if codes.all fun n => n.isValidChar then labelFault? (codes.map Char.ofNat)
        else some .character
  else labelFault? cs

/-- The most characters of a label as it is sent. -/
def labelLimit : Nat := 63

/-- A label as it is sent. -/
def sentLabel? (cs : List Char) : Option (List Char) :=
  let sent := if cs.all Text.isAscii then cs else tag ++ Punycode.encode cs
  let fault := if cs.all Text.isAscii then asciiLabelFault? cs else labelFault? cs
  if fault.isNone && sent.length ≤ labelLimit then some sent else none

/-! ## Names -/

/-- A point between labels. -/
def isPoint (c : Char) : Bool :=
  c == '.' || c.toNat == 0x3002 || c.toNat == 0xFF0E || c.toNat == 0xFF61

/-- The most characters of a name, without a point at its end. -/
def nameLimit : Nat := 253

/-- The labels of a name. A point at the end of the name is passed over. -/
def labelsOf (name : List Char) : List (List Char) :=
  let labels := name.splitOnP isPoint
  if labels.getLast? == some [] then labels.dropLast else labels

/-- A name. Case does not matter. -/
def isName (cs : List Char) : Bool :=
  let name := (Text.lower (String.ofList cs)).toList
  let labels := labelsOf name
  name.length ≤ nameLimit + 1 && !labels.isEmpty &&
    match labels.mapM sentLabel? with
    | some sent => (['.'].intercalate sent).length ≤ nameLimit
    | none => false

/-- Why a host in ASCII stands for no name. Only one that starts as a label in Punycode does is looked
at. -/
def sentFault? (host : List Char) : Option NameError :=
  let name := host.map Char.toLower
  if !tag.isPrefixOf name || !name.all Text.isAscii then none
  else if nameLimit + 1 < name.length then some .malformed
  else (labelsOf name).findSome? asciiLabelFault?

end PageObjects.HostName
