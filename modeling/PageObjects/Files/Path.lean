import PageObjects.ResultType

/-!
# Paths

A path is what it starts at and its components. Text is read with empty components and single points
left out, so that equal paths have equal text.
-/

namespace PageObjects

/-- A path: nothing, one slash or two slashes to start at, and the components. -/
structure Path where
  start : String := ""
  parts : List String := []
  deriving DecidableEq, Repr, Inhabited

namespace Path

/-- The start of a path: exactly two slashes differ from one and from many. -/
def startOf : List Char → String
  | ['/', '/'] => "//"
  | '/' :: '/' :: c :: _ => if c == '/' then "/" else "//"
  | '/' :: _ => "/"
  | _ => ""

/-- The path that a text writes. -/
def ofText (text : String) : Path :=
  { start := startOf text.toList,
    parts := (ResultType.parts '/' text).filter fun part => !part.isEmpty && part != "." }

/-- The text of a path; a point for the empty one. -/
def text (p : Path) : String :=
  if p.start.isEmpty && p.parts.isEmpty then "." else p.start ++ "/".intercalate p.parts

/-- The path that follows `p` by `q`; a `q` with a start stands for itself. -/
def join (p q : Path) : Path :=
  if q.start.isEmpty then { p with parts := p.parts ++ q.parts } else q

/-- The path that follows `p` by the path of each text. -/
def joinTexts (p : Path) (texts : List String) : Path :=
  texts.foldl (fun p text => p.join (ofText text)) p

/-- A path one component further. -/
def child (p : Path) (name : String) : Path := { p with parts := p.parts ++ [name] }

/-- The path without its last component. -/
def parent (p : Path) : Path := { p with parts := p.parts.dropLast }

/-- The directory above a path: the path without its last component, unless that leads up itself.
Nothing is above a start. -/
def up (p : Path) : Path :=
  match p.parts.getLast? with
  | none => if p.start.isEmpty then p.child ".." else p
  | some last => if last == ".." then p.child ".." else p.parent

/-- The path one step on: two points lead to the directory above. -/
def step (p : Path) (component : String) : Path := if component == ".." then p.up else p.child component

/-- The path without components that lead up again, as if each stood after a directory. -/
def resolved (p : Path) : Path := p.parts.foldl step { p with parts := [] }

/-- Nothing but a start or steps up, so that a directory stands there in every tree. -/
def isAnchor (p : Path) : Bool := p.parts.all (· == "..")

/-- The last component. -/
def name (p : Path) : String := p.parts.getLastD ""

/-- What leads from `p` to `q`, which lies under it. -/
def relativeTo (q p : Path) : Path := { parts := q.parts.drop p.parts.length }

/-- A component holds a null character, so that no file can have the path. -/
def hasNull (p : Path) : Bool := p.parts.any fun part => part.toList.contains (Char.ofNat 0)

/-- `q` is `p` or lies under it: nothing in it leads up again from `p`. -/
def isWithin (q p : Path) : Bool :=
  q.start == p.start && p.parts.isPrefixOf q.parts && !(q.parts.drop p.parts.length).contains ".."

/-- Component by component, by code points; what ends first comes first. -/
def componentsLe : List String → List String → Bool
  | [], _ => true
  | _ :: _, [] => false
  | a :: as, b :: bs => if a == b then componentsLe as bs else decide (a ≤ b)

/-- The order of paths by their components; a path comes before those under it. -/
def le (p q : Path) : Bool := componentsLe (p.start :: p.parts) (q.start :: q.parts)

end Path
end PageObjects
