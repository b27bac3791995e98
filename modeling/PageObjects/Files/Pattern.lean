import PageObjects.Files.Tree

/-!
# Patterns of file names

A pattern is matched component by component. In a component `*` stands for any characters, `?` for
one character, and brackets for one character of a set, or outside it after `!`. A component `**`
stands for any number of directories. The Runner finds the documents by such patterns.

Ranges of a set that hold no character are dropped first; an exclamation mark that then comes first
negates the set too.
-/

namespace PageObjects

/-- A member of a set: one character, or all from a first to a last. -/
inductive SetMember where
  | one (c : Char)
  | range (first last : Char)
  deriving DecidableEq, Repr

namespace SetMember

/-- The character is the member, or one of its range. -/
def admits (c : Char) : SetMember → Bool
  | .one d => c == d
  | .range first last => first ≤ c && c ≤ last

/-- A range that holds no character. -/
def isEmpty : SetMember → Bool
  | .one _ => false
  | .range first last => last < first

end SetMember

/-- What a part of a name pattern stands for. -/
inductive Glyph where
  | anyText
  | anyChar
  | char (c : Char)
  | set (negated : Bool) (members : List SetMember)
  deriving DecidableEq, Repr

/-- One component of a pattern. -/
inductive PatternPart where
  | directories
  | name (name : String)
  | glyphs (glyphs : List Glyph)
  | stop
  deriving DecidableEq, Repr

/-- A pattern that cannot be used. -/
inductive PatternError where
  | mixedDirectories
  | absolute
  deriving DecidableEq, Repr

/-- Why a search by a pattern fails: the pattern cannot be used, or a path cannot be looked at. -/
inductive SearchError where
  | pattern (e : PatternError)
  | file (e : FileError)
  deriving DecidableEq, Repr

namespace Pattern

/-! ## Names -/

/-- The members of a set: a hyphen between two characters makes a range of them. -/
def membersOf : List Char → List SetMember
  | a :: '-' :: b :: rest => .range a b :: membersOf rest
  | a :: rest => .one a :: membersOf rest
  | [] => []

/-- The set that the characters between brackets stand for. -/
def setOf (negated : Bool) (body : List Char) : Glyph :=
  let members := (membersOf body).filter fun m => !m.isEmpty
  match negated, members with
  | false, .one '!' :: rest => .set true rest
  | false, .range '!' last :: rest => .set true (.one '-' :: .one last :: rest)
  | _, _ => .set negated members

/-- The characters of a set up to its closing bracket and the rest after it; a bracket that comes
first is a member of the set. -/
def setBody? (cs : List Char) : Option (Bool × List Char × List Char) :=
  let (negated, body) := match cs with
    | '!' :: rest => (true, rest)
    | rest => (false, rest)
  let (head, tail) := match body with
    | ']' :: rest => ([']'], rest)
    | rest => ([], rest)
  let inside := tail.takeWhile (· != ']')
  match tail.drop inside.length with
  | _ :: rest => some (negated, head ++ inside, rest)
  | [] => none

/-- The parts of a name pattern. -/
def glyphsFrom : Nat → List Char → List Glyph
  | 0, _ => []
  | _, [] => []
  | fuel + 1, '*' :: rest => .anyText :: glyphsFrom fuel rest
  | fuel + 1, '?' :: rest => .anyChar :: glyphsFrom fuel rest
  | fuel + 1, '[' :: rest =>
    match setBody? rest with
    | some (negated, body, after) => setOf negated body :: glyphsFrom fuel after
    | none => .char '[' :: glyphsFrom fuel rest
  | fuel + 1, c :: rest => .char c :: glyphsFrom fuel rest

/-- The glyph stands for the character. -/
def Glyph.admits (c : Char) : Glyph → Bool
  | .anyText => true
  | .anyChar => true
  | .char d => c == d
  | .set negated members => members.any (SetMember.admits c) != negated

/-- The text and what remains of it as characters are taken from its front, longest first. -/
def remainders : List Char → List (List Char)
  | [] => [[]]
  | c :: cs => (c :: cs) :: remainders cs

/-- What may remain of a name after a glyph, longest first, given what may remain before it. -/
def advance (reached : List (List Char)) (glyph : Glyph) : List (List Char) :=
  match glyph, reached with
  | .anyText, longest :: _ => remainders longest
  | .anyText, [] => []
  | glyph, reached => reached.filterMap fun
    | c :: rest => if Glyph.admits c glyph then some rest else none
    | [] => none

/-- The glyphs match the whole name. -/
def admits (glyphs : List Glyph) (name : List Char) : Bool :=
  (glyphs.foldl advance [name]).contains []

/-- Two stars follow each other. -/
def hasTwoStars (cs : List Char) : Bool := (cs.zip (cs.drop 1)).any (· == ('*', '*'))

/-- One component of a pattern. Two stars stand for directories only when they stand alone. -/
def partOf (component : String) : Except PatternError PatternPart :=
  let cs := component.toList
  if component == "**" then .ok .directories
  else if hasTwoStars cs then .error .mixedDirectories
  else if cs.any fun c => c == '*' || c == '?' || c == '[' then .ok (.glyphs (glyphsFrom cs.length cs))
  else .ok (.name component)

/-- The components of a pattern that is looked for in a directory and all directories under it. A
slash at the end asks for directories. -/
def ofText (pattern : String) : Except PatternError (List PatternPart) := do
  let path := Path.ofText pattern
  if !path.start.isEmpty then throw .absolute
  let parts ← path.parts.mapM partOf
  return .directories :: parts ++ if pattern.toList.getLast? == some '/' then [.stop] else []

/-! ## Paths -/

/-- The paths under `here` that the components match. A component that others follow matches
directories only. -/
def select (tree : FileTree) : List PatternPart → Path → Except FileError (List Path)
  | [], here => .ok [here]
  | .stop :: _, here => .ok [here]
  | .directories :: rest, here => do
    let places ← tree.directoriesWithin here
    return (← places.mapM (select tree rest)).flatten
  | .name name :: rest, here => do
    match ← tree.look (here.child name) with
    | none => return []
    | some node =>
      if rest.isEmpty || node == .directory then select tree rest (here.child name) else return []
  | .glyphs glyphs :: rest, here => do
    let entries ← tree.children here
    let matching := entries.filter fun entry =>
      (rest.isEmpty || entry.2 == .directory) && admits glyphs entry.1.name.toList
    return (← (matching.map Prod.fst).mapM (select tree rest)).flatten

/-- The paths in a directory, and under it, that the components match. -/
def selectWithin (tree : FileTree) (directory : Path) (parts : List PatternPart) :
    Except FileError (List Path) := do
  if ← tree.isDirectory directory then select tree parts directory else return []

/-- The paths in a directory, and under it, that a pattern matches. -/
def find (tree : FileTree) (directory : Path) (pattern : String) : Except SearchError (List Path) :=
  match ofText pattern with
  | .error e => .error (.pattern e)
  | .ok parts => (selectWithin tree directory parts).mapError .file

end Pattern
end PageObjects
