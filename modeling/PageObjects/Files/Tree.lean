import PageObjects.Files.Path

/-!
# Trees of files

A `FileTree` lists directories and files by their places: paths in which two points stand only where
they lead out of the tree, whose directories exist always. A path in which two points follow a
directory's name leads to a place by way of that directory. Operations fail as those of a file system
do: a name is taken, a name or a path is too long, something on the way is no directory, a file is
wanted where a directory stands, or something is not there. Faults that a tree does not tell, such as a
want of permission, are other ones. The Runner reads documents from such a tree and writes its files
into it (specification, 6).

* `FileTree.locate`: the place that a path leads to.
* `FileTree.look`: what stands at a path. That nothing stands there is an answer, but a path that is
  too long has none.
* `FileTree.read`, `FileTree.write`, `FileTree.makeDirectories`: the operations on files.
* `FileTree.children`, `FileTree.directoriesWithin`: what stands in a directory, and under it.
-/

namespace PageObjects

/-- A directory, or a file and its bytes. -/
inductive Node where
  | directory
  | file (bytes : List UInt8)
  deriving DecidableEq, Repr, Inhabited

/-- Directories and files by place. -/
abbrev FileTree := List (Path × Node)

/-- Why an operation on files fails. -/
inductive FileFault where
  | notFound
  | exists
  | notDirectory
  | isDirectory
  | nameTooLong
  | other (number : Nat) (words : String)
  deriving DecidableEq, Repr

/-- The number and the words of a fault. -/
def FileFault.message : FileFault → String
  | .notFound => "[Errno 2] No such file or directory"
  | .exists => "[Errno 17] File exists"
  | .notDirectory => "[Errno 20] Not a directory"
  | .isDirectory => "[Errno 21] Is a directory"
  | .nameTooLong => "[Errno 36] File name too long"
  | .other number words => "[Errno " ++ toString number ++ "] " ++ words

/-- A fault and the path of the operation. -/
structure FileError where
  fault : FileFault
  path : Path
  deriving DecidableEq, Repr

/-- The error in words. -/
def FileError.message (e : FileError) : String :=
  e.fault.message ++ ": " ++ Text.quoted e.path.text

namespace FileTree

/-- What stands at a path without components that lead up again. -/
def at? (tree : FileTree) (p : Path) : Option Node :=
  if p.isAnchor then some .directory else tree.lookup p

/-- The most bytes that a name may take. -/
def nameLimit : Nat := 255

/-- The most bytes that the text of a path may take. -/
def pathLimit : Nat := 4095

/-- The text of the path is too long for any operation. -/
def isTooLong (p : Path) : Bool := pathLimit < p.text.utf8ByteSize

/-- The place that components lead to from `here`: each but the last has to lead to a directory. A
name is looked at once the directory before it is there. -/
def follow (tree : FileTree) : Path → List String → Except FileFault Path
  | here, [] => .ok here
  | here, component :: rest =>
    match tree.at? here with
    | some .directory =>
      if nameLimit < component.utf8ByteSize then .error .nameTooLong
      else tree.follow (here.step component) rest
    | some (.file _) => .error .notDirectory
    | none => .error .notFound

/-- The place of a path. Something may stand there or not, but what is on the way are directories.
Nothing stands at a path with a null character. -/
def locate (tree : FileTree) (p : Path) : Except FileFault Path :=
  if p.hasNull then .error .notFound
  else if isTooLong p then .error .nameTooLong
  else tree.follow { p with parts := [] } p.parts

/-- What stands at a path. -/
def look (tree : FileTree) (p : Path) : Except FileError (Option Node) :=
  match tree.locate p with
  | .ok place => .ok (tree.at? place)
  | .error .nameTooLong => .error ⟨.nameTooLong, p⟩
  | .error _ => .ok none

/-- Something stands at a path. -/
def holds (tree : FileTree) (p : Path) : Bool :=
  match tree.look p with
  | .ok (some _) => true
  | _ => false

/-- Puts a node at a place. -/
def put (tree : FileTree) (p : Path) (node : Node) : FileTree :=
  if (tree.lookup p).isSome then tree.map fun entry => if entry.1 == p then (p, node) else entry
  else tree ++ [(p, node)]

/-- A directory stands at the path. -/
def isDirectory (tree : FileTree) (p : Path) : Except FileError Bool :=
  (tree.look p).map (· == some .directory)

/-- The bytes of a file. -/
def read (tree : FileTree) (p : Path) : Except FileError (List UInt8) :=
  match tree.locate p with
  | .error fault => .error ⟨fault, p⟩
  | .ok place =>
    match tree.at? place with
    | some (.file bytes) => .ok bytes
    | some .directory => .error ⟨.isDirectory, p⟩
    | none => .error ⟨.notFound, p⟩

/-- Makes one directory in a directory that is there. -/
def makeDirectory (tree : FileTree) (p : Path) : Except FileError FileTree :=
  match tree.locate p with
  | .error fault => .error ⟨fault, p⟩
  | .ok place =>
    match tree.at? place with
    | some _ => .error ⟨.exists, p⟩
    | none => .ok (tree.put place .directory)

/-- Makes one directory; one that is there already will do. -/
def ensureDirectory (tree : FileTree) (p : Path) : Except FileError FileTree :=
  match tree.makeDirectory p with
  | .ok made => .ok made
  | .error e =>
    match tree.isDirectory p with
    | .ok true => .ok tree
    | .ok false => .error e
    | .error e => .error e

/-- Makes a directory and what is missing above it, at most `depth` levels; one that is there
already will do. The tree is given also when the directory cannot be made: what was made above it
stays. -/
def makeDirectoriesWithin : Nat → FileTree → Path → FileTree × Except FileError Unit
  | 0, tree, p =>
    match tree.ensureDirectory p with
    | .ok made => (made, .ok ())
    | .error e => (tree, .error e)
  | depth + 1, tree, p =>
    match tree.ensureDirectory p with
    | .ok made => (made, .ok ())
    | .error e =>
      if e.fault == .notFound then
        match makeDirectoriesWithin depth tree p.parent with
        | (above, .error e) => (above, .error e)
        | (above, .ok ()) =>
          match above.ensureDirectory p with
          | .ok made => (made, .ok ())
          | .error e => (above, .error e)
      else (tree, .error e)

/-- Makes a directory and what is missing above it; one that is there already will do. -/
def makeDirectories (tree : FileTree) (p : Path) : FileTree × Except FileError Unit :=
  makeDirectoriesWithin p.parts.length tree p

/-- Writes a file to its end, new or in the place of an old one. What stops a machine on the way is said
by `Refusal`. -/
def write (tree : FileTree) (p : Path) (bytes : List UInt8) : Except FileError FileTree :=
  match tree.locate p with
  | .error fault => .error ⟨fault, p⟩
  | .ok place =>
    match tree.at? place with
    | some .directory => .error ⟨.isDirectory, p⟩
    | _ => .ok (tree.put place (.file bytes))

/-- What stands directly in a directory, under its path. -/
def children (tree : FileTree) (p : Path) : Except FileError (List (Path × Node)) :=
  match tree.locate p with
  | .error fault => .error ⟨fault, p⟩
  | .ok place =>
    .ok <| tree.filterMap fun entry =>
      if !entry.1.isAnchor && entry.1.parent == place then some (p.child entry.1.name, entry.2) else none

/-- A directory and the directories under it, under its path. Each of them is looked into, so none
may have too long a path. -/
def directoriesWithin (tree : FileTree) (p : Path) : Except FileError (List Path) :=
  match tree.locate p with
  | .error fault => .error ⟨fault, p⟩
  | .ok place =>
    let found := p :: tree.filterMap fun entry =>
      if entry.2 == .directory && entry.1 != place && entry.1.isWithin place then
        some (p.join (entry.1.relativeTo place))
      else none
    match found.find? isTooLong with
    | some q => .error ⟨.nameTooLong, q⟩
    | none => .ok found

/-- The directories above a path, from the outermost. -/
def above (p : Path) : List Path :=
  (List.range p.parts.length).filterMap fun n =>
    if n == 0 then none else some { p with parts := p.parts.take n }

/-- The tree with a node at a path and directories above it. -/
def plant (tree : FileTree) (p : Path) (node : Node) : FileTree :=
  ((above p).foldl (fun tree q => if tree.holds q then tree else tree.put q .directory) tree).put
    p node

end FileTree
end PageObjects
