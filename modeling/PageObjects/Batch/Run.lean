import PageObjects.Batch.Config
import PageObjects.Files.Pattern
import PageObjects.PageClass.Java
import PageObjects.PageClass.OfDocument

/-!
# Batch runs

A run finds the documents under the source directory, in the order of their paths, and compiles each:
its class is written below the output directory, or the error is kept in its result, and the next
document is compiled all the same. A document's path gives the name and the package of its class.
This is the Runner of the specification (2, 5 and 7): `Config.compileFile` compiles one document, and
`Config.run` all of them. `outputPaths` and `writeClass` write the files of its section 6.

Only the errors of the compiler and of operations on files are kept in results. What else goes wrong
with a document ends the run (`RunError`): the reader meets a limit of its own, the output path holds a
null character, which no file can have, or the machine cannot encode a text that is to be written.
-/

namespace PageObjects

/-! ## Names of documents -/

/-- The endings of the names of documents; the first that fits is taken off. -/
def documentEndings : List String := [".utam.json", ".json"]

/-- The name of a document's file without its ending. -/
def documentStem (fileName : String) : String :=
  let cs := fileName.toList
  match documentEndings.find? fun ending => ending.toList.isSuffixOf cs with
  | some ending => String.ofList (cs.take (cs.length - ending.length))
  | none => fileName

/-- The name of the page object in a file: the parts between hyphens and underscores, capitalized. -/
def pageObjectName (fileName : String) : String :=
  let words := (documentStem fileName).toList.splitOnP fun c => c == '-' || c == '_'
  String.join ((words.filter fun word => !word.isEmpty).map fun word =>
    Text.capitalize (String.ofList word))

/-! ## Writing -/

/-- The files of a page class below a directory: the interface and the class. -/
def outputPaths (c : PageClass) (directory : Path) : Path × Path :=
  let base := if c.package.isEmpty then directory
    else directory.joinTexts (ResultType.parts '.' c.package)
  (base.join (.ofText (c.name ++ ".java")),
    (base.join (.ofText "impl")).join (.ofText (c.implementationName ++ ".java")))

/-- Why a document is not compiled. -/
inductive BatchError where
  | read (e : FileError)
  | compile (e : CompileError)
  | write (path : Path) (e : FileError)
  deriving DecidableEq, Repr

/-- The error in words. -/
def BatchError.message : BatchError → String
  | .read e => e.message
  | .compile e => e.message
  | .write path e => "Failed to write " ++ path.text ++ ": " ++ e.message

/-- Makes the directories above a file, or those of them that the machine lets be made. The tree that is
left by a failure is given with the fault. -/
def makeWay (refusal? : Option Refusal) (tree : FileTree) (path : Path) :
    FileTree × Except WriteFault Unit :=
  match refusal? with
  | some (.directories depth refused) =>
    match tree.makeDirectories { path.parent with parts := path.parent.parts.take depth } with
    | (made, .error e) => (made, .error (.file path e))
    | (made, .ok ()) => (made, .error (.file path refused))
  | _ =>
    match tree.makeDirectories path.parent with
    | (made, .error e) => (made, .error (.file path e))
    | (made, .ok ()) => (made, .ok ())

/-- Writes a text to a file whose directory is there, or what the machine lets be written of it. -/
def writeText (refusal? : Option Refusal) (tree : FileTree) (path : Path) (source : String) :
    FileTree × Except WriteFault Unit :=
  match refusal? with
  | some (.opening e) => (tree, .error (.file path e))
  | _ =>
    match tree.write path (Refusal.left refusal? source.toUTF8.toList) with
    | .error e => (tree, .error (.file path e))
    | .ok written => (written, Refusal.reported refusal? path)

/-- Writes one file, with the directories above it. -/
def writeSource (refusal? : Option Refusal) (tree : FileTree) (path : Path) (source : String) :
    FileTree × Except WriteFault Unit :=
  match makeWay refusal? tree path with
  | (made, .error e) => (made, .error e)
  | (made, .ok ()) => writeText refusal? made path source

/-- Writes the interface and then the class. -/
def writeClass (refusal? : Path → Option Refusal) (tree : FileTree) (c : PageClass)
    (directory : Path) : FileTree × Except WriteFault (List Path) :=
  let (interfacePath, classPath) := outputPaths c directory
  match writeSource (refusal? interfacePath) tree interfacePath (Java.interfaceSource c) with
  | (tree, .error e) => (tree, .error e)
  | (tree, .ok ()) =>
    match writeSource (refusal? classPath) tree classPath (Java.classSource c) with
    | (tree, .error e) => (tree, .error e)
    | (tree, .ok ()) => (tree, .ok [interfacePath, classPath])

/-! ## Results -/

/-- What became of one document: the files written, or the error. -/
structure BatchResult where
  source : Path
  name : String
  package : String
  outcome : Except BatchError (List Path)

namespace BatchResult

/-- The name with its package. -/
def fullName (r : BatchResult) : String := qualified r.package r.name

/-- The document was compiled. -/
def succeeded (r : BatchResult) : Bool :=
  match r.outcome with
  | .ok _ => true
  | .error _ => false

/-- The files written. -/
def files (r : BatchResult) : List Path :=
  match r.outcome with
  | .ok paths => paths
  | .error _ => []

/-- The error in words. -/
def error? (r : BatchResult) : Option String :=
  match r.outcome with
  | .ok _ => none
  | .error e => some e.message

/-- What is logged as an error: one line for a document that is not compiled, and one before it when
the document was loaded. -/
def log (r : BatchResult) : List String :=
  match r.outcome with
  | .ok _ => []
  | .error e =>
    let failed := "Failed to compile " ++ r.source.text ++ ": " ++ e.message
    match e with
    | .compile ⟨_, .load _⟩ => [failed]
    | .compile ⟨fullName, cause⟩ =>
      [s!"Failed to translate page object '{fullName}': " ++ cause.message, failed]
    | _ => [failed]

end BatchResult

/-- What becomes of a run: the results in the order of the documents, and the files after it. -/
structure BatchSummary where
  results : List BatchResult
  tree : FileTree

namespace BatchSummary

/-- The results of the documents that were compiled. -/
def succeeded (s : BatchSummary) : List BatchResult := s.results.filter BatchResult.succeeded

/-- The results of the other documents. -/
def failed (s : BatchSummary) : List BatchResult := s.results.filter fun r => !r.succeeded

/-- Every document was compiled. -/
def isSuccess (s : BatchSummary) : Bool := s.failed.isEmpty

end BatchSummary

/-- Why a run ends without results: the search fails, or a document brings about an error that is not
kept in its result. -/
inductive RunError where
  | search (e : SearchError)
  | beyond (limit : ReaderLimit)
  | nullInPath
  | unencodable
  deriving DecidableEq, Repr

namespace Config

/-- The documents under the source directory, each once, in the order of their paths. -/
def discover (c : Config) (tree : FileTree) : Except SearchError (List Path) := do
  let found ← c.filePatterns.mapM (Pattern.find tree c.sourceDir)
  return found.flatten.eraseDups.mergeSort Path.le

/-- The name and the package of the page object in a document: directories under the source
directory become segments of the package. -/
def identity (c : Config) (path : Path) : String × String :=
  let directories := (path.relativeTo c.sourceDir).parts.dropLast
  let segments := (if c.basePackage.isEmpty then [] else [c.basePackage]) ++ directories.map Text.lower
  (pageObjectName path.name, ".".intercalate segments)

/-- The bytes of a document, if the machine can read it. -/
def read (c : Config) (tree : FileTree) (path : Path) : Except FileError (List UInt8) :=
  match c.machine.unreadable? path with
  | some e => .error e
  | none => tree.read path

/-- The page class of a document, by its path and its bytes. -/
def classOf (c : Config) (path : Path) (bytes : List UInt8) : Except CompileError PageClass :=
  PageClass.ofSource (.bytes bytes c.machine.levels) (c.identity path).1 (c.identity path).2

/-- Compiles one document. -/
def compileFile (c : Config) (tree : FileTree) (path : Path) :
    Except RunError (FileTree × BatchResult) :=
  let (name, package) := c.identity path
  let failed (tree : FileTree) (e : BatchError) : Except RunError (FileTree × BatchResult) :=
    .ok (tree, ⟨path, name, package, .error e⟩)
  match c.read tree path with
  | .error e => failed tree (.read e)
  | .ok bytes =>
    match c.classOf path bytes with
    | .error e =>
      match e.cause.limit? with
      | some limit => .error (.beyond limit)
      | none => failed tree (.compile e)
    | .ok pageClass =>
      if (outputPaths pageClass c.outputDir).1.hasNull then .error .nullInPath
      else
        match writeClass (c.machine.refusal? path) tree pageClass c.outputDir with
        | (_, .error .unencodable) => .error .unencodable
        | (left, .error (.file output e)) => failed left (.write output e)
        | (written, .ok files) => .ok (written, ⟨path, name, package, .ok files⟩)

/-- Compiles documents one after the other. -/
def compileAll (c : Config) : FileTree → List Path → Except RunError (FileTree × List BatchResult)
  | tree, [] => .ok (tree, [])
  | tree, path :: rest =>
    match c.compileFile tree path with
    | .error e => .error e
    | .ok (tree, result) =>
      match compileAll c tree rest with
      | .error e => .error e
      | .ok (tree, results) => .ok (tree, result :: results)

/-- Runs a batch. -/
def run (c : Config) (tree : FileTree) : Except RunError BatchSummary :=
  match c.discover tree with
  | .error e => .error (.search e)
  | .ok paths =>
    match c.compileAll tree paths with
    | .error e => .error e
    | .ok (tree, results) => .ok { results, tree }

end Config
end PageObjects
