import PageObjects.CommandLine.Program

/-!
# The executable

Reads the arguments, the environment and the files that a call can reach, and puts what
`Program.call` answers into effect.
-/

namespace PageObjects

/-- A directory and everything in it; the bytes of files are read where `contents` holds. A path at
which nothing stands has an empty tree. -/
def readTree (contents : Bool) (p : Path) : IO FileTree := do
  let base := (← IO.currentDir) / p.text
  if !(← base.pathExists) then return []
  let depth := (Path.ofText base.toString).parts.length
  let node (place : String) (isDirectory : Bool) : IO Node :=
    if isDirectory then pure .directory
    else if contents then do return .file (← IO.FS.readBinFile place).toList
    else pure (.file [])
  let mut tree : FileTree := [(p.resolved, ← node base.toString (← base.isDir))]
  if ← base.isDir then
    for found in ← base.walkDir do
      let below : Path := { parts := (Path.ofText found.toString).parts.drop depth }
      tree := tree.put (p.resolved.join below) (← node found.toString (← found.isDir))
  return tree

/-- The directories above a path. -/
def readAbove (p : Path) : IO FileTree := do
  let here ← IO.currentDir
  let mut tree : FileTree := []
  for q in FileTree.above p do
    let place := here / q.text
    if ← place.pathExists then
      tree := tree.put q.resolved (if ← place.isDir then .directory else .file [])
  return tree

/-- The files that a call can reach. -/
def reachable : Option Config → IO FileTree
  | none => pure []
  | some config => do
    let above := (← readAbove config.sourceDir) ++ (← readAbove config.outputDir)
    let source ← readTree true config.sourceDir
    let output ← readTree false config.outputDir
    return source ++ output ++ above

/-- Makes the directories and files that are new or have changed. -/
def putTree (before after : FileTree) : IO Unit :=
  for (p, node) in after do
    if before.lookup p != some node then
      match node with
      | .directory => IO.FS.createDirAll p.text
      | .file bytes => IO.FS.writeBinFile p.text (ByteArray.mk bytes.toArray)

/-- The variables of the environment that configure a run. -/
def readEnvironment : IO (List (String × String)) :=
  Config.environmentNames.filterMapM fun (_, name) => do
    return (← IO.getEnv name).map fun value => (name, value)

end PageObjects

open PageObjects in
/-- Runs the program. -/
def main (arguments : List String) : IO UInt32 := do
  let environment ← readEnvironment
  let tree ← reachable (Program.config? environment arguments)
  match Program.call environment tree arguments with
  | .error _ =>
    IO.eprintln "pagec: error: the documents cannot be compiled"
    return 1
  | .ok response =>
    putTree tree response.tree
    for line in Program.errorLines response do IO.eprintln line
    IO.print response.output
    return response.exitCode.toUInt32
