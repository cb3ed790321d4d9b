import ReservedWords.CommandLine.Program

/-!
The program itself. What a command line can touch is looked up on disk and put into a file tree; the
command line is carried out on the tree; what has changed in the tree is then written to disk.
-/

namespace ReservedWords.Main

open CommandLine Grammar

/-- The place of the working directory. -/
def workingPlace : IO FileTree.Place := do
  return (Path.ofString (← IO.currentDir).toString).parts

/-- The text of the path from the root to a place. -/
def placeText (place : FileTree.Place) : String :=
  "/" ++ "/".intercalate place

/-- Puts what stands on disk at a place into a tree. -/
def observePlace (tree : FileTree) (place : FileTree.Place) : IO FileTree := do
  let path := (← IO.currentDir) / placeText place
  if ← path.isDir then return tree.put place .directory
  else if ← path.pathExists then
    return tree.put place (.file (← IO.FS.readBinFile path).toList)
  else return tree

/-- Follows the pieces of a path from a place and puts everything on the way into a tree. -/
def observeFrom (tree : FileTree) (place : FileTree.Place) : List String → IO FileTree
  | [] => return tree
  | piece :: rest => do
    let next :=
      if piece = "" ∨ piece = "." then place
      else if piece = ".." then place.dropLast
      else place ++ [piece]
    observeFrom (← observePlace tree next) next rest

/-- Puts everything on the way to the end of a path into a tree. -/
def observe (tree : FileTree) (path : String) : IO FileTree :=
  let start := if path.toList.head? = some '/' then [] else tree.workingDirectory
  observeFrom tree start ((Path.pieces path.toList).map String.ofList)

/-- Where the grammars are looked for that a grammar text imports. -/
def importedPaths (directory name text : String) : List String :=
  match Draft.statements text >>= ImportRequest.collect name with
  | .error _ => []
  | .ok requests =>
    requests.flatMap fun request =>
      request.file
        :: (directory :: request.base.toList).map (ImportRequest.join · request.file)

/-- Puts a grammar and the grammars that it imports into a tree. -/
partial def observeGrammars (directory : String) (tree : FileTree) (seen : List String)
    : List String → IO FileTree
  | [] => return tree
  | name :: rest => do
    if seen.contains name then observeGrammars directory tree seen rest
    else
      let tree ← observe tree name
      let imported :=
        match tree.readText name with
        | .ok text => importedPaths directory name text
        | .error _ => []
      observeGrammars directory tree (name :: seen) (imported ++ rest)

/-- Puts everything that a request can touch into a tree. -/
def observeRequest (tree : FileTree) (request : Request) : IO FileTree := do
  let tree ←
    match request.configPath with
    | some path => observe tree path.text
    | none => pure tree
  match request.config tree with
  | .error _ => return tree
  | .ok config =>
    let cache := Load.cachePath config.grammarPath config.scratchDirectory
    let other :=
      match request.action with
      | .extract (some output) => output
      | .extract none => config.scratchDirectory
      | .check expected => expected
    let tree ← observe (← observe tree cache.text) other.text
    observeGrammars config.grammarPath.parent.text tree [] [config.grammarPath.text]

/-- Writes to disk what is new or different in a tree. -/
def writeChanges (before after : FileTree) : IO Unit := do
  for (place, node) in after.nodes do
    if before.find? place ≠ some node then
      let path := (← IO.currentDir) / placeText place
      match node with
      | .directory => IO.FS.createDirAll path
      | .file content => IO.FS.writeBinFile path ⟨content.toArray⟩
      | .sink => pure ()

end ReservedWords.Main

open scoped ReservedWords.Standard in
/-- Carries out a command line. -/
def main (words : List String) : IO UInt32 := do
  let place ← ReservedWords.Main.workingPlace
  let empty : ReservedWords.FileTree := { nodes := [], workingDirectory := place }
  let start ← ReservedWords.Main.observeFrom empty [] place
  let tree ←
    match ReservedWords.CommandLine.Request.ofWords words with
    | .ok request => ReservedWords.Main.observeRequest start request
    | .error _ => pure start
  let result := ReservedWords.CommandLine.run words tree
  ReservedWords.Main.writeChanges tree result.tree
  IO.print result.output
  IO.eprint result.errors
  match result.exit with
  | .ok code => return UInt32.ofNat code
  | .error _ =>
    IO.eprintln "unexpected failure"
    return 1
