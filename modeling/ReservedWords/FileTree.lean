import ReservedWords.Path
import ReservedWords.Sorting
import ReservedWords.Text.Lines
import ReservedWords.Text.Quoted
import ReservedWords.Text.Utf8

/-!
File trees: what a program finds on disk, as a value. Paths are followed component by component from
the root or from the working directory, and an operation that cannot be done says why and for which
path.
-/

namespace ReservedWords

/-- Why an operation on a path failed. -/
inductive FileTree.Cause where
  | missing
  | alreadyExists
  | notDirectory
  | isDirectory
  | nameTooLong
  deriving DecidableEq, Repr

/-- A failed operation: its cause and the text of the path it was asked for, or a path that no file
can have. -/
inductive FileTree.Error where
  | failed (cause : FileTree.Cause) (path : String)
  | embeddedNul
  deriving DecidableEq, Repr

/-- What stands at a place. -/
inductive FileTree.Node where
  | directory
  | file (content : Text.Bytes)
  /-- A file that reads as empty and takes whatever is written. -/
  | sink
  deriving DecidableEq, Repr

/-- A place is the list of names that lead to it from the root. -/
abbrev FileTree.Place := List String

/-- Everything but the root, which is always a directory, and the working directory. -/
structure FileTree where
  nodes : List (FileTree.Place × FileTree.Node)
  workingDirectory : FileTree.Place
  deriving DecidableEq, Repr

namespace FileTree

/-- The number of a cause. -/
def Cause.number : Cause → Nat
  | .missing => 2
  | .alreadyExists => 17
  | .notDirectory => 20
  | .isDirectory => 21
  | .nameTooLong => 36

def Cause.words : Cause → String
  | .missing => "No such file or directory"
  | .alreadyExists => "File exists"
  | .notDirectory => "Not a directory"
  | .isDirectory => "Is a directory"
  | .nameTooLong => "File name too long"

/-- The wording of a failed operation. -/
def message (cause : Cause) (path : String) : String :=
  "[Errno " ++ toString cause.number ++ "] " ++ cause.words ++ ": " ++ Text.quoted path

/-- A tree with nothing but an empty working directory and the sink. -/
def initial : FileTree where
  nodes := [(["dev"], .directory), (["dev", "null"], .sink), (["work"], .directory)]
  workingDirectory := ["work"]

/-- What stands at a place. -/
def find? (tree : FileTree) (place : Place) : Option Node :=
  if place = [] then some .directory else tree.nodes.lookup place

/-- Puts a node at a place, instead of what stood there. -/
def put (tree : FileTree) (place : Place) (node : Node) : FileTree :=
  if tree.nodes.any (·.1 == place) then
    { tree with
      nodes := tree.nodes.map fun entry => if entry.1 = place then (place, node) else entry }
  else { tree with nodes := tree.nodes ++ [(place, node)] }

/-- Takes away a place and everything below it. -/
def erase (tree : FileTree) (place : Place) : FileTree :=
  { tree with nodes := tree.nodes.filter fun entry => !place.isPrefixOf entry.1 }

/-- The longest name, in bytes. -/
def nameLimit : Nat := 255

/-- Paths of this many bytes and more are too long. -/
def pathLimit : Nat := 4096

/-- Follows the pieces of a path from a place. Only the last piece may lead to nothing. -/
def follow (tree : FileTree) : Place → List String → Except Cause Place
  | place, [] => .ok place
  | place, piece :: rest =>
    match tree.find? place with
    | none => .error .missing
    | some .directory =>
      if piece = "." then follow tree place rest
      else if piece = ".." then follow tree place.dropLast rest
      else if nameLimit < piece.utf8ByteSize then .error .nameTooLong
      else follow tree (place ++ [piece]) rest
    | some _ => .error .notDirectory

/-- The place that the text of a path leads to. -/
def resolve (tree : FileTree) (path : String) : Except Error Place :=
  if path.toList.contains '\x00' then .error .embeddedNul
  else
    let located :=
      if path.utf8ByteSize = 0 then .error .missing
      else if pathLimit ≤ path.utf8ByteSize then .error .nameTooLong
      else
        let start := if path.toList.head? = some '/' then [] else tree.workingDirectory
        follow tree start (((Path.pieces path.toList).filter (· ≠ [])).map String.ofList)
    located.mapError (.failed · path)

/-- What stands at the end of a path. -/
def status (tree : FileTree) (path : String) : Except Error (Place × Option Node) := do
  let place ← tree.resolve path
  return (place, tree.find? place)

/-- Whether a path leads to a directory. -/
def isDirectory (tree : FileTree) (path : String) : Bool :=
  match tree.status path with
  | .ok (_, some .directory) => true
  | _ => false

/-- The content of the file at the end of a path. -/
def read (tree : FileTree) (path : String) : Except Error Text.Bytes :=
  match tree.status path with
  | .error error => .error error
  | .ok (_, some (.file content)) => .ok content
  | .ok (_, some .sink) => .ok []
  | .ok (_, some .directory) => .error (.failed .isDirectory path)
  | .ok (_, none) => .error (.failed .missing path)

/-- Why a file has no text. -/
inductive TextError where
  | file (error : Error)
  | undecodable (fault : Text.DecodeFault)
  deriving DecidableEq, Repr

/-- The text of a file, with every line ending read as a line feed. -/
def readText (tree : FileTree) (path : String) : Except TextError String :=
  match tree.read path with
  | .error error => .error (.file error)
  | .ok content =>
    match Text.decode content with
    | .error fault => .error (.undecodable fault)
    | .ok text => .ok (String.ofList (Text.normalizeNewlines text.toList))

/-- Writes a file, new or in place of another. -/
def write (tree : FileTree) (path : String) (content : Text.Bytes) : Except Error FileTree :=
  match tree.status path with
  | .error error => .error error
  | .ok (_, some .directory) => .error (.failed .isDirectory path)
  | .ok (_, some .sink) => .ok tree
  | .ok (place, _) => .ok (tree.put place (.file content))

/-- Makes one directory. -/
def makeDirectory (tree : FileTree) (path : String) : Except Error FileTree :=
  match tree.status path with
  | .error error => .error error
  | .ok (_, some _) => .error (.failed .alreadyExists path)
  | .ok (place, none) => .ok (tree.put place .directory)

/-- Makes a directory whose parents are there; a directory that is already there will do. -/
def ensureLast (tree : FileTree) (path : Path) : FileTree × Except Error Unit :=
  match tree.makeDirectory path.text with
  | .ok made => (made, .ok ())
  | .error (.failed .missing text) => (tree, .error (.failed .missing text))
  | .error (.failed cause text) =>
    (tree, if tree.isDirectory path.text then .ok () else .error (.failed cause text))
  | .error .embeddedNul => (tree, .error .embeddedNul)

/-- Makes a directory and those above it that are missing, given its components from the last to the
first. -/
def ensureFrom (tree : FileTree) (root : Path.Root) : List String → FileTree × Except Error Unit
  | [] => tree.ensureLast ⟨root, []⟩
  | name :: above =>
    let path : Path := ⟨root, (name :: above).reverse⟩
    match tree.ensureLast path with
    | (_, .error (.failed .missing _)) =>
      match tree.ensureFrom root above with
      | (tree, .ok ()) => tree.ensureLast path
      | failed => failed
    | done => done

/-- Makes a directory and those above it that are missing. What has been made stays even if a later
step fails. -/
def ensureDirectory (tree : FileTree) (path : Path) : FileTree × Except Error Unit :=
  tree.ensureFrom path.root path.parts.reverse

/-- The names in the directory at the end of a path, sorted; nothing if it is none. -/
def list? (tree : FileTree) (path : String) : Option (List String) :=
  match tree.status path with
  | .ok (place, some .directory) =>
    some (sortTexts (tree.nodes.filterMap fun (other, _) =>
      if other.dropLast = place then other.getLast? else none))
  | _ => none

/-- Puts a node at a place and makes everything above it a directory. -/
def install (tree : FileTree) (place : Place) (node : Node) : FileTree :=
  let above := (List.range place.length).tail.map place.take
  let prepared := above.foldl (fun tree upper =>
    if tree.find? upper = some .directory then tree else tree.put upper .directory) tree
  (prepared.erase place).put place node

end FileTree

end ReservedWords
