/-!
Paths in their normal text form: repeated slashes and single-dot components collapse, a slash at the
end goes, double dots stay, the empty path is a dot, and exactly two leading slashes stay two.
-/

namespace ReservedWords

/-- Where a path starts. -/
inductive Path.Root where
  | workingDirectory
  | slash
  | doubleSlash
  deriving DecidableEq, Repr

/-- A path: where it starts and its components, none of which is empty or a single dot. -/
structure Path where
  root : Path.Root
  parts : List String
  deriving DecidableEq, Repr

namespace Path

/-- The pieces of a text between slashes. -/
def pieces : List Char → List (List Char)
  | [] => [[]]
  | c :: rest =>
    if c = '/' then [] :: pieces rest
    else
      match pieces rest with
      | [] => [[c]]
      | piece :: others => (c :: piece) :: others

/-- A piece names a component unless it is empty or a single dot. -/
def isComponent (piece : List Char) : Bool :=
  piece ≠ [] && piece ≠ ['.']

/-- The components that a text names. -/
def components (text : String) : List String :=
  ((pieces text.toList).filter isComponent).map String.ofList

/-- Where a text starts: two slashes are special, any other number is one. -/
def rootOf : List Char → Root
  | '/' :: '/' :: '/' :: _ => .slash
  | '/' :: '/' :: _ => .doubleSlash
  | '/' :: _ => .slash
  | _ => .workingDirectory

/-- The path that a text names. -/
def ofString (text : String) : Path :=
  ⟨rootOf text.toList, components text⟩

/-- The start of the text of a path. -/
def Root.text : Root → String
  | .workingDirectory => ""
  | .slash => "/"
  | .doubleSlash => "//"

/-- The text of a path. -/
def text (path : Path) : String :=
  match path.root, path.parts with
  | .workingDirectory, [] => "."
  | root, parts => root.text ++ "/".intercalate parts

/-- The path without its last component; a path without components is its own parent. -/
def parent (path : Path) : Path :=
  { path with parts := path.parts.dropLast }

/-- The last component; empty if there is none. -/
def name (path : Path) : String :=
  path.parts.getLast?.getD ""

/-- The path of a name inside a directory. -/
def child (path : Path) (name : String) : Path :=
  { path with parts := path.parts ++ [name] }

/-- A name up to its last dot, if characters stand on both sides of it. -/
def stemOf (name : List Char) : List Char :=
  let ending := name.reverse.takeWhile (· ≠ '.')
  let before := name.take (name.length - ending.length - 1)
  if ending.length < name.length ∧ ending ≠ [] ∧ before ≠ [] then before else name

/-- The name without its ending. -/
def stem (path : Path) : String :=
  String.ofList (stemOf path.name.toList)

end Path

end ReservedWords
