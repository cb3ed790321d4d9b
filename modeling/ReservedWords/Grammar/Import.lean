import ReservedWords.Grammar.Diagnosis
import ReservedWords.Grammar.Draft
import ReservedWords.Installation

/-!
Imports: a grammar text with everything it takes from other grammars. The definitions of an imported
grammar come before those of the importing one; those that are not asked for by name are renamed, and
only what the names asked for need is kept.
-/

namespace ReservedWords.Grammar

variable [Installation]

/-- What is to be imported from one grammar. -/
structure ImportRequest where
  path : List String
  /-- The directory that a relative import starts from. -/
  base : Option String
  /-- The names that are asked for, each with the name it gets. -/
  names : Dictionary String

/-- Where imported grammars are looked for first. -/
structure ImportContext where
  tree : FileTree
  directory : String

namespace ImportRequest

/-- The directory part of the text of a path. -/
def directoryOf (path : String) : String :=
  let head := (path.toList.reverse.dropWhile (· ≠ '/')).reverse
  if head.all (· = '/') then String.ofList head
  else String.ofList (head.reverse.dropWhile (· = '/')).reverse

/-- The text of a path inside a directory. -/
def join (directory file : String) : String :=
  if directory = "" ∨ Options.endsWith directory "/" then directory ++ file
  else directory ++ "/" ++ file

/-- The relative path of the grammar. -/
def file (request : ImportRequest) : String :=
  "/".intercalate request.path ++ ".lark"

/-- The request of a single import statement in the grammar with the given name. -/
def ofStatement (grammar : String) (relative : Bool) (path : List String) (names : ImportNames)
    : Except Failure ImportRequest :=
  let base := if relative then some (directoryOf grammar) else none
  let single (newName : Option String) : Except Failure ImportRequest :=
    match path with
    | [name] => .error (.rejected (.nothingImported name))
    | _ =>
      let name := path.getLast?.getD ""
      .ok ⟨path.dropLast, base, Dictionary.empty.insert name (newName.getD name)⟩
  match names with
  | .last => single none
  | .as newName => single (some newName)
  | .list names => .ok ⟨path, base, Dictionary.ofList (names.map fun name => (name, name))⟩

/-- Adds a request to those made before; requests for one path are served together and must start
from the same place. -/
def add (requests : List ImportRequest) (request : ImportRequest)
    : Except Failure (List ImportRequest) :=
  match requests with
  | [] => .ok [request]
  | known :: others =>
    if known.path = request.path then
      if known.base = request.base then
        let names := request.names.entries.foldl (fun names entry =>
          names.insert entry.1 entry.2) known.names
        .ok ({ known with names } :: others)
      else .error (.defect .brokenAssumption)
    else (add others request).map (known :: ·)

/-- The requests of all import statements of a grammar. -/
def collect (grammar : String) (statements : List Statement)
    : Except Failure (List ImportRequest) :=
  statements.foldlM (fun requests statement =>
    match statement with
    | .import relative path names => do
      add requests (← ofStatement grammar relative path names)
    | _ => .ok requests) []

/-- Tries the directories in their order, and gives the name and the text of the first grammar that
is there. -/
def searchIn (tree : FileTree) (file : String)
    : List String → Except Failure (Option (String × String))
  | [] => .ok none
  | directory :: directories =>
    let name := join directory file
    match tree.readText name with
    | .ok text => .ok (some (name, text))
    | .error (.undecodable _) => .error (.defect .undecodable)
    | .error (.file _) => searchIn tree file directories

/-- The name and the text of the grammar that is asked for. The library is the last place and only
for imports that are not relative. Where nothing is found, opening the file fails, or it is in a
place where no grammar is looked for. -/
def search (context : ImportContext) (request : ImportRequest)
    : Except Failure (String × String) := do
  let file := request.file
  match ← searchIn context.tree file (context.directory :: request.base.toList) with
  | some found => return found
  | none =>
    match if request.base.isNone then Installation.grammar? file else none with
    | some text => return (file, text)
    | none =>
      match context.tree.read file with
      | .ok _ => throw (.defect .brokenAssumption)
      | .error error => throw (.defect (.ofFile error))

/-- The name that a definition of an imported grammar gets: the one it is asked for under, else its
own after the path, with a leading underscore kept in front. -/
def rename (request : ImportRequest) (outer : Option (String → String)) (name : String) : String :=
  let path := "__".intercalate request.path
  let renamed :=
    match request.names.get? name with
    | some newName => newName
    | none =>
      match name.toList with
      | '_' :: rest => "_" ++ path ++ "__" ++ String.ofList rest
      | _ => path ++ "__" ++ name
  match outer with
  | some f => f renamed
  | none => renamed

end ImportRequest

namespace Draft

/-- The names that a definition needs. A rule that is only declared has no body to look into. -/
def needs (draft : Draft) (name : String) : Except Failure (List String) :=
  match draft.meanings.get? name with
  | some (.rule parameters (some body) _) =>
    .ok ((body.usedSymbols.map Symbol.name).filter fun used => !parameters.contains used)
  | some (.rule _ none _) => .error (.defect .noSuchMember)
  | _ => .ok []

/-- The names that can be reached from some names, those included. -/
def reachNames (draft : Draft) : (fuel : Nat) → (found pending : List String)
    → Except Failure (List String)
  | _, found, [] => .ok found
  | 0, found, _ => .ok found
  | fuel + 1, found, name :: pending => do
    let needed := (← draft.needs name).eraseDups.filter fun used => !found.contains used
    draft.reachNames fuel (found ++ needed) (pending ++ needed)

/-- More names than a draft can mention. -/
def nameBound (draft : Draft) : Nat :=
  draft.meanings.values.foldl (fun total meaning =>
    match meaning with
    | .rule _ (some body) _ => total + body.symbols.length + 1
    | _ => total + 1) 0

/-- Keeps what some names need. -/
def keep (draft : Draft) (names : List String) : Except Failure Draft := do
  let names := names.eraseDups
  let found ← draft.reachNames (names.length + draft.nameBound) names names
  return { draft with meanings := draft.meanings.filter fun name _ => found.contains name }

/-- Adds the definitions of an imported grammar. -/
def merge (draft imported : Draft) (file : String) : Except Failure Draft :=
  match imported.meanings.keys.find? draft.meanings.contains with
  | some name => reject (.alreadyDefined name file)
  | none =>
    .ok
      { draft with
        cells := imported.cells
        meanings := imported.meanings.entries.foldl (fun meanings entry =>
          meanings.insert entry.1 entry.2) draft.meanings }

/-- The statements of a text, or the rejection of its first lexeme out of place. -/
def statements (text : String) : Except Failure (List Statement) :=
  match Statement.ofText text with
  | .ok statements => .ok statements
  | .error lexeme =>
    reject (.syntaxError lexeme.line lexeme.column (Diagnosis.isKnownMistake text))

/-- The definitions of a grammar text: imports, then statements, then the links between terminals.
`depth` bounds how deep imports are nested; deeper ones never end. -/
def ofText (context : ImportContext) : (depth : Nat) → (name text : String)
    → (rename : Option (String → String)) → (cells : List Body) → Except Failure Draft
  | 0, _, _, _, _ => .error (.defect .endlessRecursion)
  | depth + 1, name, text, rename, cells => do
    let statements ← statements text
    let requests ← ImportRequest.collect name statements
    let draft ← requests.foldlM (fun draft request => do
      let (found, text) ← request.search context
      let renameAll := request.rename rename
      let imported ← ofText context depth found text (some renameAll) draft.cells
      let kept ← imported.keep (request.names.keys.map renameAll)
      draft.merge kept request.file) { cells }
    let draft ← statements.foldlM (perform rename) draft
    draft.link

end Draft

end ReservedWords.Grammar
