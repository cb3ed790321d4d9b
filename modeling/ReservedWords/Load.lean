import ReservedWords.Analysis
import ReservedWords.Config
import ReservedWords.Grammar.Tables
import ReservedWords.LoadError
import ReservedWords.Log

/-!
Loading: from a grammar file to its tables. The grammar is read, the scratch directory made, the
grammar taken apart and analysed; if all that succeeds, the analysis leaves a file in the scratch
directory when its parser has tables of its own, and the tables are published.
-/

namespace ReservedWords

/-- Why a load has no tables. -/
inductive LoadOutcome.Failure where
  | unusable (error : LoadError)
  /-- The grammar at a path is rejected. -/
  | rejected (path : Path) (error : Grammar.Error)
  | defect (defect : Defect)
  deriving DecidableEq, Repr

namespace Load

open LoadOutcome (Failure)

variable [Installation]

/-- A file that cannot be used ends a load. -/
def ofFile : LoadFailure → Failure
  | .unusable error => .unusable error
  | .defect defect => .defect defect

/-- A grammar without tables ends a load. -/
def ofGrammar (path : Path) : Grammar.Failure → Failure
  | .rejected error => .rejected path error
  | .defect defect => .defect defect

/-- The wording of a rejection names the grammar first. -/
def rejection (path : Path) (error : Grammar.Error) : String :=
  path.text ++ ": " ++ error.message

/-- The tables of a grammar text that passes the analysis of the options. -/
def analysed (tree : FileTree) (path : Path) (options : Options) (text : String)
    : Except Grammar.Failure Tables := do
  let grammar ← Grammar.read ⟨tree, path.parent.text⟩ path.text text
  Analysis.checkParser options
  let compiled ← Grammar.Compiled.ofGrammar grammar
  Analysis.check options compiled
  return grammar.tablesOf compiled

/-- The ending of the file that an analysis leaves. -/
def cacheEnding : String := ".lark-cache"

/-- The path of the file that the analysis of a grammar leaves. -/
def cachePath (path scratch : Path) : Path :=
  scratch.child (path.stem ++ cacheEnding)

/-- What the analysis leaves. Only that it is there matters; the bytes are never a text. -/
def cacheContent : Text.Bytes :=
  List.replicate 64 0x30 ++ [0x0A, 0x80]

/-- Leaves the file of an analysis. That it cannot be written does not matter. -/
def leaveCache (tree : FileTree) (path scratch : Path) (options : Options) : FileTree :=
  if options.parser = "lalr" then
    match tree.write (cachePath path scratch).text cacheContent with
    | .ok written => written
    | .error _ => tree
  else tree

/-- Loads the grammar at a path. -/
def run (tree : FileTree) (path scratch : Path) (options : Options)
    : FileTree × Except Failure Tables :=
  match readGrammar tree path with
  | .error error => (tree, .error (ofFile error))
  | .ok text =>
    match prepareScratch tree scratch with
    | (tree, .error error) => (tree, .error (ofFile error))
    | (tree, .ok ()) =>
      match analysed tree path options text with
      | .error error => (tree, .error (ofGrammar path error))
      | .ok tables => (leaveCache tree path scratch options, .ok tables)

/-- What is reported of a load with the given result. -/
def records (path : Path) (result : Except Failure Tables) : List Log.Record :=
  ⟨.info, .loader, "reading keywords from grammar " ++ path.text⟩
    :: match result with
      | .error _ => []
      | .ok tables =>
        [⟨.info, .loader,
          "loaded " ++ toString tables.tokens.size ++ " named tokens and "
            ++ toString tables.productions.size ++ " productions"⟩]

end Load

end ReservedWords
