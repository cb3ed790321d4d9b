import ReservedWords.Expectation

/-!
The files of a run: the grammar, the scratch directory and the expectation list. Where one of them
cannot be used, the error names it by its path.
-/

namespace ReservedWords

/-- A file or directory that cannot be used. -/
inductive LoadError where
  | grammarFile (path : Path) (cause : FileTree.Cause) (file : String)
  | grammarText (path : Path) (fault : Text.DecodeFault)
  | scratchDirectory (path : Path) (cause : FileTree.Cause) (file : String)
  | expectationFile (path : Path) (cause : FileTree.Cause) (file : String)
  deriving DecidableEq, Repr

/-- Why a file is of no use: it is reported, or a defect. -/
inductive LoadFailure where
  | unusable (error : LoadError)
  | defect (defect : Defect)
  deriving DecidableEq, Repr

namespace LoadError

/-- The wording of an unusable file. -/
def message : LoadError → String
  | grammarFile path cause file =>
    "cannot read grammar file " ++ path.text ++ ": " ++ FileTree.message cause file
  | grammarText path fault => "cannot read grammar file " ++ path.text ++ ": " ++ fault.message
  | scratchDirectory path cause file =>
    "cannot create scratch directory " ++ path.text ++ ": " ++ FileTree.message cause file
  | expectationFile path cause file =>
    "cannot read expectation list " ++ path.text ++ ": " ++ FileTree.message cause file

end LoadError

/-- The text of a grammar file. -/
def readGrammar (tree : FileTree) (path : Path) : Except LoadFailure String :=
  match tree.readText path.text with
  | .ok text => .ok text
  | .error (.file (.failed cause file)) => .error (.unusable (.grammarFile path cause file))
  | .error (.undecodable fault) => .error (.unusable (.grammarText path fault))
  | .error (.file .embeddedNul) => .error (.defect .badValue)

/-- Makes the scratch directory. -/
def prepareScratch (tree : FileTree) (path : Path) : FileTree × Except LoadFailure Unit :=
  match tree.ensureDirectory path with
  | (tree, .ok ()) => (tree, .ok ())
  | (tree, .error (.failed cause file)) =>
    (tree, .error (.unusable (.scratchDirectory path cause file)))
  | (tree, .error .embeddedNul) => (tree, .error (.defect .badValue))

/-- The labels of an expectation file. -/
def readExpectation (tree : FileTree) (path : Path) : Except LoadFailure (List String) :=
  match Expectation.read tree path with
  | .ok labels => .ok labels
  | .error (.file (.failed cause file)) => .error (.unusable (.expectationFile path cause file))
  | .error error => .error (.defect (Defect.ofText error))

end ReservedWords
