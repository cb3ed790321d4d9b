import ReservedWords.Proofs.CommandLine.Effects

/-!
Expectation lists that cannot be read. A list cannot be read if and only if a grammar in the same file
could not be either, and mostly both are reported alike; but that a file is no text is reported of a
grammar only, and of a list it is a defect, which ends a check without an exit code.
-/

namespace ReservedWords

-----------------------------------------------------------------------------------------
-- Two readers of one file
-----------------------------------------------------------------------------------------

/-- The file at the end of a path has bytes that are the encoding of no text. -/
def FileTree.HoldsNoText (tree : FileTree) (path : String) : Prop :=
  ∃ bytes, tree.read path = .ok bytes ∧ ∀ text, bytes ≠ Text.encode text

/-- What is read at a path as a grammar, and what is read there as a list. -/
inductive ReadAs (tree : FileTree) (path : Path)
    : Except LoadFailure String → Except LoadFailure (List String) → Prop
  | text (text : String) : ReadAs tree path (.ok text) (.ok (Expectation.labels text))
  /-- A file that cannot be used is reported of both. -/
  | unusable (cause : FileTree.Cause) (file : String)
    : ReadAs tree path (.error (.unusable (.grammarFile path cause file)))
        (.error (.unusable (.expectationFile path cause file)))
  /-- A file that is no text is reported of a grammar, and is a defect of a list. -/
  | noText (fault : Text.DecodeFault) (undecodable : tree.HoldsNoText path.text)
    : ReadAs tree path (.error (.unusable (.grammarText path fault)))
        (.error (.defect .undecodable))
  /-- A path that no file can have is a defect of both. -/
  | nul (present : '\x00' ∈ path.text.toList)
    : ReadAs tree path (.error (.defect .badValue)) (.error (.defect .badValue))

section

variable {tree : FileTree} {path : Path}

/-- Both readers see one text or one fault, so the cases are those of the text of the file. -/
theorem readAs (tree : FileTree) (path : Path)
    : ReadAs tree path (readGrammar tree path) (readExpectation tree path) := by
  rw [readGrammar, readExpectation, Expectation.read]
  cases read : tree.readText path.text with
  | ok text => exact .text text
  | error error =>
    cases error with
    | undecodable fault =>
      exact .noText fault (FileTree.readText_eq_undecodable_iff.mp ⟨fault, read⟩)
    | file error =>
      cases error with
      | failed cause file => exact .unusable cause file
      | embeddedNul => exact .nul (FileTree.readText_eq_nul_iff.mp read)

theorem exists_failure_iff
    : (∃ failure, readExpectation tree path = .error failure)
      ↔ ∃ failure, readGrammar tree path = .error failure := by
  have both := readAs tree path
  generalize readGrammar tree path = grammar at both
  generalize readExpectation tree path = list at both
  cases both <;> simp

/-- A list has a defect if and only if its path has a null character, or its file is no text. -/
theorem readExpectation_eq_defect_iff {kind : Defect}
    : readExpectation tree path = .error (.defect kind)
      ↔ kind = .badValue ∧ '\x00' ∈ path.text.toList
        ∨ kind = .undecodable ∧ tree.HoldsNoText path.text := by
  constructor
  · intro failed
    have both := readAs tree path
    rw [failed] at both
    generalize readGrammar tree path = grammar at both
    cases both with
    | noText fault undecodable => exact .inr ⟨rfl, undecodable⟩
    | nul present => exact .inl ⟨rfl, present⟩
  · rintro (⟨rfl, present⟩ | ⟨rfl, undecodable⟩)
    · have read : tree.readText path.text = .error (.file .embeddedNul) :=
        FileTree.readText_eq_nul_iff.mpr present
      rw [readExpectation, Expectation.read, read]
      rfl
    · obtain ⟨fault, read⟩ := FileTree.readText_eq_undecodable_iff.mpr undecodable
      rw [readExpectation, Expectation.read, read]
      rfl

end

-----------------------------------------------------------------------------------------
-- The end of a check
-----------------------------------------------------------------------------------------

namespace CommandLine

/-- What a check with a configuration makes of its list. What is reported of the list is shown as an
error, with the exit code of one, and everything stays as it was; a defect of the list ends the check;
and if the list is read, only what the classification ends in can be a defect. -/
structure Request.Heeds [Installation]
    (config : Config) (expected : Path) (tree : FileTree) (result : Result)
    : Prop where
  report
    : ∀ error,
        readExpectation tree expected = .error (.unusable error)
        → result.exit = .ok 1
          ∧ result.errors = unlines ["Error: " ++ error.message]
          ∧ result.output = ""
          ∧ result.tree = tree
  defect
    : ∀ kind, readExpectation tree expected = .error (.defect kind) → result.exit = .error kind
  read
    : ∀ labels kind,
        readExpectation tree expected = .ok labels
        → result.exit = .error kind
        → ∃ error,
            (classify config tree).result = .error error
            ∧ Failure.ofInitialization error = .defect kind

section

variable {tree : FileTree} {config : Config} {expected : Path} {verbose : Bool}

/-- With its list read, a check ends in a defect only if its classification does. -/
theorem Request.result_of_defect [Installation] {kind : Defect} {labels : List String}
    (readable : readExpectation tree expected = .ok labels)
    (ended : ((check config expected tree).toResult verbose).exit = .error kind)
    : ∃ error,
        (classify config tree).result = .error error
        ∧ Failure.ofInitialization error = .defect kind := by
  have ends := checks config expected tree
  generalize check config expected tree = outcome at ended ends
  cases ends with
  | unreadable unreadable => cases readable.symm.trans unreadable
  | @failed _ error _ unclassified =>
    refine ⟨error, unclassified, ?_⟩
    simp only [Outcome.toResult] at ended
    split at ended
    · cases ended
    · cases ended
    · rename_i other same
      cases ended
      exact Except.error.inj same
  | met | unmet => cases ended

theorem Request.heeds_check [Installation]
    (config : Config) (expected : Path) (tree : FileTree) (verbose : Bool)
    : Heeds config expected tree ((check config expected tree).toResult verbose) where
  report := by
    intro error unreadable
    rw [check_eq_iff.mpr (.unreadable unreadable)]
    cases verbose <;> exact ⟨rfl, rfl, rfl, rfl⟩
  defect := by
    intro kind unreadable
    rw [check_eq_iff.mpr (.unreadable unreadable)]
    rfl
  read := fun labels kind => result_of_defect

end

/-- An expectation list cannot be read if and only if a grammar at its path could not be. What is wrong
is reported, under the path and with the cause that would be reported of a grammar, unless the path
has a null character or the file is no text; a check shows the report and ends in an error. A file
that is no text is reported of a grammar, but makes a check end without an exit code. -/
theorem reported_unless_undecodable [Installation] (tree : FileTree) (path : Path)
    : ReadAs tree path (readGrammar tree path) (readExpectation tree path)
      ∧ ((∃ failure, readExpectation tree path = .error failure)
          ↔ ∃ failure, readGrammar tree path = .error failure)
      ∧ (∀ kind,
          readExpectation tree path = .error (.defect kind)
          ↔ kind = .badValue ∧ '\x00' ∈ path.text.toList
            ∨ kind = .undecodable ∧ tree.HoldsNoText path.text)
      ∧ ∀ words request config,
          Request.ofWords words = .ok request
          → request.action = .check path
          → request.config tree = .ok config
          → Request.Heeds config path tree (run words tree) := by
  refine ⟨readAs tree path, exists_failure_iff, fun kind => readExpectation_eq_defect_iff, ?_⟩
  intro words request config given action configured
  rw [run_check given action configured]
  exact Request.heeds_check config path tree request.verbose

-----------------------------------------------------------------------------------------
-- A list that is no text
-----------------------------------------------------------------------------------------

namespace SpoiltList

/-- A working directory with a file of a single byte, which can start no character. -/
def tree : FileTree :=
  FileTree.initial.put ["work", "list"] (.file [0xFF])

def words : List String := ["check", "g.lark", "scratch", "--expected", "list"]

end SpoiltList

open scoped Standard in
/-- A file that is no text is reported of a grammar. Of a list it is a defect, and a check ends in it
without an exit code or an error to show. -/
theorem defect_of_spoilt_list
    : readGrammar SpoiltList.tree (Path.ofString "list")
        = .error (.unusable (.grammarText (Path.ofString "list") ⟨.start, 0, 1, 0xFF⟩))
      ∧ readExpectation SpoiltList.tree (Path.ofString "list") = .error (.defect .undecodable)
      ∧ (run SpoiltList.words SpoiltList.tree).exit = .error .undecodable
      ∧ (run SpoiltList.words SpoiltList.tree).errors = "" := by
  decide +kernel

end CommandLine

end ReservedWords
