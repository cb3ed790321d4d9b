import ReservedWords.Proofs.CommandLine.Endings
import ReservedWords.Proofs.Grammar.Imports
import ReservedWords.Proofs.Grammar.Loading

/-!
How a load fails. What is wrong with the grammar file, the scratch directory or the grammar is
mostly reported under the path that was given. A defect, which is not reported, has its cause in a
path, in a grammar text or one that its imports come to, or in what becomes of the grammar. A
grammar to import that is found nowhere is one: the program then ends without an exit code of its
own.
-/

namespace ReservedWords

-----------------------------------------------------------------------------------------
-- The failures of a load
-----------------------------------------------------------------------------------------

/-- An error about the grammar file or the scratch directory that was given. -/
def LoadError.IsAbout (path scratch : Path) : LoadError → Prop
  | .grammarFile other _ _ | .grammarText other _ => other = path
  | .scratchDirectory other _ _ => other = scratch
  | .expectationFile _ _ _ => False

/-- A failure that is reported: it is about a path that was given, or the grammar is rejected under
its path. -/
def LoadOutcome.Failure.IsReport (path scratch : Path) : LoadOutcome.Failure → Prop
  | .unusable error => error.IsAbout path scratch
  | .rejected other _ => other = path
  | .defect _ => False

namespace Load

open LoadOutcome (Failure)

variable [Installation]
variable {tree prepared : FileTree} {path scratch : Path} {options : Options} {text : String}

/-- What a defect in the analysis of a text comes from: the text cannot be read, or the grammar
cannot be taken apart, or its terminals cannot be analysed. -/
inductive Cause (tree : FileTree) (path : Path) (text : String) : Defect → Prop
  | reading {kind : Defect}
    (cause
      : Grammar.Cause ⟨tree, path.parent.text⟩ (tree.nodes.length + 2) path.text text kind)
    : Cause tree path text kind
  | takingApart {grammar : Grammar} {kind : Defect}
    (read : Grammar.read ⟨tree, path.parent.text⟩ path.text text = .ok grammar)
    (flaw : Grammar.Compiled.Flaw grammar kind)
    : Cause tree path text kind
  | analysing {grammar : Grammar} {compiled : Grammar.Compiled} {kind : Defect}
    (read : Grammar.read ⟨tree, path.parent.text⟩ path.text text = .ok grammar)
    (taken : Grammar.Compiled.ofGrammar grammar = .ok compiled)
    (flaw : Analysis.Flaw compiled kind)
    : Cause tree path text kind

/-- How a load ends without tables: its failure is reported, or it is a defect because a path has a
null character, or because the text of the grammar has a defect with a cause. -/
inductive FailsWith (tree : FileTree) (path scratch : Path) : Failure → Prop
  | reported {failure : Failure} (report : failure.IsReport path scratch)
    : FailsWith tree path scratch failure
  | nul (present : path.HasNul ∨ scratch.HasNul) : FailsWith tree path scratch (.defect .badValue)
  | caused {text : String} {prepared : FileTree} {kind : Defect}
    (readable : readGrammar tree path = .ok text)
    (made : prepareScratch tree scratch = (prepared, .ok ()))
    (cause : Cause prepared path text kind)
    : FailsWith tree path scratch (.defect kind)

theorem failsWith_of_readGrammar {error : LoadFailure}
    (failed : readGrammar tree path = .error error)
    : FailsWith tree path scratch (ofFile error) := by
  rw [readGrammar] at failed
  split at failed
  · cases failed
  · cases failed
    exact .reported rfl
  · cases failed
    exact .reported rfl
  · rename_i nul
    cases failed
    exact .nul (.inl (FileTree.hasNul_of_readText nul))

theorem failsWith_of_prepareScratch {error : LoadFailure}
    (failed : prepareScratch tree scratch = (prepared, .error error))
    : FailsWith tree path scratch (ofFile error) := by
  rw [prepareScratch] at failed
  split at failed
  · cases failed
  · cases failed
    exact .reported rfl
  · rename_i nul
    cases failed
    obtain ⟨part, member, nul⟩ := FileTree.hasNul_of_ensureFrom nul
    exact .nul (.inr ⟨part, List.reverse_reverse scratch.parts ▸ member, nul⟩)

theorem within_analysed
    : Grammar.Within (Cause tree path text) (analysed tree path options text) := by
  refine Confined.bind (Grammar.within_read.weaken fun kind caused => .reading caused)
    fun grammar read => ?_
  refine (Analysis.within_checkParser options).bind fun _ _ => ?_
  refine Confined.bind (Grammar.Compiled.within_ofGrammar (fun rule member empty => ?_)
    fun flaw => .takingApart read flaw) fun compiled taken => ?_
  · exact .reading (.of_declared (Grammar.declared_of_bodiless read member empty))
  refine Confined.bind ((Analysis.within_check options compiled).weaken fun kind flaw => ?_)
    fun _ _ => confined_ok _
  exact .analysing read taken flaw

/-- Every load without tables ends in one of these ways, by cases on the step that fails. -/
theorem failsWith_of_run {failure : Failure}
    (failed : (run tree path scratch options).2 = .error failure)
    : FailsWith tree path scratch failure := by
  cases readable : readGrammar tree path with
  | error error =>
    rw [run_of_unreadable readable] at failed
    cases failed
    exact failsWith_of_readGrammar readable
  | ok text =>
    match made : prepareScratch tree scratch with
    | (prepared, .error error) =>
      rw [run_of_unprepared readable made] at failed
      cases failed
      exact failsWith_of_prepareScratch made
    | (prepared, .ok ()) =>
      cases accepted : analysed prepared path options text with
      | ok tables =>
        rw [run_of_analysed readable made accepted] at failed
        cases failed
      | error error =>
        rw [run_of_refused readable made accepted] at failed
        cases failed
        cases error with
        | rejected error => exact .reported rfl
        | defect kind => exact .caused readable made (within_analysed _ accepted)

/-- A load whose first import is found nowhere ends in a defect of the file. -/
theorem run_of_unfound {statements : List Grammar.Statement} {request : Grammar.ImportRequest}
    {requests : List Grammar.ImportRequest} {cause : FileTree.Cause}
    (readable : readGrammar tree path = .ok text)
    (made : prepareScratch tree scratch = (prepared, .ok ()))
    (parsed : Grammar.Draft.statements text = .ok statements)
    (collected : Grammar.ImportRequest.collect path.text statements = .ok (request :: requests))
    (unfound : request.Unfound ⟨prepared, path.parent.text⟩ cause)
    : (run tree path scratch options).2 = .error (.defect (.file cause)) := by
  have refused
      : analysed prepared path options text = .error (.defect (.file cause)) := by
    simp only [analysed, Grammar.read, Grammar.Draft.ofText, parsed, bind, Except.bind, collected,
      List.foldlM_cons, Grammar.ImportRequest.search_of_unfound unfound]
  rw [run_of_refused readable made refused]
  rfl

end Load

namespace CommandLine

theorem Request.perform_of_failed_load [Installation]
    {request : Request} {tree : FileTree} {config : Config}
    {failure : LoadOutcome.Failure} (configured : request.config tree = .ok config)
    (expectation
      : ∀ path, request.action = .check path → ∃ labels, readExpectation tree path = .ok labels)
    (failed
      : (Load.run tree config.grammarPath config.scratchDirectory config.options).2
        = .error failure)
    : (request.perform tree).result = .error (Failure.ofLoad failure) := by
  have unclassified : (classify config tree).result = .error (.load failure) := by
    simp only [classify, Extractor.makeReady, Extractor.create, Extractor.configFrom,
      Extractor.loadWith, Extractor.fileSupplier, failed]
  rw [perform, configured]
  cases action : request.action with
  | extract output =>
    dsimp only
    rw [extract_eq_iff.mpr (.failed unclassified)]
    rfl
  | check path =>
    obtain ⟨labels, readable⟩ := expectation path action
    dsimp only
    rw [check_eq_iff.mpr (.failed readable unclassified)]
    rfl

/-- What the program shows of a failed load: the error after the log, with the exit code of an
error; or, of a defect, nothing, and then it has no exit code. -/
structure Outcome.Shows (outcome : Outcome) (verbose : Bool) (failure : LoadOutcome.Failure)
    : Prop where
  fault
    : ∀ fault,
        Failure.ofLoad failure = .fault fault
        → (outcome.toResult verbose).exit = .ok 1
          ∧ (outcome.toResult verbose).errors
            = unlines (outcome.log verbose ++ ["Error: " ++ fault.message])
  defect : ∀ kind, failure = .defect kind → (outcome.toResult verbose).exit = .error kind

theorem Outcome.shows_of_failed {outcome : Outcome} {failure : LoadOutcome.Failure}
    (failed : outcome.result = .error (Failure.ofLoad failure)) (verbose : Bool)
    : outcome.Shows verbose failure where
  fault := by
    intro fault shown
    simp only [toResult, failed, shown, faultCode, and_self]
  defect := by
    rintro kind rfl
    simp only [toResult, failed, Failure.ofLoad]

end CommandLine

open CommandLine (Request)

/-- How a load fails. Either its failure is reported under a path that was given, and the program
then shows an error and ends with the exit code of one; or the program ends without an exit code,
in a defect: a path has a null character, or the grammar has a defect with a cause. That the first
grammar to import is found nowhere always is such a cause. -/
theorem Load.reported_or_caused [Installation]
    (tree : FileTree) (path scratch : Path) (options : Options)
    : (∀ failure,
        (run tree path scratch options).2 = .error failure
        → FailsWith tree path scratch failure
          ∧ ∀ (request : Request) config,
              request.config tree = .ok config
              → config.grammarPath = path
              → config.scratchDirectory = scratch
              → config.options = options
              → (∀ expected,
                  request.action = .check expected
                  → ∃ labels, readExpectation tree expected = .ok labels)
              → (request.perform tree).Shows request.verbose failure)
      ∧ ∀ text prepared statements request requests cause,
          readGrammar tree path = .ok text
          → prepareScratch tree scratch = (prepared, .ok ())
          → Grammar.Draft.statements text = .ok statements
          → Grammar.ImportRequest.collect path.text statements = .ok (request :: requests)
          → request.Unfound ⟨prepared, path.parent.text⟩ cause
          → (run tree path scratch options).2 = .error (.defect (.file cause)) := by
  refine ⟨fun failure failed => ⟨failsWith_of_run failed, ?_⟩, ?_⟩
  · rintro request config configured rfl rfl rfl expectation
    have ended := CommandLine.Request.perform_of_failed_load configured expectation failed
    exact CommandLine.Outcome.shows_of_failed ended request.verbose
  · intro text prepared statements request requests cause readable made parsed collected unfound
    exact run_of_unfound readable made parsed collected unfound

-----------------------------------------------------------------------------------------
-- A grammar that imports what is not there
-----------------------------------------------------------------------------------------

namespace MissingImport

open scoped Standard

def text : String := "%import missing.X\nstart: X\n"

/-- The only import. -/
def request : Grammar.ImportRequest where
  path := ["missing"]
  base := none
  names := Dictionary.empty.insert "X" "X"

theorem unfound
    : request.Unfound ⟨Load.preparedWith text, (Path.ofString "g.lark").parent.text⟩ .missing := by
  have unread
      : (Load.preparedWith text).readText "./missing.lark"
        = .error (.file (.failed .missing "./missing.lark")) := by
    decide +kernel
  refine ⟨⟨?_, fun _ => rfl⟩, "missing.lark", by decide +kernel⟩
  intro place member
  cases List.mem_singleton.mp member
  exact ⟨_, unread⟩

theorem readable : readGrammar (Load.treeWith text) (Path.ofString "g.lark") = .ok text := by
  decide +kernel

theorem parsed
    : Grammar.Draft.statements text
      = .ok
          [.import false ["missing", "X"] .last,
            .define
              (.rule "" "start" [] none (.choice [.sequence [.symbol (.ofTerminal "X")]]))] :=
  rfl

/-- The request of the command line that extracts the keywords of the grammar. -/
def extraction : CommandLine.Request where
  grammarPath := some (Path.ofString "g.lark")
  scratchDirectory := some (Path.ofString "scratch")
  configPath := none
  verbose := false
  action := .extract none

theorem ofWords_extraction
    : CommandLine.Request.ofWords ["extract", "g.lark", "scratch"] = .ok extraction := by
  decide +kernel

/-- The configuration of the request: the packaged one with other paths. -/
def config : Config :=
  Config.packaged.withPaths (some "g.lark") (some "scratch")

theorem config_extraction : extraction.config (Load.treeWith text) = .ok config := by
  decide +kernel

end MissingImport

open scoped Standard in
/-- The load of a grammar that imports what is not there ends in a defect of the file, and so does
the program. -/
theorem Load.reported_or_caused_missing
    : (Load.run (Load.treeWith MissingImport.text) (Path.ofString "g.lark")
            (Path.ofString "scratch") {}).2
        = .error (.defect (.file .missing))
      ∧ ((MissingImport.extraction.perform (Load.treeWith MissingImport.text)).toResult false).exit
        = .error (.file .missing) := by
  obtain ⟨failures, unfound⟩ :=
    Load.reported_or_caused (Load.treeWith MissingImport.text) (Path.ofString "g.lark")
      (Path.ofString "scratch") {}
  have failed :=
    unfound _ _ _ _ _ _ MissingImport.readable
      (Load.prepareScratch_treeWith MissingImport.text) MissingImport.parsed rfl
      MissingImport.unfound
  refine ⟨failed, ?_⟩
  have shown := (failures _ failed).2 MissingImport.extraction MissingImport.config
    MissingImport.config_extraction rfl rfl rfl nofun
  exact shown.defect _ rfl

open scoped Standard in
/-- A grammar with an import of a file that is not there makes the load end in a defect that is not
reported, and the command line end without an exit code or an error to show. -/
theorem Load.defect_of_missing_import
    : (Load.run (Load.treeWith MissingImport.text) (Path.ofString "g.lark")
            (Path.ofString "scratch") {}).2
        = .error (.defect (.file .missing))
      ∧ (CommandLine.run ["extract", "g.lark", "scratch"]
            (Load.treeWith MissingImport.text)).exit
        = .error (.file .missing)
      ∧ (CommandLine.run ["extract", "g.lark", "scratch"]
            (Load.treeWith MissingImport.text)).errors
        = "" := by
  have failed
      : (Load.run (Load.treeWith MissingImport.text) MissingImport.config.grammarPath
            MissingImport.config.scratchDirectory MissingImport.config.options).2
        = .error (.defect (.file .missing)) :=
    Load.run_of_unfound MissingImport.readable
      (Load.prepareScratch_treeWith MissingImport.text) MissingImport.parsed rfl
      MissingImport.unfound
  have outcome
      : (MissingImport.extraction.perform (Load.treeWith MissingImport.text)).result
        = .error (.defect (.file .missing)) :=
    CommandLine.Request.perform_of_failed_load MissingImport.config_extraction nofun failed
  refine ⟨failed, ?_, ?_⟩
  · simp only [CommandLine.run, MissingImport.ofWords_extraction, CommandLine.Outcome.toResult,
      outcome]
  · simp only [CommandLine.run, MissingImport.ofWords_extraction, CommandLine.Outcome.toResult,
      outcome]
    rfl

end ReservedWords
