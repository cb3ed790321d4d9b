import ReservedWords.CommandLine.Help
import ReservedWords.Extractor

/-!
The program: what a command line does to a file tree, what it shows and how it ends. A fault of the
configuration, the files or the grammar is shown as an error; a defect ends the program without one.
-/

namespace ReservedWords.CommandLine

/-- What can be wrong with the files of a request. -/
inductive Fault where
  | config (error : Config.Error)
  | load (error : LoadError)
  /-- The grammar at a path is rejected. -/
  | grammar (path : Path) (error : Grammar.Error)
  | keyword (error : CollectError)
  deriving DecidableEq, Repr

/-- Why a request is not met. -/
inductive Failure where
  | fault (fault : Fault)
  | defect (defect : Defect)
  deriving DecidableEq, Repr

/-- How a request that is met ends: everything is as it should be, or the restricted keywords are not
those that were expected. -/
inductive Verdict where
  | success
  | difference
  deriving DecidableEq, Repr

/-- What a request has done: the files after it, what it shows, its reports and its end. -/
structure Outcome where
  tree : FileTree
  output : String := ""
  records : List Log.Record := []
  result : Except Failure Verdict

/-- What a command line has done. Without an exit code a defect has ended it. -/
structure Result where
  tree : FileTree
  output : String := ""
  errors : String := ""
  exit : Except Defect Nat

/-- The wording of a fault. -/
def Fault.message : Fault → String
  | config error => error.message
  | load error => error.message
  | grammar path error => Load.rejection path error
  | keyword error => error.message

namespace Failure

/-- A configuration that is not there. -/
def ofConfig : Config.Failure → Failure
  | .invalid error => .fault (.config error)
  | .defect kind => .defect kind

/-- A file that is not there. -/
def ofFile : LoadFailure → Failure
  | .unusable error => .fault (.load error)
  | .defect kind => .defect kind

/-- A load that has failed. -/
def ofLoad : LoadOutcome.Failure → Failure
  | .unusable error => .fault (.load error)
  | .rejected path error => .fault (.grammar path error)
  | .defect kind => .defect kind

/-- An initialization that has failed. -/
def ofInitialization : InitializeError LoadOutcome.Failure → Failure
  | .config error => ofConfig error
  | .load error => ofLoad error
  | .collect .malformedEntry => .defect .wrongType
  | .collect error => .fault (.keyword error)

end Failure

/-- The exit code of a verdict. -/
def Verdict.code : Verdict → Nat
  | success => 0
  | difference => 1

/-- The exit code after an error. -/
def faultCode : Nat := 1

/-- The exit code of a refused command line. -/
def refusalCode : Nat := 2

namespace Request

variable [Installation]

/-- The configuration of a request: the one that is named or the one that comes with the library, with
the paths that are given. -/
def config (request : Request) (tree : FileTree) : Except Failure Config :=
  let found :=
    match request.configPath with
    | some path => Config.load tree path
    | none => .ok Config.packaged
  (found.mapError Failure.ofConfig).map fun config =>
    config.withPaths (request.grammarPath.map Path.text) (request.scratchDirectory.map Path.text)

/-- Loads and classifies the grammar of a configuration. -/
def classify (config : Config) (tree : FileTree)
    : Initialization FileTree LoadOutcome.Failure :=
  (Extractor.create (some config)).makeReady Extractor.fileSupplier tree

/-- The document of a classification, with a line feed at its end. -/
def document (classification : Classification) : String :=
  Document.print classification.summary ++ "\n"

/-- What is shown when a document is in its file. -/
def written (classification : Classification) (path : Path) : String :=
  unlines
    [ "  Keywords:    " ++ toString classification.keywords.length,
      "  Whitelists:  " ++ toString classification.whitelist.length,
      "  Restricted:  " ++ toString classification.restrictedKeywords.length,
      "✅ Written to " ++ path.text]

/-- Writes a text to a file and makes the directories above it that are missing. -/
def writeFile (tree : FileTree) (path : Path) (text : String)
    : FileTree × Except FileTree.Error Unit :=
  match tree.ensureDirectory path.parent with
  | (tree, .error error) => (tree, .error error)
  | (tree, .ok ()) =>
    match tree.write path.text (Text.encode text) with
    | .ok tree => (tree, .ok ())
    | .error error => (tree, .error error)

/-- Shows the document of a grammar, or writes it to a file. -/
def extract (config : Config) (output : Option Path) (tree : FileTree) : Outcome :=
  let done := classify config tree
  match done.result, output with
  | .error error, _ =>
    { tree := done.world, records := done.records, result := .error (.ofInitialization error) }
  | .ok classification, none =>
    { tree := done.world, output := document classification, records := done.records
      result := .ok .success }
  | .ok classification, some path =>
    match writeFile done.world path (document classification) with
    | (tree, .ok ()) =>
      { tree, output := written classification path, records := done.records
        result := .ok .success }
    | (tree, .error error) =>
      { tree, records := done.records, result := .error (.defect (.ofFile error)) }

/-- What is shown when everything is as expected. -/
def agreement (labels : List String) (path : Path) : String :=
  unlines ["✅ " ++ toString labels.length ++ " restricted keywords match " ++ path.text]

/-- What is shown when something is not as expected: a line for each label on one side only. -/
def disagreement (difference : Difference) : String :=
  unlines ("❌ Restricted keywords differ from the expectation list"
    :: (difference.missing.map fun label =>
        "  - " ++ label ++ " (expected restricted, but whitelisted or not a keyword)")
      ++ difference.unexpected.map fun label =>
        "  + " ++ label ++ " (restricted, but not in the expectation list)")

/-- Holds the restricted keywords of a grammar against the labels of a file, which is read first. -/
def check (config : Config) (expected : Path) (tree : FileTree) : Outcome :=
  match readExpectation tree expected with
  | .error error => { tree, result := .error (.ofFile error) }
  | .ok labels =>
    let done := classify config tree
    match done.result with
    | .error error =>
      { tree := done.world, records := done.records, result := .error (.ofInitialization error) }
    | .ok classification =>
      let difference := classification.compareRestricted labels
      if difference.isEmpty then
        { tree := done.world, output := agreement labels expected, records := done.records
          result := .ok .success }
      else
        { tree := done.world, output := disagreement difference, records := done.records
          result := .ok .difference }

/-- Does what a request asks for. -/
def perform (request : Request) (tree : FileTree) : Outcome :=
  match request.config tree with
  | .error failure => { tree, result := .error failure }
  | .ok config =>
    match request.action with
    | .extract output => extract config output tree
    | .check expected => check config expected tree

end Request

namespace Outcome

/-- The reports that are shown: all of them or none. -/
def log (outcome : Outcome) (verbose : Bool) : List String :=
  if verbose then outcome.records.map Log.Record.line else []

/-- What a request has done, as the result of its command line. -/
def toResult (outcome : Outcome) (verbose : Bool) : Result :=
  let log := outcome.log verbose
  match outcome.result with
  | .ok verdict =>
    { tree := outcome.tree, output := outcome.output, errors := unlines log
      exit := .ok verdict.code }
  | .error (.fault fault) =>
    { tree := outcome.tree, output := outcome.output
      errors := unlines (log ++ ["Error: " ++ fault.message]), exit := .ok faultCode }
  | .error (.defect defect) =>
    { tree := outcome.tree, output := outcome.output, errors := unlines log
      exit := .error defect }

theorem toResult_tree (outcome : Outcome) (verbose : Bool)
    : (outcome.toResult verbose).tree = outcome.tree := by
  rw [toResult]
  split <;> rfl

theorem toResult_output (outcome : Outcome) (verbose : Bool)
    : (outcome.toResult verbose).output = outcome.output := by
  rw [toResult]
  split <;> rfl

end Outcome

/-- Does what the words of a command line ask for. -/
def run [Installation] (words : List String) (tree : FileTree) : Result :=
  match Request.ofWords words with
  | .ok request => (request.perform tree).toResult request.verbose
  | .error halt =>
    match halt.stop with
    | .help => { tree, output := halt.help, exit := .ok 0 }
    | .refused refusal => { tree, errors := halt.complaint refusal, exit := .ok refusalCode }

end ReservedWords.CommandLine
