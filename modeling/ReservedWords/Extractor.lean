import ReservedWords.Load
import ReservedWords.Query

/-!
Extractors: one classification, loaded once and asked afterwards. Until a load has succeeded every
question is refused; after that no load is made any more.
-/

namespace ReservedWords

/-- How far an extractor has come. -/
inductive Phase where
  | uninitialized
  | initializing
  | initialized
  deriving DecidableEq, Repr

/-- The word for a phase. -/
def Phase.name : Phase → String
  | .uninitialized => "uninitialized"
  | .initializing => "initializing"
  | .initialized => "initialized"

/-- The wording of a refused question. -/
def Phase.refusal (phase : Phase) : String :=
  "keyword queries need initialize() first (state: " ++ phase.name ++ ")"

/-- An extractor: the configuration that it was given or has got since, its phase, and the
classification once there is one. -/
structure Extractor where
  config : Option Config
  phase : Phase := .uninitialized
  classification : Option Classification := none

/-- What a load answers: what has become of the world it works on, its result, and its reports. -/
structure LoadAnswer (σ ε : Type) where
  world : σ
  result : Except ε Tables
  records : List Log.Record := []

/-- What an extractor relies on: where the configuration comes from if none was given, and how tables
are loaded. A load sees the configuration, the extractor that it works for, and the world `σ`. -/
structure Supplier (σ ε : Type) where
  config : σ → Except Config.Failure Config := fun _ => .ok Config.packaged
  load : Config → Extractor → σ → LoadAnswer σ ε

/-- Why an extractor has no classification: there is no configuration, the load has failed, or its
tables have none. -/
inductive InitializeError (ε : Type) where
  | config (error : Config.Failure)
  | load (error : ε)
  | collect (error : CollectError)
  deriving DecidableEq, Repr

/-- The result of making an extractor ready. -/
structure Initialization (σ ε : Type) where
  extractor : Extractor
  world : σ
  result : Except (InitializeError ε) Classification
  records : List Log.Record := []

namespace Extractor

variable {σ ε : Type}

/-- A new extractor, with the configuration that it is given or with none. -/
def create (config : Option Config) : Extractor := { config }

/-- The supplier that reads grammar files from a file tree. -/
def fileSupplier [Installation] : Supplier FileTree LoadOutcome.Failure where
  load config _ tree :=
    let (tree, result) := Load.run tree config.grammarPath config.scratchDirectory config.options
    ⟨tree, result, Load.records config.grammarPath result⟩

/-- The configuration of an extractor; one that has none gets it from its supplier. -/
def configFrom (supplier : Supplier σ ε) (extractor : Extractor) (world : σ)
    : Except Config.Failure Config :=
  match extractor.config with
  | some config => .ok config
  | none => supplier.config world

/-- The extractor that has a configuration from now on. -/
def withConfig (extractor : Extractor) (config : Config) : Extractor :=
  { extractor with config := some config }

/-- The extractor in another phase. -/
def inPhase (extractor : Extractor) (phase : Phase) : Extractor :=
  { extractor with phase }

/-- The extractor that has a classification from now on. -/
def withClassification (extractor : Extractor) (classification : Classification) : Extractor :=
  { extractor with classification := some classification }

/-- The classification, or the phase in which there is none. -/
def ready (extractor : Extractor) : Except Phase Classification :=
  match extractor.classification with
  | some classification => .ok classification
  | none => .error extractor.phase

/-- Answers a question, or gives the phase in which none can be answered. -/
def ask (extractor : Extractor) (query : Query) : Except Phase Answer :=
  extractor.ready.map query.answer

/-- What is reported when a question is asked. -/
def askRecords (extractor : Extractor) (query : Query) : List Log.Record :=
  match extractor.classification with
  | some classification => query.records classification
  | none => []

/-- The report of a finished initialization. -/
def readyRecord (classification : Classification) : Log.Record :=
  ⟨.info, .extractor,
    "classified " ++ toString classification.keywords.length ++ " keywords, "
      ++ toString classification.restrictedKeywords.length ++ " restricted"⟩

/-- Loads and classifies with a configuration. The load sees the extractor while it is being
initialized; a failure leaves it uninitialized. -/
def loadWith (supplier : Supplier σ ε) (extractor : Extractor) (config : Config) (world : σ)
    : Initialization σ ε :=
  let started := (extractor.inPhase .initializing).withConfig config
  let failed := started.inPhase .uninitialized
  let answer := supplier.load config started world
  match answer.result with
  | .error error => ⟨failed, answer.world, .error (.load error), answer.records⟩
  | .ok tables =>
    let records := answer.records ++ Classification.records tables config.options
    match Classification.ofTables tables config.options with
    | .error error => ⟨failed, answer.world, .error (.collect error), records⟩
    | .ok classification =>
      { extractor := (started.withClassification classification).inPhase .initialized
        world := answer.world
        result := .ok classification
        records := records ++ [readyRecord classification] }

/-- Makes an extractor ready, unless it is. -/
def makeReady (supplier : Supplier σ ε) (extractor : Extractor) (world : σ) : Initialization σ ε :=
  match extractor.classification with
  | some classification => ⟨extractor, world, .ok classification, []⟩
  | none =>
    match extractor.configFrom supplier world with
    | .error error => ⟨extractor.inPhase .uninitialized, world, .error (.config error), []⟩
    | .ok config => loadWith supplier extractor config world

end Extractor

end ReservedWords
