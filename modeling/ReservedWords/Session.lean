import ReservedWords.Extractor

/-!
Sessions: one extractor, a file tree, and steps that are taken one after the other.
-/

namespace ReservedWords.Session

/-- The world of a session: the files, and what the loader keeps for itself. -/
structure World (ρ : Type) where
  tree : FileTree
  own : ρ

/-- A session: an extractor and the world it works in. -/
structure State (ρ : Type) where
  extractor : Extractor
  world : World ρ

inductive Step where
  | makeReady
  | config
  | query (query : Query)
  /-- Puts a file where the place leads to, whatever stands there. -/
  | write (place : FileTree.Place) (content : Text.Bytes)
  | delete (place : FileTree.Place)
  | list (path : String)

/-- What a step gives back. -/
inductive Outcome where
  | ready (classification : Classification)
  | config (config : Config)
  | answer (answer : Answer)
  | done
  | listing (names : Option (List String))

/-- Why a step fails. -/
inductive Error (ε : Type) where
  | uninitialized (phase : Phase)
  | failed (error : InitializeError ε)
  /-- There is no configuration to be shown. -/
  | unconfigured (error : Config.Failure)
  deriving DecidableEq, Repr

/-- The result of a step: the session after it, what it gives back and what it reports. -/
structure Result (ρ ε : Type) where
  state : State ρ
  outcome : Except (Error ε) Outcome
  records : List Log.Record := []

variable {ρ ε : Type}

/-- The supplier that reads grammar files, in a session whose world holds nothing but files. -/
def fileSupplier [Installation] : Supplier (World Unit) LoadOutcome.Failure where
  load config extractor world :=
    let answer := Extractor.fileSupplier.load config extractor world.tree
    { answer with world := { world with tree := answer.world } }

/-- A call of a scripted load: the configuration it saw, the phase, and what a question was answered
at that moment. -/
structure Call where
  config : Config
  phase : Phase
  restricted : Except Phase Answer

/-- A supplier whose loads give prepared results, one a call, and remember their calls. -/
def scriptedSupplier (results : Nat → Except ε Tables) : Supplier (World (List Call)) ε where
  load config extractor world :=
    let call : Call := ⟨config, extractor.phase, extractor.ask .restrictedKeywords⟩
    { world := { world with own := world.own ++ [call] }
      result := results world.own.length }

def step (supplier : Supplier (World ρ) ε) (state : State ρ) : Step → Result ρ ε
  | .makeReady =>
    let done := state.extractor.makeReady supplier state.world
    ⟨⟨done.extractor, done.world⟩, (done.result.mapError .failed).map .ready, done.records⟩
  | .config =>
    match state.extractor.configFrom supplier state.world with
    | .ok config =>
      ⟨{ state with extractor := state.extractor.withConfig config }, .ok (.config config), []⟩
    | .error error => ⟨state, .error (.unconfigured error), []⟩
  | .query query =>
    ⟨state, ((state.extractor.ask query).mapError .uninitialized).map .answer,
      state.extractor.askRecords query⟩
  | .write place content =>
    let tree := state.world.tree.install place (.file content)
    ⟨{ state with world := { state.world with tree } }, .ok .done, []⟩
  | .delete place =>
    let tree := state.world.tree.erase place
    ⟨{ state with world := { state.world with tree } }, .ok .done, []⟩
  | .list path => ⟨state, .ok (.listing (state.world.tree.list? path)), []⟩

/-- Takes steps one after the other. -/
def run (supplier : Supplier (World ρ) ε) : State ρ → List Step → List (Result ρ ε)
  | _, [] => []
  | state, first :: rest =>
    let result := step supplier state first
    result :: run supplier result.state rest

/-- The state after some steps. -/
def after (supplier : Supplier (World ρ) ε) (state : State ρ) (steps : List Step) : State ρ :=
  steps.foldl (fun state next => (step supplier state next).state) state

end ReservedWords.Session
