import ReservedWords.Extractor

/-!
The initialization barrier: threads that make one extractor ready at once, while others ask it. A
thread first looks for a classification without the lock; only if there is none it takes the lock,
looks again, announces the load, loads, classifies, publishes the classification and then the phase,
and gives the lock back. Whatever fails on the way resets the phase before the lock is given back. A
question takes no lock. Threads and questions take their steps in any order, and no step does more
than one of these things.
-/

namespace ReservedWords.Barrier

/-- Where a thread stands that makes the extractor ready. -/
inductive Stage (ε : Type) where
  /-- It has not looked for a classification yet. -/
  | start
  /-- It has found none and wants the lock. -/
  | waiting
  /-- It holds the lock and has not looked again yet. -/
  | locked
  /-- It has looked again and found none. -/
  | chosen
  /-- It has announced that it initializes and wants the configuration. -/
  | announced
  /-- It has the configuration and is about to call a load. -/
  | configured (config : Config)
  /-- It is inside a load. -/
  | loading (config : Config)
  /-- Its load has returned tables that are not classified yet. -/
  | loaded (config : Config) (tables : Tables)
  /-- It has a classification to publish. -/
  | classified (classification : Classification)
  /-- It has published the classification, but not the phase. -/
  | published (classification : Classification)
  /-- Something has failed and the phase is to be reset. -/
  | failed (error : InitializeError ε)
  /-- It has nothing left to do but to give the lock back. -/
  | leaving (result : Except (InitializeError ε) Classification)
  /-- It is done, with a classification or an error. -/
  | finished (result : Except (InitializeError ε) Classification)

/-- What the threads share: the extractor, the lock, and the world that loads work on. -/
structure Shared (σ : Type) where
  extractor : Extractor
  /-- The thread that holds the lock. -/
  holder : Option Nat := none
  /-- The number of load calls that have begun. -/
  calls : Nat := 0
  world : σ
  records : List Log.Record := []

namespace Shared

variable {σ : Type}

def withExtractor (shared : Shared σ) (extractor : Extractor) : Shared σ :=
  { shared with extractor }

def withHolder (shared : Shared σ) (holder : Option Nat) : Shared σ :=
  { shared with holder }

def beginCall (shared : Shared σ) : Shared σ :=
  { shared with calls := shared.calls + 1 }

def endCall (shared : Shared σ) (world : σ) (records : List Log.Record) : Shared σ :=
  { shared with world, records := shared.records ++ records }

def report (shared : Shared σ) (records : List Log.Record) : Shared σ :=
  { shared with records := shared.records ++ records }

end Shared

namespace Stage

variable {σ ε : Type}

/-- The next step of a thread: where it stands then and what is shared then. There is none if it is
done or must wait for the lock. -/
def advance (supplier : Supplier σ ε) (thread : Nat) (shared : Shared σ)
    : Stage ε → Option (Stage ε × Shared σ)
  | start =>
    match shared.extractor.classification with
    | some classification => some (finished (.ok classification), shared)
    | none => some (waiting, shared)
  | waiting =>
    match shared.holder with
    | some _ => none
    | none => some (locked, shared.withHolder (some thread))
  | locked =>
    match shared.extractor.classification with
    | some classification => some (leaving (.ok classification), shared)
    | none => some (chosen, shared)
  | chosen => some (announced, shared.withExtractor (shared.extractor.inPhase .initializing))
  | announced =>
    match shared.extractor.configFrom supplier shared.world with
    | .error error => some (failed (.config error), shared)
    | .ok config =>
      some (configured config, shared.withExtractor (shared.extractor.withConfig config))
  | configured config => some (loading config, shared.beginCall)
  | loading config =>
    let answer := supplier.load config shared.extractor shared.world
    let ended := shared.endCall answer.world answer.records
    match answer.result with
    | .error error => some (failed (.load error), ended)
    | .ok tables => some (loaded config tables, ended)
  | loaded config tables =>
    let reported := shared.report (Classification.records tables config.options)
    match Classification.ofTables tables config.options with
    | .error error => some (failed (.collect error), reported)
    | .ok classification => some (classified classification, reported)
  | classified classification =>
    some (published classification,
      shared.withExtractor (shared.extractor.withClassification classification))
  | published classification =>
    some (leaving (.ok classification),
      (shared.withExtractor (shared.extractor.inPhase .initialized)).report
        [Extractor.readyRecord classification])
  | failed error =>
    some (leaving (.error error),
      shared.withExtractor (shared.extractor.inPhase .uninitialized))
  | leaving result => some (finished result, shared.withHolder none)
  | finished _ => none

/-- The result of a thread that is done. -/
def result? : Stage ε → Option (Except (InitializeError ε) Classification)
  | finished result => some result
  | _ => none

end Stage

/-- Where a question stands. It looks whether there is a classification, and looks a second time for
the classification or for the phase that it names. -/
inductive Asking where
  | start
  /-- It has found a classification and is about to take it. -/
  | present
  /-- It has found none and is about to name the phase. -/
  | absent
  | answered (answer : Answer)
  | refused (phase : Phase)
  /-- The classification that it has found is gone. -/
  | lost
  deriving DecidableEq, Repr

/-- The next step of a question; nothing if it is done. -/
def Asking.advance (extractor : Extractor) (query : Query) : Asking → Option Asking
  | start => some (if extractor.classification.isSome then present else absent)
  | present =>
    match extractor.classification with
    | some classification => some (answered (query.answer classification))
    | none => some lost
  | absent => some (refused extractor.phase)
  | answered _ | refused _ | lost => none

/-- The threads that make the extractor ready, the questions, and what they share. -/
structure State (σ ε : Type) where
  threads : List (Stage ε)
  questions : List (Query × Asking) := []
  shared : Shared σ

inductive Turn where
  | thread (number : Nat)
  | question (number : Nat)
  deriving DecidableEq, Repr

namespace State

variable {σ ε : Type}

/-- Some threads and questions before their first step. -/
def initial (count : Nat) (queries : List Query) (extractor : Extractor) (world : σ)
    : State σ ε where
  threads := List.replicate count .start
  questions := queries.map fun query => (query, .start)
  shared := { extractor, world }

/-- The state after the step of a thread or a question; nothing if it has none to take. -/
def step? (supplier : Supplier σ ε) (state : State σ ε) : Turn → Option (State σ ε)
  | .thread number => do
    let stage ← state.threads[number]?
    let (next, shared) ← stage.advance supplier number state.shared
    return { state with threads := state.threads.set number next, shared }
  | .question number => do
    let (query, asking) ← state.questions[number]?
    let next ← asking.advance state.shared.extractor query
    return { state with questions := state.questions.set number (query, next) }

/-- One step of some thread or question leads from one state to another. -/
def Steps (supplier : Supplier σ ε) (before after : State σ ε) : Prop :=
  ∃ turn, before.step? supplier turn = some after

/-- Steps lead from one state to another, none or any number of them. -/
inductive Reaches (supplier : Supplier σ ε) (first : State σ ε) : State σ ε → Prop
  | refl : Reaches supplier first first
  | step {middle last : State σ ε} (reached : Reaches supplier first middle)
    (next : Steps supplier middle last)
    : Reaches supplier first last

/-- Gives turns in order; who cannot take a step is passed over. -/
def schedule (supplier : Supplier σ ε) (state : State σ ε) (turns : List Turn) : State σ ε :=
  turns.foldl (fun state turn => (state.step? supplier turn).getD state) state

/-- No thread takes more steps than this. -/
def longest : Nat := 11

/-- Lets the threads run to their ends one after the other. -/
def runInTurn (supplier : Supplier σ ε) (state : State σ ε) : State σ ε :=
  state.schedule supplier
    ((List.range state.threads.length).flatMap fun number =>
      List.replicate longest (.thread number))

/-- The results of the threads that are done. -/
def results (state : State σ ε) : List (Except (InitializeError ε) Classification) :=
  state.threads.filterMap Stage.result?

end State

end ReservedWords.Barrier
