import ReservedWords.Barrier
import Mathlib.Data.List.Basic

/-!
What a step at the initialization barrier can be. Every later argument about a thread goes through
the moves listed here and not through the step function.
-/

namespace ReservedWords.Barrier

variable {σ ε : Type}

/-- The moves of a thread, each with what it found in the shared state: from a stage and the shared
state to the next stage and the shared state after it. -/
inductive Move (supplier : Supplier σ ε) (thread : Nat) (shared : Shared σ)
    : Stage ε → Stage ε → Shared σ → Prop
  | found {classification : Classification}
    (present : shared.extractor.classification = some classification)
    : Move supplier thread shared .start (.finished (.ok classification)) shared
  | missed (absent : shared.extractor.classification = none)
    : Move supplier thread shared .start .waiting shared
  | acquired (free : shared.holder = none)
    : Move supplier thread shared .waiting .locked (shared.withHolder (some thread))
  | foundAgain {classification : Classification}
    (present : shared.extractor.classification = some classification)
    : Move supplier thread shared .locked (.leaving (.ok classification)) shared
  | missedAgain (absent : shared.extractor.classification = none)
    : Move supplier thread shared .locked .chosen shared
  | announced
    : Move supplier thread shared .chosen .announced
        (shared.withExtractor (shared.extractor.inPhase .initializing))
  | unconfigured {error : Config.Failure}
    (missing : shared.extractor.configFrom supplier shared.world = .error error)
    : Move supplier thread shared .announced (.failed (.config error)) shared
  | configured {config : Config}
    (had : shared.extractor.configFrom supplier shared.world = .ok config)
    : Move supplier thread shared .announced (.configured config)
        (shared.withExtractor (shared.extractor.withConfig config))
  | called {config : Config}
    : Move supplier thread shared (.configured config) (.loading config) shared.beginCall
  | loadFailed {config : Config} {answer : LoadAnswer σ ε} {error : ε}
    (answered : supplier.load config shared.extractor shared.world = answer)
    (failure : answer.result = .error error)
    : Move supplier thread shared (.loading config) (.failed (.load error))
        (shared.endCall answer.world answer.records)
  | loadReturned {config : Config} {answer : LoadAnswer σ ε} {tables : Tables}
    (answered : supplier.load config shared.extractor shared.world = answer)
    (success : answer.result = .ok tables)
    : Move supplier thread shared (.loading config) (.loaded config tables)
        (shared.endCall answer.world answer.records)
  | collectFailed {config : Config} {tables : Tables} {error : CollectError}
    (failure : Classification.ofTables tables config.options = .error error)
    : Move supplier thread shared (.loaded config tables) (.failed (.collect error))
        (shared.report (Classification.records tables config.options))
  | classified {config : Config} {tables : Tables} {classification : Classification}
    (success : Classification.ofTables tables config.options = .ok classification)
    : Move supplier thread shared (.loaded config tables) (.classified classification)
        (shared.report (Classification.records tables config.options))
  | published {classification : Classification}
    : Move supplier thread shared (.classified classification) (.published classification)
        (shared.withExtractor (shared.extractor.withClassification classification))
  | completed {classification : Classification}
    : Move supplier thread shared (.published classification) (.leaving (.ok classification))
        ((shared.withExtractor (shared.extractor.inPhase .initialized)).report
          [Extractor.readyRecord classification])
  | reset {error : InitializeError ε}
    : Move supplier thread shared (.failed error) (.leaving (.error error))
        (shared.withExtractor (shared.extractor.inPhase .uninitialized))
  | released {result : Except (InitializeError ε) Classification}
    : Move supplier thread shared (.leaving result) (.finished result) (shared.withHolder none)

/-- A thread advances by one of the moves, by cases on its stage and on what it finds. -/
theorem Move.of_advance {supplier : Supplier σ ε} {thread : Nat} {shared after : Shared σ}
    {stage next : Stage ε} (taken : stage.advance supplier thread shared = some (next, after))
    : Move supplier thread shared stage next after := by
  cases stage with
  | start =>
    cases present : shared.extractor.classification with
    | none =>
      rw [Stage.advance, present] at taken
      cases taken
      exact .missed present
    | some classification =>
      rw [Stage.advance, present] at taken
      cases taken
      exact .found present
  | waiting =>
    cases free : shared.holder with
    | none =>
      rw [Stage.advance, free] at taken
      cases taken
      exact .acquired free
    | some _ => simp [Stage.advance, free] at taken
  | locked =>
    cases present : shared.extractor.classification with
    | none =>
      rw [Stage.advance, present] at taken
      cases taken
      exact .missedAgain present
    | some classification =>
      rw [Stage.advance, present] at taken
      cases taken
      exact .foundAgain present
  | announced =>
    cases had : shared.extractor.configFrom supplier shared.world with
    | error error =>
      rw [Stage.advance, had] at taken
      cases taken
      exact .unconfigured had
    | ok config =>
      rw [Stage.advance, had] at taken
      cases taken
      exact .configured had
  | loading config =>
    cases result : (supplier.load config shared.extractor shared.world).result with
    | error error =>
      rw [Stage.advance, result] at taken
      cases taken
      exact .loadFailed rfl result
    | ok tables =>
      rw [Stage.advance, result] at taken
      cases taken
      exact .loadReturned rfl result
  | loaded config tables =>
    cases result : Classification.ofTables tables config.options with
    | error error =>
      rw [Stage.advance, result] at taken
      cases taken
      exact .collectFailed result
    | ok classification =>
      rw [Stage.advance, result] at taken
      cases taken
      exact .classified result
  | chosen =>
    cases taken
    exact .announced
  | configured config =>
    cases taken
    exact .called
  | classified classification =>
    cases taken
    exact .published
  | published classification =>
    cases taken
    exact .completed
  | failed error =>
    cases taken
    exact .reset
  | leaving result =>
    cases taken
    exact .released
  | finished _ => simp [Stage.advance] at taken

/-- A step is the move of one thread or the step of one question, and everything that belongs to
others stays. -/
theorem State.Steps.cases {supplier : Supplier σ ε} {before after : State σ ε}
    (taken : State.Steps supplier before after)
    : (∃ number stage next shared,
        before.threads[number]? = some stage
        ∧ Move supplier number before.shared stage next shared
        ∧ after = { before with threads := before.threads.set number next, shared })
      ∨ ∃ number query asking next,
          before.questions[number]? = some (query, asking)
          ∧ asking.advance before.shared.extractor query = some next
          ∧ after = { before with questions := before.questions.set number (query, next) } := by
  obtain ⟨number | number, taken⟩ := taken
  · simp only [State.step?, Option.bind_eq_bind, Option.bind_eq_some_iff, Option.pure_def,
      Option.some.injEq] at taken
    obtain ⟨stage, here, ⟨next, shared⟩, advanced, same⟩ := taken
    exact .inl ⟨number, stage, next, shared, here, Move.of_advance advanced, same.symm⟩
  · simp only [State.step?, Option.bind_eq_bind, Option.bind_eq_some_iff, Option.pure_def,
      Option.some.injEq] at taken
    obtain ⟨⟨query, asking⟩, here, next, advanced, same⟩ := taken
    exact .inr ⟨number, query, asking, next, here, advanced, same.symm⟩

theorem State.Steps.length_threads {supplier : Supplier σ ε} {before after : State σ ε}
    (taken : State.Steps supplier before after)
    : after.threads.length = before.threads.length := by
  rcases taken.cases with ⟨_, _, _, _, _, _, rfl⟩ | ⟨_, _, _, _, _, _, rfl⟩
  · exact List.length_set
  · rfl

theorem State.Reaches.length_threads {supplier : Supplier σ ε} {first last : State σ ε}
    (reached : State.Reaches supplier first last)
    : last.threads.length = first.threads.length := by
  induction reached with
  | refl => rfl
  | step _ taken same => exact taken.length_threads.trans same

theorem State.Reaches.trans {supplier : Supplier σ ε} {first middle last : State σ ε}
    (earlier : State.Reaches supplier first middle) (later : State.Reaches supplier middle last)
    : State.Reaches supplier first last := by
  induction later with
  | refl => exact earlier
  | step _ next reached => exact .step reached next

/-- Whatever the order of turns, what they lead to is reached by steps. -/
theorem State.reaches_schedule (supplier : Supplier σ ε) (first : State σ ε) (turns : List Turn)
    : State.Reaches supplier first (first.schedule supplier turns) := by
  induction turns generalizing first with
  | nil => exact .refl
  | cons turn rest step =>
    rw [State.schedule, List.foldl_cons]
    cases taken : first.step? supplier turn with
    | none => exact step first
    | some next => exact (State.Reaches.step .refl ⟨turn, taken⟩).trans (step next)

end ReservedWords.Barrier
