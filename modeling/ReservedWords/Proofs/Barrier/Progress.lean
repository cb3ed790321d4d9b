import ReservedWords.Proofs.Barrier.Accounting
import Mathlib.Algebra.BigOperators.Group.List.Basic
import Mathlib.Algebra.GroupWithZero.Nat

/-!
Progress at the barrier: as long as some thread is not done, some thread can take a step, and every
step brings a run closer to its end. So every run ends, and it ends with all threads done. A thread
that nobody disturbs initializes the extractor as a single call does.
-/

namespace ReservedWords.Barrier

variable {σ ε : Type}

/-- Only a thread that is done or waits for a lock that is not free cannot take a step, by cases on
its stage and on what it finds. -/
theorem Stage.advance_isSome (supplier : Supplier σ ε) (thread : Nat) {shared : Shared σ}
    {stage : Stage ε} (unfinished : ∀ result, stage ≠ .finished result)
    (ready : shared.holder = none ∨ stage ≠ .waiting)
    : ∃ next after, stage.advance supplier thread shared = some (next, after) := by
  cases stage with
  | start | locked =>
    cases present : shared.extractor.classification <;> exact ⟨_, _, by rw [advance, present]⟩
  | waiting =>
    rcases ready with free | other
    · exact ⟨_, _, by rw [advance, free]⟩
    · exact absurd rfl other
  | announced =>
    cases had : shared.extractor.configFrom supplier shared.world <;>
      exact ⟨_, _, by rw [advance, had]⟩
  | loading config =>
    cases result : (supplier.load config shared.extractor shared.world).result <;>
      exact ⟨_, _, by rw [advance, result]⟩
  | loaded config tables =>
    cases result : Classification.ofTables tables config.options <;>
      exact ⟨_, _, by rw [advance, result]⟩
  | finished result => exact absurd rfl (unfinished result)
  | chosen | configured | classified | published | failed | leaving => exact ⟨_, _, rfl⟩

/-- A thread that can advance has a step to take when it is its turn. -/
theorem State.step?_thread {supplier : Supplier σ ε} {state : State σ ε} {number : Nat}
    {stage next : Stage ε} {after : Shared σ} (here : state.threads[number]? = some stage)
    (advanced : stage.advance supplier number state.shared = some (next, after))
    : state.step? supplier (.thread number)
      = some { state with threads := state.threads.set number next, shared := after } := by
  simp only [State.step?, here, advanced, Option.bind_eq_bind, Option.bind_some, Option.pure_def]

/-- No deadlock: the thread that holds the lock can go on, and if nobody holds it everybody can. -/
theorem Coherent.progress {config found : Config} {outcomes : Nat → Except ε Tables}
    {state : State Nat ε} (coherent : Coherent config outcomes found state)
    : state.Complete
      ∨ ∃ number next,
          state.step? (preparedSupplier found outcomes) (.thread number) = some next := by
  by_cases complete : state.Complete
  · exact .inl complete
  right
  cases holder : state.shared.holder with
  | none =>
    simp only [State.Complete, not_forall] at complete
    obtain ⟨stage, member, unfinished⟩ := complete
    obtain ⟨number, here⟩ := List.mem_iff_getElem?.mp member
    obtain ⟨next, after, advanced⟩ := Stage.advance_isSome (preparedSupplier found outcomes) number
      (fun result same => unfinished ⟨result, same⟩) (.inl holder)
    exact ⟨number, _, State.step?_thread here advanced⟩
  | some number =>
    obtain ⟨stage, here⟩ : ∃ stage, state.threads[number]? = some stage :=
      ⟨_, List.getElem?_eq_getElem (coherent.held number holder)⟩
    have claim := coherent.fits number stage here
    have unfinished : ∀ result, stage ≠ .finished result := by
      rintro (error | classification) rfl
      · exact claim holder
      · exact claim.1 holder
    have inside : stage ≠ .waiting := by
      rintro rfl
      exact claim holder
    obtain ⟨next, after, advanced⟩ := Stage.advance_isSome (preparedSupplier found outcomes) number
      unfinished (.inr inside)
    exact ⟨number, _, State.step?_thread here advanced⟩

/-- The steps that a thread has left at most. -/
def Stage.remaining : Stage ε → Nat
  | start => State.longest
  | waiting => 10
  | locked => 9
  | chosen => 8
  | announced => 7
  | configured _ => 6
  | loading _ => 5
  | loaded _ _ => 4
  | classified _ => 3
  | published _ | failed _ => 2
  | leaving _ => 1
  | finished _ => 0

def Asking.remaining : Asking → Nat
  | start => 2
  | present | absent => 1
  | answered _ | refused _ | lost => 0

/-- The steps that all threads and questions have left at most. -/
def State.remaining (state : State σ ε) : Nat :=
  (state.threads.map Stage.remaining).sum
    + (state.questions.map fun question => question.2.remaining).sum

/-- Every move leaves a thread fewer steps, by cases on the move. -/
theorem Move.remaining_lt {supplier : Supplier σ ε} {thread : Nat} {shared after : Shared σ}
    {stage next : Stage ε} (move : Move supplier thread shared stage next after)
    : next.remaining < stage.remaining := by
  cases move <;> simp only [Stage.remaining, State.longest, Nat.reduceLT]

/-- Every step leaves a question fewer steps, by cases on where it stands. -/
theorem Asking.remaining_lt {extractor : Extractor} {query : Query} {asking next : Asking}
    (taken : asking.advance extractor query = some next)
    : next.remaining < asking.remaining := by
  cases asking with
  | start =>
    cases taken
    split <;> decide
  | present =>
    rw [Asking.advance] at taken
    split at taken <;> cases taken <;> exact Nat.zero_lt_one
  | absent =>
    cases taken
    exact Nat.zero_lt_one
  | answered | refused | lost => cases taken

/-- Replacing one item by a smaller one makes the sum of sizes smaller, up to order. -/
theorem sum_map_set_lt {α : Type} {size : α → Nat} {items : List α} {position : Nat} {old new : α}
    (here : items[position]? = some old) (smaller : size new < size old)
    : ((items.set position new).map size).sum < (items.map size).sum := by
  obtain ⟨rest, was, becomes⟩ := perm_set here new
  rw [(was.map size).sum_eq, (becomes.map size).sum_eq]
  simpa using smaller

/-- Every step brings a run closer to its end, so no run goes on for ever. -/
theorem State.Steps.remaining_lt {supplier : Supplier σ ε} {before after : State σ ε}
    (taken : State.Steps supplier before after)
    : after.remaining < before.remaining := by
  rcases taken.cases with ⟨number, stage, next, shared, here, move, rfl⟩
    | ⟨number, query, asking, next, here, advanced, rfl⟩
  · exact Nat.add_lt_add_right (sum_map_set_lt here move.remaining_lt) _
  · exact Nat.add_lt_add_left (sum_map_set_lt here (Asking.remaining_lt advanced)) _

-----------------------------------------------------------------------------------------
-- A thread that runs alone
-----------------------------------------------------------------------------------------

/-- Lets one thread take steps and nobody else, until it cannot or has taken as many as it may. -/
def Stage.alone (supplier : Supplier σ ε) (thread : Nat)
    : Nat → Stage ε → Shared σ → Stage ε × Shared σ
  | 0, stage, shared => (stage, shared)
  | steps + 1, stage, shared =>
    match stage.advance supplier thread shared with
    | some (next, after) => next.alone supplier thread steps after
    | none => (stage, shared)

theorem Stage.alone_succ {supplier : Supplier σ ε} {thread steps : Nat} {stage next : Stage ε}
    {shared after : Shared σ} (advanced : stage.advance supplier thread shared = some (next, after))
    : stage.alone supplier thread (steps + 1) shared = next.alone supplier thread steps after := by
  rw [alone, advanced]

theorem Stage.alone_stuck {supplier : Supplier σ ε} {thread : Nat} {stage : Stage ε}
    {shared : Shared σ} (stuck : stage.advance supplier thread shared = none) (steps : Nat)
    : stage.alone supplier thread steps shared = (stage, shared) := by
  cases steps with
  | zero => rfl
  | succ steps => rw [alone, stuck]

/-- Turns that all go to one thread are steps of that thread alone, by induction on their number. -/
theorem State.schedule_replicate (supplier : Supplier σ ε) {number : Nat} (turns : Nat)
    {state : State σ ε} {stage : Stage ε} (here : state.threads[number]? = some stage)
    : state.schedule supplier (List.replicate turns (.thread number))
      = { state with
          threads :=
            state.threads.set number (stage.alone supplier number turns state.shared).1
          shared := (stage.alone supplier number turns state.shared).2 } := by
  induction turns generalizing state stage with
  | zero =>
    obtain ⟨inside, rfl⟩ := List.getElem?_eq_some_iff.mp here
    simp [schedule, Stage.alone]
  | succ turns step =>
    have inside := (List.getElem?_eq_some_iff.mp here).1
    cases advanced : stage.advance supplier number state.shared with
    | none =>
      have stays : state.step? supplier (.thread number) = none := by
        simp only [step?, here, advanced, Option.bind_eq_bind, Option.bind_some, Option.bind_none]
      have rest := step here
      rw [Stage.alone_stuck advanced] at rest ⊢
      simpa only [List.replicate_succ, schedule, List.foldl_cons, stays, Option.getD_none]
        using rest
    | some taken =>
      obtain ⟨next, after⟩ := taken
      rw [Stage.alone_succ advanced, List.replicate_succ, schedule, List.foldl_cons,
        step?_thread here advanced]
      have there
          : ({ state with threads := state.threads.set number next, shared := after }
              : State σ ε).threads[number]? = some next :=
        List.getElem?_set_self inside
      have rest := step there
      simpa only [Option.getD_some, List.set_set, schedule] using rest

section

attribute [local simp] Stage.alone Stage.advance State.longest Extractor.makeReady
  Extractor.loadWith Extractor.inPhase Extractor.withConfig Extractor.withClassification
  Shared.withHolder Shared.withExtractor Shared.beginCall Shared.endCall Shared.report

/-- What a thread does alone, from its start to its end, is the initialization of the extractor, by
cases on what the initialization finds. -/
theorem Stage.alone_start (supplier : Supplier σ ε) (thread : Nat) {shared : Shared σ}
    (free : shared.holder = none)
    : ∃ calls,
        (start : Stage ε).alone supplier thread State.longest shared
        = (finished (shared.extractor.makeReady supplier shared.world).result,
          { shared with
            extractor := (shared.extractor.makeReady supplier shared.world).extractor
            world := (shared.extractor.makeReady supplier shared.world).world
            records :=
              shared.records ++ (shared.extractor.makeReady supplier shared.world).records
            calls }) := by
  obtain ⟨⟨given, phase, classification⟩, holder, calls, world, records⟩ := shared
  cases free
  cases classification with
  | some classification => exact ⟨calls, by simp⟩
  | none =>
    cases had : (⟨given, .initializing, none⟩ : Extractor).configFrom supplier world with
    | error error =>
      have same : (⟨given, phase, none⟩ : Extractor).configFrom supplier world = .error error := had
      exact ⟨calls, by simp [had, same]⟩
    | ok config =>
      have same : (⟨given, phase, none⟩ : Extractor).configFrom supplier world = .ok config := had
      refine ⟨calls + 1, ?_⟩
      cases result : (supplier.load config ⟨some config, .initializing, none⟩ world).result with
      | error error => simp [had, same, result]
      | ok tables =>
        cases collected : Classification.ofTables tables config.options with
        | error error => simp [had, same, result, collected]
        | ok classification => simp [had, same, result, collected]

end

/-- A thread that gets all turns while the lock is free leaves behind what one initialization leaves
behind, and has its result. -/
theorem State.schedule_alone (supplier : Supplier σ ε) {state : State σ ε} {number : Nat}
    (here : state.threads[number]? = some .start) (free : state.shared.holder = none)
    : ∃ calls,
        state.schedule supplier (List.replicate longest (.thread number))
        = { state with
            threads :=
              state.threads.set number
                (.finished (state.shared.extractor.makeReady supplier state.shared.world).result)
            shared :=
              { state.shared with
                extractor :=
                  (state.shared.extractor.makeReady supplier state.shared.world).extractor
                world := (state.shared.extractor.makeReady supplier state.shared.world).world
                records :=
                  state.shared.records
                  ++ (state.shared.extractor.makeReady supplier state.shared.world).records
                calls } } := by
  obtain ⟨calls, done⟩ := Stage.alone_start supplier number free (ε := ε)
  exact ⟨calls, by rw [schedule_replicate supplier longest here, done]⟩

end ReservedWords.Barrier
