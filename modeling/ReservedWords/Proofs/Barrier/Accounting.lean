import ReservedWords.Proofs.Barrier.Runs
import Mathlib.Data.List.Perm.Basic

/-!
Accounting for the outcomes of loads. Each failed outcome is the error of exactly one thread and no
thread has any other error; from that it follows what all threads have when all of them are done.
-/

namespace ReservedWords.Barrier

variable {ε : Type} {config found : Config} {outcomes : Nat → Except ε Tables} {thread : Nat}
  {shared after : Shared Nat} {stage next : Stage ε} {first state : State Nat ε}

-----------------------------------------------------------------------------------------
-- Errors of results
-----------------------------------------------------------------------------------------

/-- The error of a result that is one. -/
def errorOf {α β : Type} : Except α β → Option α
  | .error error => some error
  | .ok _ => none

/-- Results of which none but one value is not an error are the errors and that value as often as
needed, up to order, by induction on the results. -/
theorem perm_errors_append_replicate {α β : Type} {results : List (Except α β)} {value : β}
    (only : ∀ other, .ok other ∈ results → other = value)
    : results.Perm
        ((results.filterMap errorOf).map .error
          ++ List.replicate (results.length - (results.filterMap errorOf).length) (.ok value)) := by
  induction results with
  | nil => exact .nil
  | cons result rest step =>
    have tail := step fun other member => only other (List.mem_cons_of_mem _ member)
    have shorter : (rest.filterMap errorOf).length ≤ rest.length := List.length_filterMap_le _ _
    cases result with
    | error error =>
      simp only [List.filterMap_cons, errorOf, List.map_cons, List.length_cons, List.cons_append,
        Nat.add_sub_add_right]
      exact tail.cons _
    | ok other =>
      cases only other (List.mem_cons_self ..)
      simp only [List.filterMap_cons, errorOf, List.length_cons, Nat.sub_add_comm shorter,
        List.replicate_succ]
      exact (tail.cons _).trans List.perm_middle.symm

/-- Results of which all are errors are those errors, by induction on the results. -/
theorem map_error_filterMap {α β : Type} {results : List (Except α β)}
    (failed : ∀ result ∈ results, ∃ error, result = .error error)
    : (results.filterMap errorOf).map .error = results := by
  induction results with
  | nil => rfl
  | cons result rest step =>
    obtain ⟨error, rfl⟩ := failed result (List.mem_cons_self ..)
    simp only [List.filterMap_cons, errorOf, List.map_cons, List.cons.injEq, true_and]
    exact step fun result member => failed result (List.mem_cons_of_mem _ member)

-----------------------------------------------------------------------------------------
-- Errors of threads
-----------------------------------------------------------------------------------------

/-- The error that a thread has or is about to find in its tables. -/
def Stage.error? : Stage ε → Option (InitializeError ε)
  | loaded config tables =>
    errorOf ((Classification.ofTables tables config.options).mapError .collect)
  | failed error => some error
  | leaving result | finished result => errorOf result
  | _ => none

/-- The classification that a thread has published or found. -/
def Stage.success? : Stage ε → Option Classification
  | published classification | leaving (.ok classification) | finished (.ok classification) =>
    some classification
  | _ => none

/-- What the first outcomes yield, as many as are given. -/
def attempts (config : Config) (outcomes : Nat → Except ε Tables) (count : Nat)
    : List (Except (InitializeError ε) Classification) :=
  (List.range count).map fun position => attempt config.options (outcomes position)

/-- One more outcome comes last. -/
theorem attempts_succ (count : Nat)
    : attempts config outcomes (count + 1)
      = attempts config outcomes count ++ [attempt config.options (outcomes count)] := by
  simp only [attempts, List.range_succ, List.map_append, List.map_cons, List.map_nil]

/-- As long as all outcomes failed, what they yield are errors and nothing else. -/
theorem map_error_attempts {count : Nat} (failed : FailedBefore config outcomes count)
    : ((attempts config outcomes count).filterMap errorOf).map .error
      = attempts config outcomes count := by
  apply map_error_filterMap
  intro result member
  obtain ⟨position, below, rfl⟩ := List.mem_map.mp member
  exact failed position (List.mem_range.mp below)

/-- A move gives a thread an error only from the outcome that it uses up, by cases on the move. -/
theorem Move.errors (move : Move (preparedSupplier found outcomes) thread shared stage next after)
    (claim : stage.Fits config outcomes shared thread)
    : next.error? = stage.error? ∧ after.world = shared.world
      ∨ stage.error? = none
        ∧ next.error? = errorOf (attempt config.options (outcomes shared.world))
        ∧ after.world = shared.world + 1 := by
  cases move with
  | unconfigured missing =>
    rw [configFrom_preparedSupplier] at missing
    cases missing
  | loadFailed answered failure =>
    subst answered
    have outcome : outcomes shared.world = .error _ := failure
    exact .inr ⟨rfl, by rw [outcome]; rfl, rfl⟩
  | loadReturned answered success =>
    subst answered
    obtain ⟨_, rfl, _⟩ := claim
    have outcome : outcomes shared.world = .ok _ := success
    exact .inr ⟨rfl, by rw [outcome]; rfl, rfl⟩
  | collectFailed failure =>
    exact .inl ⟨by simp [Stage.error?, failure, Except.mapError, errorOf], rfl⟩
  | classified success =>
    exact .inl ⟨by simp [Stage.error?, success, Except.mapError, errorOf], rfl⟩
  | _ => exact .inl ⟨rfl, rfl⟩

/-- A thread keeps what it has published or found, since nothing replaces a stage with a
classification by one without. -/
theorem Move.keepsSuccess
    (move : Move (preparedSupplier found outcomes) thread shared stage next after)
    : stage.success?.isSome → next.success?.isSome := by
  cases move with
  | completed => exact id
  | @released result => cases result <;> exact id
  | _ => exact nofun

/-- Who publishes a classification has it. -/
theorem Move.published_success
    (move : Move (preparedSupplier found outcomes) thread shared stage next after)
    (absent : shared.extractor.classification = none)
    (present : after.extractor.classification.isSome)
    : next.success?.isSome := by
  cases move with
  | published => rfl
  | _ => exact absurd (absent ▸ present) (by simp)

/-- The errors of the threads are those of the used outcomes, each once, and a published
classification is in the hands of some thread. -/
structure Accounted (config : Config) (outcomes : Nat → Except ε Tables) (state : State Nat ε)
    : Prop where
  errors
    : (state.threads.filterMap Stage.error?).Perm
        ((attempts config outcomes state.shared.world).filterMap errorOf)
  held
    : state.shared.extractor.classification.isSome
      → ∃ stage ∈ state.threads, stage.success?.isSome

/-- Threads that have not started have no errors, and nothing is published. -/
theorem Accounted.initial (count : Nat) (queries : List Query) (given : Option Config)
    : Accounted config outcomes
        (State.initial count queries (Extractor.create given) 0 : State Nat ε) where
  errors := by simp [State.initial, attempts, Stage.error?]
  held := nofun

/-- In place of a thread's stage another one stands: up to order it was first and is first. -/
theorem perm_set {α : Type} {items : List α} {position : Nat} {old : α}
    (here : items[position]? = some old) (new : α)
    : ∃ rest, items.Perm (old :: rest) ∧ (items.set position new).Perm (new :: rest) := by
  obtain ⟨inside, rfl⟩ := List.getElem?_eq_some_iff.mp here
  exact ⟨items.eraseIdx position, (List.getElem_cons_eraseIdx_perm inside).symm,
    List.set_perm_cons_eraseIdx inside new⟩

/-- What a list's first item adds to the values found in it. -/
theorem filterMap_cons_toList {α β : Type} (f : α → Option β) (item : α) (items : List α)
    : (item :: items).filterMap f = (f item).toList ++ items.filterMap f := by
  cases found : f item <;> simp [found]

/-- A step keeps the accounts: the only new error comes from the outcome that the step uses up. -/
theorem Accounted.step {before later : State Nat ε}
    (accounted : Accounted config outcomes before)
    (coherent : Coherent config outcomes found before)
    (taken : State.Steps (preparedSupplier found outcomes) before later)
    : Accounted config outcomes later := by
  rcases taken.cases with ⟨number, stage, next, shared, here, move, rfl⟩ | ⟨_, _, _, _, _, _, rfl⟩
  · have claim := coherent.fits number stage here
    obtain ⟨rest, was, becomes⟩ := perm_set here next
    have known := (was.filterMap Stage.error?).symm.trans accounted.errors
    rw [filterMap_cons_toList] at known
    refine ⟨(becomes.filterMap Stage.error?).trans ?_, ?_⟩
    · rw [filterMap_cons_toList]
      rcases move.errors claim with ⟨same, world⟩ | ⟨had, gets, world⟩
      · simpa only [same, world] using known
      · rw [had, Option.toList_none, List.nil_append] at known
        simp only [gets, world, attempts_succ, List.filterMap_append, filterMap_cons_toList _ _ [],
          List.filterMap_nil, List.append_nil]
        exact List.perm_append_comm.trans (known.append_right _)
    · intro present
      by_cases absent : before.shared.extractor.classification = none
      · exact ⟨next, becomes.mem_iff.mpr (List.mem_cons_self ..),
          move.published_success absent present⟩
      · obtain ⟨holder, member, success⟩ := accounted.held (Option.isSome_iff_ne_none.mpr absent)
        rcases List.mem_cons.mp (was.mem_iff.mp member) with rfl | other
        · exact ⟨next, becomes.mem_iff.mpr (List.mem_cons_self ..), move.keepsSuccess success⟩
        · exact ⟨holder, becomes.mem_iff.mpr (List.mem_cons_of_mem _ other), success⟩
  · exact ⟨accounted.errors, accounted.held⟩

/-- The accounts of every reached state, by induction on the steps. -/
theorem Accounted.reached (accounted : Accounted config outcomes first)
    (coherent : Coherent config outcomes found first)
    (reached : State.Reaches (preparedSupplier found outcomes) first state)
    : Accounted config outcomes state := by
  induction reached with
  | refl => exact accounted
  | step reached taken middle => exact middle.step (coherent.reached reached) taken

-----------------------------------------------------------------------------------------
-- Complete runs
-----------------------------------------------------------------------------------------

/-- All threads are done. -/
def State.Complete (state : State Nat ε) : Prop :=
  ∀ stage ∈ state.threads, ∃ result, stage = .finished result

/-- When all threads are done, each of them has a result. -/
theorem State.Complete.length_results (complete : state.Complete)
    : state.results.length = state.threads.length := by
  unfold State.Complete at complete
  unfold State.results
  generalize state.threads = threads at complete ⊢
  induction threads with
  | nil => rfl
  | cons stage rest step =>
    obtain ⟨result, rfl⟩ := complete stage (List.mem_cons_self ..)
    simpa [Stage.result?] using step fun stage member =>
      complete stage (List.mem_cons_of_mem _ member)

/-- When all threads are done, their errors are those of their results. -/
theorem State.Complete.errors_results (complete : state.Complete)
    : state.results.filterMap errorOf = state.threads.filterMap Stage.error? := by
  rw [State.results, List.filterMap_filterMap]
  apply List.filterMap_congr
  intro stage member
  obtain ⟨result, rfl⟩ := complete stage member
  rfl

/-- A result of a finished thread that is a classification is the published one. -/
theorem Coherent.result_published (coherent : Coherent config outcomes found state)
    {classification : Classification} (member : .ok classification ∈ state.results)
    : state.shared.extractor.classification = some classification := by
  obtain ⟨stage, there, result⟩ := List.mem_filterMap.mp member
  obtain ⟨thread, here⟩ := List.mem_iff_getElem?.mp there
  have claim := coherent.fits thread stage here
  cases stage with
  | finished own =>
    cases result
    exact claim.2
  | _ => cases result

/-- When all threads are done the lock is free, so things are settled. -/
theorem Coherent.settled_of_complete (coherent : Coherent config outcomes found state)
    (complete : state.Complete)
    : Settled config outcomes state.shared := by
  cases holder : state.shared.holder with
  | none => exact coherent.free holder
  | some thread =>
    have here := List.getElem?_eq_getElem (coherent.held thread holder)
    obtain ⟨result, done⟩ := complete _ (List.getElem_mem (coherent.held thread holder))
    have claim := coherent.fits thread _ here
    rw [done] at claim
    cases result with
    | error error => exact absurd holder claim
    | ok classification => exact absurd holder claim.1

/-- Where nothing is published when all threads are done, each of them has an error of its own: that
of one of the outcomes, and there are as many outcomes as threads. -/
theorem Accounted.results_failed (accounted : Accounted config outcomes state)
    (coherent : Coherent config outcomes found state) (complete : state.Complete) {calls : Nat}
    (unpublished : Unpublished config outcomes state.shared .uninitialized calls calls calls)
    : state.results.Perm (attempts config outcomes calls) := by
  have failed : ∀ result ∈ state.results, ∃ error, result = .error error := by
    intro result member
    cases result with
    | error error => exact ⟨error, rfl⟩
    | ok classification =>
      have present := coherent.result_published member
      rw [unpublished.absent] at present
      cases present
  have errors := accounted.errors
  rw [← complete.errors_results, unpublished.used] at errors
  have perm := errors.map (Except.error (α := Classification))
  rwa [map_error_filterMap failed, map_error_attempts unpublished.failed] at perm

/-- Where a classification is published when all threads are done, the threads whose loads failed
have the errors of those and all others, of which there is one at least, have that classification.
-/
theorem Accounted.results_published (accounted : Accounted config outcomes state)
    (coherent : Coherent config outcomes found state) (complete : state.Complete)
    {classification : Classification} {failures : Nat}
    (present : state.shared.extractor.classification = some classification)
    (used : state.shared.world = failures + 1)
    (last : attempt config.options (outcomes failures) = .ok classification)
    (failed : FailedBefore config outcomes failures)
    : failures < state.threads.length
      ∧ state.results.Perm
          (attempts config outcomes failures
            ++ List.replicate (state.threads.length - failures) (.ok classification)) := by
  have only : ∀ other, .ok other ∈ state.results → other = classification := fun other member =>
    Option.some.inj ((coherent.result_published member).symm.trans present)
  have errors := accounted.errors
  rw [← complete.errors_results, used, attempts_succ, last, List.filterMap_append] at errors
  simp only [List.filterMap_cons, errorOf, List.filterMap_nil, List.append_nil] at errors
  have count : (state.results.filterMap errorOf).length = failures := by
    rw [errors.length_eq, ← List.length_map (f := Except.error (α := Classification)),
      map_error_attempts failed, attempts, List.length_map, List.length_range]
  have perm := perm_errors_append_replicate only
  have mapped := errors.map (Except.error (α := Classification))
  rw [map_error_attempts failed] at mapped
  rw [count, complete.length_results] at perm
  have perm := perm.trans (mapped.append_right _)
  refine ⟨?_, perm⟩
  obtain ⟨stage, there, success⟩ := accounted.held (by rw [present]; rfl)
  obtain ⟨result, rfl⟩ := complete stage there
  cases result with
  | error error => cases success
  | ok own =>
    have member : .ok own ∈ state.results := List.mem_filterMap.mpr ⟨_, there, rfl⟩
    rcases List.mem_append.mp (perm.mem_iff.mp member) with among | copy
    · obtain ⟨position, below, same⟩ := List.mem_map.mp among
      obtain ⟨error, wrong⟩ := failed position (List.mem_range.mp below)
      rw [wrong] at same
      cases same
    · have some := (List.mem_replicate.mp copy).1
      omega

end ReservedWords.Barrier
