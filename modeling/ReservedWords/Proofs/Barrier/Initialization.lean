import ReservedWords.Proofs.Barrier.Progress

/-!
What the barrier guarantees: threads load one at a time until the first load that yields a
classification, which is then published once and for all; the threads whose loads failed have those
failures, and all the others have the classification.
-/

namespace ReservedWords.Barrier

variable {ε : Type}

/-- At the end of a run in which a load has succeeded, every load before it has failed and none has
been made after it. -/
theorem Coherent.complete_published {config found : Config} {outcomes : Nat → Except ε Tables}
    {state : State Nat ε} (coherent : Coherent config outcomes found state)
    (accounted : Accounted config outcomes state) (complete : state.Complete)
    {failures : Nat} {classification : Classification} (early : failures < state.threads.length)
    (failed : FailedBefore config outcomes failures)
    (last : attempt config.options (outcomes failures) = .ok classification)
    : state.shared.calls = failures + 1
      ∧ state.shared.extractor.phase = .initialized
      ∧ state.shared.extractor.classification = some classification
      ∧ state.results.Perm
          (attempts config outcomes failures
            ++ List.replicate (state.threads.length - failures) (.ok classification)) := by
  rcases coherent.settled_of_complete complete with ⟨calls, unpublished⟩ | ⟨own, published⟩
  · -- One failed load for each thread leaves no room for the one that succeeds.
    have same := (accounted.results_failed coherent complete unpublished).length_eq
    rw [complete.length_results, attempts, List.length_map, List.length_range] at same
    obtain ⟨error, wrong⟩ := unpublished.failed failures (same ▸ early)
    rw [last] at wrong
    cases wrong
  · obtain ⟨position, begun, used, ready, before⟩ := published.source
    obtain ⟨rfl, rfl⟩ := before.unique ready failed last
    exact ⟨begun, published.phase, published.present,
      (accounted.results_published coherent complete published.present used ready before).2⟩

/-- At the end of a run in which there were no more loads than failures, every thread has failed. -/
theorem Coherent.complete_failed {config found : Config} {outcomes : Nat → Except ε Tables}
    {state : State Nat ε} (coherent : Coherent config outcomes found state)
    (accounted : Accounted config outcomes state) (complete : state.Complete)
    (failed : FailedBefore config outcomes state.threads.length)
    : state.shared.calls = state.threads.length
      ∧ state.shared.extractor.phase = .uninitialized
      ∧ state.shared.extractor.classification = none
      ∧ state.results.Perm (attempts config outcomes state.threads.length) := by
  rcases coherent.settled_of_complete complete with ⟨calls, unpublished⟩ | ⟨own, published⟩
  · have perm := accounted.results_failed coherent complete unpublished
    have same := perm.length_eq
    rw [complete.length_results, attempts, List.length_map, List.length_range] at same
    exact ⟨same ▸ unpublished.begun, unpublished.phase, unpublished.absent, same ▸ perm⟩
  · obtain ⟨position, _, used, ready, before⟩ := published.source
    obtain ⟨early, _⟩ :=
      accounted.results_published coherent complete published.present used ready before
    obtain ⟨error, wrong⟩ := failed position early
    rw [ready] at wrong
    cases wrong

/-- Any number of threads that initialize, with any questions between their steps, any outcomes of
loads and any order of steps. In every reached state no two threads are inside a load; where a
classification is published, nobody is about to publish one, and it stays as no load begins; the
last phase is never left; a question is answered from the published classification, and what it has
found never goes away; and some thread can go on until all are done. When all are done: if one of as
many outcomes as there are threads yields a classification, the first that does was the last to be
used, its classification is published, the threads have the failures before it, each once, and all
other threads have the classification; if none does, each thread has one of the failures. -/
theorem initialization_publishes_first_success (count : Nat) (queries : List Query)
    (given : Option Config) (found : Config) (outcomes : Nat → Except ε Tables)
    {state : State Nat ε}
    (reached
      : State.Reaches (preparedSupplier found outcomes)
          (State.initial count queries (Extractor.create given) 0) state)
    : (∀ (one other : Nat) (its theirs : Config),
        state.threads[one]? = some (.loading its)
        → state.threads[other]? = some (.loading theirs)
        → one = other)
      ∧ (∀ classification,
          state.shared.extractor.classification = some classification
          → (∀ stage ∈ state.threads, ∀ own, stage ≠ .classified own)
            ∧ ∀ later,
                State.Reaches (preparedSupplier found outcomes) state later
                → later.shared.extractor.classification = some classification
                  ∧ later.shared.calls = state.shared.calls)
      ∧ (state.shared.extractor.phase = .initialized
          → ∀ later,
              State.Reaches (preparedSupplier found outcomes) state later
              → later.shared.extractor.phase = .initialized)
      ∧ (∀ question ∈ state.questions,
          question.2 ≠ .lost
          ∧ ∀ answer,
              question.2 = .answered answer
              → ∃ classification,
                  state.shared.extractor.classification = some classification
                  ∧ answer = question.1.answer classification)
      ∧ (state.Complete
          ∨ ∃ number next,
              state.step? (preparedSupplier found outcomes) (.thread number) = some next)
      ∧ (state.Complete
          → (∀ failures classification,
              failures < count
              → FailedBefore (given.getD found) outcomes failures
              → attempt (given.getD found).options (outcomes failures) = .ok classification
              → state.shared.calls = failures + 1
                ∧ state.shared.extractor.phase = .initialized
                ∧ state.shared.extractor.classification = some classification
                ∧ state.results.Perm
                    (attempts (given.getD found) outcomes failures
                      ++ List.replicate (count - failures) (.ok classification)))
            ∧ (FailedBefore (given.getD found) outcomes count
                → state.shared.calls = count
                  ∧ state.shared.extractor.phase = .uninitialized
                  ∧ state.shared.extractor.classification = none
                  ∧ state.results.Perm (attempts (given.getD found) outcomes count))) := by
  have start
      : Coherent (given.getD found) outcomes found
          (State.initial count queries (Extractor.create given) 0) :=
    Coherent.initial count queries given
  have coherent := start.reached reached
  have accounted := (Accounted.initial count queries given).reached start reached
  have sound := start.questionsSound
    (State.questionsSound_initial count queries (Extractor.create given)) reached
  have threads : state.threads.length = count := by
    rw [reached.length_threads, State.initial, List.length_replicate]
  refine ⟨?_, ?_, ?_, ?_, coherent.progress, ?_⟩
  · exact fun one other its theirs here there => coherent.loading_unique here there
  · exact fun classification present =>
      ⟨coherent.not_classified present, fun later => coherent.published_stays present⟩
  · exact fun ready later => coherent.initialized_stays ready
  · intro question member
    have holds := sound question member
    refine ⟨?_, ?_⟩
    · intro lost
      rwa [lost] at holds
    · intro answer answered
      rwa [answered] at holds
  · intro complete
    refine ⟨?_, ?_⟩
    · intro failures classification early failed last
      rw [← threads]
      exact coherent.complete_published accounted complete (threads ▸ early) failed last
    · intro failed
      rw [← threads] at failed ⊢
      exact coherent.complete_failed accounted complete failed

/-- Tables with one keyword that no production accepts. -/
def oneKeyword : Tables where
  tokens := Dictionary.ofList [("K_END", some (.literal "K_END" "end"))]
  productions := Dictionary.ofList []

/-- A first load that fails, and loads that succeed from then on. -/
def failsOnce : Nat → Except Unit Tables
  | 0 => .error ()
  | _ => .ok oneKeyword

/-- The classification of tables with one keyword. -/
def oneKeywordClassification : Classification where
  keywordTable := Dictionary.ofList [("K_END", ⟨"K_END", "end"⟩)]
  buckets := Dictionary.ofList []

/-- Two threads and a question look before the first load; the second thread loads first and fails,
the first one loads then, and the third comes when the classification is there, but not the phase.
-/
def crossingTurns : List Turn :=
  [.thread 0, .thread 1, .question 0]
    ++ List.replicate 4 (.thread 1) ++ [.question 0] ++ List.replicate 4 (.thread 1)
    ++ List.replicate 8 (.thread 0) ++ [.thread 2] ++ List.replicate 2 (.thread 0)

/-- Three threads and a question after these turns. -/
def crossed : State Nat Unit :=
  (State.initial 3 [.restrictedKeywords] (Extractor.create none) 0).schedule
    (preparedSupplier Config.packaged failsOnce) crossingTurns

/-- With three threads and one failing load there are two loads; one thread has the failure and the
two others have the classification of the second load. -/
theorem initialization_publishes_first_success_crossed
    : State.Reaches (preparedSupplier Config.packaged failsOnce)
        (State.initial 3 [.restrictedKeywords] (Extractor.create none) 0) crossed
      ∧ crossed.Complete
      ∧ crossed.shared.calls = 2
      ∧ crossed.shared.extractor.phase = .initialized
      ∧ crossed.results.Perm
          [.error (.load ()), .ok oneKeywordClassification, .ok oneKeywordClassification] := by
  have reached := State.reaches_schedule (preparedSupplier Config.packaged failsOnce)
    (State.initial 3 [.restrictedKeywords] (Extractor.create none) 0) crossingTurns
  have threads : crossed.threads
      = [.finished (.ok oneKeywordClassification), .finished (.error (.load ())),
        .finished (.ok oneKeywordClassification)] := rfl
  have complete : crossed.Complete := by
    intro stage member
    simp only [threads, List.mem_cons, List.not_mem_nil, or_false] at member
    rcases member with rfl | rfl | rfl <;> exact ⟨_, rfl⟩
  have failed : FailedBefore Config.packaged failsOnce 1 := by
    intro position below
    exact ⟨.load (), by rw [Nat.lt_one_iff.mp below]; rfl⟩
  have last : attempt Config.packaged.options (failsOnce 1) = .ok oneKeywordClassification := rfl
  have guarantees := initialization_publishes_first_success 3 [.restrictedKeywords] none
    Config.packaged failsOnce reached
  obtain ⟨calls, phase, _, results⟩ :=
    (guarantees.2.2.2.2.2 complete).1 1 oneKeywordClassification (by decide) failed last
  exact ⟨reached, complete, calls, phase, results⟩

end ReservedWords.Barrier
