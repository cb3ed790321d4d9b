import ReservedWords.Proofs.Barrier.Coherence

/-!
Runs of the barrier: every state that steps of any threads and questions, in any order, lead to is
coherent. What is published is never replaced, no load begins after that, the last phase is never
left, and a question is answered from what is published or refused.
-/

namespace ReservedWords.Barrier

variable {ε : Type} {config found : Config} {outcomes : Nat → Except ε Tables}
  {before after first state later : State Nat ε}

-----------------------------------------------------------------------------------------
-- Coherence of every reached state
-----------------------------------------------------------------------------------------

/-- Threads that have not started claim nothing but that they do not hold the lock, which is free.
-/
theorem Coherent.initial (count : Nat) (queries : List Query) (given : Option Config)
    : Coherent (given.getD found) outcomes found
        (State.initial count queries (Extractor.create given) 0) where
  fits thread stage here := by
    obtain ⟨_, rfl⟩ := List.getElem?_eq_some_iff.mp here
    simp [State.initial, Stage.Fits]
  free _ := .inl ⟨0, rfl, rfl, rfl, rfl, nofun⟩
  held := nofun
  configured := rfl

/-- A step keeps coherence: the mover's claim by its own move, the other claims because they do not
depend on what the move changes. -/
theorem Coherent.step (coherent : Coherent config outcomes found before)
    (taken : State.Steps (preparedSupplier found outcomes) before after)
    : Coherent config outcomes found after := by
  rcases taken.cases with ⟨number, stage, next, shared, here, move, rfl⟩ | ⟨_, _, _, _, _, _, rfl⟩
  · have claim := coherent.fits number stage here
    have inside : number < before.threads.length := (List.getElem?_eq_some_iff.mp here).1
    refine {
      fits := ?_
      free := move.settled claim coherent.free
      held := ?_
      configured := move.keepsConfig.trans coherent.configured
    }
    · intro thread bystander there
      by_cases same : thread = number
      · subst thread
        rw [List.getElem?_set_self inside] at there
        cases there
        exact move.fits claim coherent.free coherent.configured
      · rw [List.getElem?_set_ne (Ne.symm same)] at there
        exact move.fits_other claim same (coherent.fits thread bystander there)
    · intro thread holds
      rw [List.length_set]
      rcases move.changes_inside claim with rfl | ⟨_, free | held⟩
      · exact coherent.held thread holds
      · rw [free] at holds
        cases holds
      · rw [held] at holds
        cases holds
        exact inside
  · exact ⟨coherent.fits, coherent.free, coherent.held, coherent.configured⟩

/-- Coherence of every reached state, by induction on the steps. -/
theorem Coherent.reached (coherent : Coherent config outcomes found first)
    (reached : State.Reaches (preparedSupplier found outcomes) first state)
    : Coherent config outcomes found state := by
  induction reached with
  | refl => exact coherent
  | step _ taken middle => exact middle.step taken

-----------------------------------------------------------------------------------------
-- What stays once it is there
-----------------------------------------------------------------------------------------

/-- Only the thread that holds the lock is inside a load, so no two threads are. -/
theorem Coherent.loading_unique (coherent : Coherent config outcomes found state)
    {one other : Nat} {its theirs : Config}
    (here : state.threads[one]? = some (.loading its))
    (there : state.threads[other]? = some (.loading theirs))
    : one = other := by
  have holds : state.shared.holder = some one := (coherent.fits one _ here).1
  have too : state.shared.holder = some other := (coherent.fits other _ there).1
  exact Option.some.inj (holds.symm.trans too)

/-- Where something is published, no thread has anything left to publish. -/
theorem Coherent.not_classified (coherent : Coherent config outcomes found state)
    {classification : Classification}
    (present : state.shared.extractor.classification = some classification)
    : ∀ stage ∈ state.threads, ∀ own, stage ≠ .classified own := by
  rintro stage member own rfl
  obtain ⟨thread, here⟩ := List.mem_iff_getElem?.mp member
  obtain ⟨_, calls, unpublished, _⟩ := coherent.fits thread _ here
  rw [unpublished.absent] at present
  cases present

/-- A published classification stays, and no load begins any more, by induction on the steps. -/
theorem Coherent.published_stays (coherent : Coherent config outcomes found state)
    {classification : Classification}
    (present : state.shared.extractor.classification = some classification)
    (reached : State.Reaches (preparedSupplier found outcomes) state later)
    : later.shared.extractor.classification = some classification
      ∧ later.shared.calls = state.shared.calls := by
  induction reached with
  | refl => exact ⟨present, rfl⟩
  | step reached taken middle =>
    obtain ⟨there, calls⟩ := middle
    rcases taken.cases with ⟨number, stage, next, shared, here, move, rfl⟩ | ⟨_, _, _, _, _, _, rfl⟩
    · have claim := (coherent.reached reached).fits number stage here
      exact ⟨move.keepsClassification claim there, (move.keepsCalls claim there).trans calls⟩
    · exact ⟨there, calls⟩

/-- The last phase stays, by induction on the steps. -/
theorem Coherent.initialized_stays (coherent : Coherent config outcomes found state)
    (ready : state.shared.extractor.phase = .initialized)
    (reached : State.Reaches (preparedSupplier found outcomes) state later)
    : later.shared.extractor.phase = .initialized := by
  induction reached with
  | refl => exact ready
  | step reached taken middle =>
    rcases taken.cases with ⟨number, stage, next, shared, here, move, rfl⟩ | ⟨_, _, _, _, _, _, rfl⟩
    · exact move.keepsInitialized ((coherent.reached reached).fits number stage here) middle
    · exact middle

-----------------------------------------------------------------------------------------
-- Questions
-----------------------------------------------------------------------------------------

/-- What a question has found is there, its answer is that of the published classification, and what
it has found is never gone. -/
def Asking.Sound (extractor : Extractor) (query : Query) : Asking → Prop
  | start | absent | refused _ => True
  | present => ∃ classification, extractor.classification = some classification
  | answered answer =>
    ∃ classification,
      extractor.classification = some classification ∧ answer = query.answer classification
  | lost => False

/-- A question's own step keeps it sound, by cases on where it stands and on what it finds. -/
theorem Asking.Sound.advance {extractor : Extractor} {query : Query} {asking next : Asking}
    (sound : asking.Sound extractor query) (taken : asking.advance extractor query = some next)
    : next.Sound extractor query := by
  cases asking with
  | start =>
    cases there : extractor.classification with
    | none =>
      simp only [Asking.advance, there, Option.isSome_none, Bool.false_eq_true, if_false] at taken
      cases taken
      exact trivial
    | some classification =>
      simp only [Asking.advance, there, Option.isSome_some, if_true] at taken
      cases taken
      exact ⟨classification, there⟩
  | present =>
    obtain ⟨classification, there⟩ := sound
    rw [Asking.advance, there] at taken
    cases taken
    exact ⟨classification, there, rfl⟩
  | absent =>
    cases taken
    exact trivial
  | answered | refused | lost => cases taken

/-- A question stays sound as long as what is published stays. -/
theorem Asking.Sound.mono {extractor changed : Extractor} {query : Query} {asking : Asking}
    (sound : asking.Sound extractor query)
    (kept
      : ∀ classification,
          extractor.classification = some classification
          → changed.classification = some classification)
    : asking.Sound changed query := by
  cases asking with
  | present =>
    obtain ⟨classification, there⟩ := sound
    exact ⟨classification, kept classification there⟩
  | answered answer =>
    obtain ⟨classification, there, same⟩ := sound
    exact ⟨classification, kept classification there, same⟩
  | _ => exact sound

def State.QuestionsSound (state : State Nat ε) : Prop :=
  ∀ question ∈ state.questions, question.2.Sound state.shared.extractor question.1

theorem State.questionsSound_initial (count : Nat) (queries : List Query) (extractor : Extractor)
    : (State.initial count queries extractor 0 : State Nat ε).QuestionsSound := by
  intro question member
  obtain ⟨query, _, rfl⟩ := List.mem_map.mp member
  exact trivial

theorem Coherent.questionsSound_step (coherent : Coherent config outcomes found before)
    (sound : before.QuestionsSound)
    (taken : State.Steps (preparedSupplier found outcomes) before after)
    : after.QuestionsSound := by
  rcases taken.cases with ⟨number, stage, next, shared, here, move, rfl⟩
    | ⟨number, query, asking, next, here, advanced, rfl⟩
  · intro question member
    exact (sound question member).mono fun _ present =>
      move.keepsClassification (coherent.fits number stage here) present
  · intro question member
    rcases List.mem_or_eq_of_mem_set member with old | rfl
    · exact sound question old
    · exact (sound (query, asking) (List.mem_of_getElem? here)).advance advanced

/-- The questions of every reached state are sound, by induction on the steps. -/
theorem Coherent.questionsSound (coherent : Coherent config outcomes found first)
    (sound : first.QuestionsSound)
    (reached : State.Reaches (preparedSupplier found outcomes) first state)
    : state.QuestionsSound := by
  induction reached with
  | refl => exact sound
  | step reached taken middle =>
    exact (coherent.reached reached).questionsSound_step middle taken

end ReservedWords.Barrier
