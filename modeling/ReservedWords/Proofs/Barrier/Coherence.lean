import ReservedWords.Proofs.Barrier.Moves

/-!
Coherence of the barrier. Each thread claims something about the shared state, by where it stands,
and only the thread that holds the lock claims anything that another thread could spoil. All of this
is kept by every step, whatever the loads give.
-/

namespace ReservedWords.Barrier

variable {ε : Type}

-----------------------------------------------------------------------------------------
-- Prepared loads
-----------------------------------------------------------------------------------------

/-- A supplier of a configuration and of prepared loads, one outcome a call; its world counts the
outcomes that have been used up. -/
def preparedSupplier (config : Config) (outcomes : Nat → Except ε Tables) : Supplier Nat ε where
  config _ := .ok config
  load _ _ used := { world := used + 1, result := outcomes used }

/-- What a thread has from the outcome of its load: the error of the load, or what becomes of its
tables. -/
def attempt (options : Options) : Except ε Tables → Except (InitializeError ε) Classification
  | .error error => .error (.load error)
  | .ok tables => (Classification.ofTables tables options).mapError .collect

theorem attempt_of_collectFailed {options : Options} {outcome : Except ε Tables} {tables : Tables}
    {error : CollectError} (returned : outcome = .ok tables)
    (failure : Classification.ofTables tables options = .error error)
    : attempt options outcome = .error (.collect error) := by
  rw [returned, attempt, failure, Except.mapError]

theorem attempt_of_classified {options : Options} {outcome : Except ε Tables} {tables : Tables}
    {classification : Classification} (returned : outcome = .ok tables)
    (success : Classification.ofTables tables options = .ok classification)
    : attempt options outcome = .ok classification := by
  rw [returned, attempt, success, Except.mapError]

/-- The first outcomes, as many as are given, yield no classification. -/
def FailedBefore (config : Config) (outcomes : Nat → Except ε Tables) (count : Nat) : Prop :=
  ∀ position < count, ∃ error, attempt config.options (outcomes position) = .error error

theorem FailedBefore.succ {config : Config} {outcomes : Nat → Except ε Tables} {count : Nat}
    {error : InitializeError ε} (failed : FailedBefore config outcomes count)
    (last : attempt config.options (outcomes count) = .error error)
    : FailedBefore config outcomes (count + 1) := by
  intro position below
  rcases Nat.lt_succ_iff_lt_or_eq.mp below with earlier | rfl
  · exact failed position earlier
  · exact ⟨error, last⟩

/-- Only one position can be that of the first classification, since every earlier one failed. -/
theorem FailedBefore.unique {config : Config} {outcomes : Nat → Except ε Tables}
    {first second : Nat} {one other : Classification}
    (firstFailed : FailedBefore config outcomes first)
    (firstReady : attempt config.options (outcomes first) = .ok one)
    (secondFailed : FailedBefore config outcomes second)
    (secondReady : attempt config.options (outcomes second) = .ok other)
    : first = second ∧ one = other := by
  rcases Nat.lt_trichotomy first second with less | rfl | greater
  · obtain ⟨error, failed⟩ := secondFailed first less
    rw [firstReady] at failed
    cases failed
  · exact ⟨rfl, Except.ok.inj (firstReady.symm.trans secondReady)⟩
  · obtain ⟨error, failed⟩ := firstFailed second greater
    rw [secondReady] at failed
    cases failed

-----------------------------------------------------------------------------------------
-- What each stage claims
-----------------------------------------------------------------------------------------

section

variable (config : Config) (outcomes : Nat → Except ε Tables)

/-- Nothing is published, with the phase, the begun calls, the used outcomes, and how many of those
are known to have failed. -/
structure Unpublished (shared : Shared Nat) (phase : Phase) (begun used failed : Nat) : Prop where
  absent : shared.extractor.classification = none
  phase : shared.extractor.phase = phase
  begun : shared.calls = begun
  used : shared.world = used
  failed : FailedBefore config outcomes failed

/-- A classification is published; it comes from the last call, and all calls before it failed. -/
structure Published (shared : Shared Nat) (phase : Phase) (classification : Classification)
    : Prop where
  present : shared.extractor.classification = some classification
  phase : shared.extractor.phase = phase
  source
    : ∃ failures,
        shared.calls = failures + 1
        ∧ shared.world = failures + 1
        ∧ attempt config.options (outcomes failures) = .ok classification
        ∧ FailedBefore config outcomes failures

/-- No initialization is under way: all calls so far have failed, or the last one has not and its
classification and phase are published. -/
def Settled (shared : Shared Nat) : Prop :=
  (∃ calls, Unpublished config outcomes shared .uninitialized calls calls calls)
  ∨ ∃ classification, Published config outcomes shared .initialized classification

/-- What a thread claims about the shared state while it stands at a stage. -/
def Stage.Fits (shared : Shared Nat) (thread : Nat) : Stage ε → Prop
  | start | waiting | finished (.error _) => shared.holder ≠ some thread
  | finished (.ok classification) =>
    shared.holder ≠ some thread ∧ shared.extractor.classification = some classification
  | locked => shared.holder = some thread ∧ Settled config outcomes shared
  | chosen | leaving (.error _) =>
    shared.holder = some thread
    ∧ ∃ calls, Unpublished config outcomes shared .uninitialized calls calls calls
  | announced | failed _ =>
    shared.holder = some thread
    ∧ ∃ calls, Unpublished config outcomes shared .initializing calls calls calls
  | configured own =>
    shared.holder = some thread
    ∧ own = config
    ∧ ∃ calls, Unpublished config outcomes shared .initializing calls calls calls
  | loading own =>
    shared.holder = some thread
    ∧ own = config
    ∧ ∃ calls, Unpublished config outcomes shared .initializing (calls + 1) calls calls
  | loaded own tables =>
    shared.holder = some thread
    ∧ own = config
    ∧ ∃ calls,
        Unpublished config outcomes shared .initializing (calls + 1) (calls + 1) calls
        ∧ outcomes calls = .ok tables
  | classified classification =>
    shared.holder = some thread
    ∧ ∃ calls,
        Unpublished config outcomes shared .initializing (calls + 1) (calls + 1) calls
        ∧ attempt config.options (outcomes calls) = .ok classification
  | published classification =>
    shared.holder = some thread ∧ Published config outcomes shared .initializing classification
  | leaving (.ok classification) =>
    shared.holder = some thread ∧ Published config outcomes shared .initialized classification

/-- Every thread's claim holds, the lock is free only between initializations, it is held by one of
the threads, and the configuration is the one that all of them see. -/
structure Coherent (found : Config) (state : State Nat ε) : Prop where
  fits
    : ∀ thread (stage : Stage ε),
        state.threads[thread]? = some stage
        → stage.Fits config outcomes state.shared thread
  free : state.shared.holder = none → Settled config outcomes state.shared
  held : ∀ thread, state.shared.holder = some thread → thread < state.threads.length
  configured : state.shared.extractor.config.getD found = config

end

variable {config found : Config} {outcomes : Nat → Except ε Tables} {thread other : Nat}
  {shared after : Shared Nat} {stage next : Stage ε}

/-- Being settled does not depend on the lock and on what is reported. -/
theorem Settled.copy (settled : Settled config outcomes shared)
    (extractor : after.extractor = shared.extractor) (calls : after.calls = shared.calls)
    (world : after.world = shared.world)
    : Settled config outcomes after := by
  rcases settled with ⟨count, absent, phase, begun, used, failed⟩
    | ⟨classification, present, phase, source⟩
  · exact .inl ⟨count, extractor ▸ absent, extractor ▸ phase, calls ▸ begun, world ▸ used, failed⟩
  · exact .inr ⟨classification, extractor ▸ present, extractor ▸ phase, by rwa [calls, world]⟩

-----------------------------------------------------------------------------------------
-- A thread's own move
-----------------------------------------------------------------------------------------

theorem configFrom_preparedSupplier {extractor : Extractor} (world : Nat)
    : extractor.configFrom (preparedSupplier found outcomes) world
      = .ok (extractor.config.getD found) := by
  cases given : extractor.config <;> simp [Extractor.configFrom, given, preparedSupplier]

/-- A thread's move makes its next claim true, by cases on the move: each stage claims just what the
move to the next one needs. -/
theorem Move.fits (move : Move (preparedSupplier found outcomes) thread shared stage next after)
    (claim : stage.Fits config outcomes shared thread)
    (free : shared.holder = none → Settled config outcomes shared)
    (configured : shared.extractor.config.getD found = config)
    : next.Fits config outcomes after thread := by
  cases move with
  | found present => exact ⟨claim, present⟩
  | missed _ => exact claim
  | acquired isFree => exact ⟨rfl, (free isFree).copy rfl rfl rfl⟩
  | foundAgain present =>
    obtain ⟨holds, ⟨calls, unpublished⟩ | ⟨classification, published⟩⟩ := claim
    · rw [unpublished.absent] at present
      cases present
    · rw [published.present] at present
      cases present
      exact ⟨holds, published⟩
  | missedAgain absent =>
    obtain ⟨holds, unpublished | ⟨classification, published⟩⟩ := claim
    · exact ⟨holds, unpublished⟩
    · rw [published.present] at absent
      cases absent
  | announced =>
    obtain ⟨holds, calls, unpublished⟩ := claim
    exact ⟨holds, calls, unpublished.absent, rfl, unpublished.begun, unpublished.used,
      unpublished.failed⟩
  | unconfigured missing =>
    rw [configFrom_preparedSupplier] at missing
    cases missing
  | configured had =>
    obtain ⟨holds, calls, unpublished⟩ := claim
    rw [configFrom_preparedSupplier, configured] at had
    cases had
    exact ⟨holds, rfl, calls, unpublished.absent, unpublished.phase, unpublished.begun,
      unpublished.used, unpublished.failed⟩
  | called =>
    obtain ⟨holds, rfl, calls, unpublished⟩ := claim
    exact ⟨holds, rfl, calls, unpublished.absent, unpublished.phase,
      congrArg (· + 1) unpublished.begun, unpublished.used, unpublished.failed⟩
  | loadFailed answered failure =>
    obtain ⟨holds, rfl, calls, unpublished⟩ := claim
    subst answered
    have outcome : outcomes calls = .error _ := unpublished.used ▸ failure
    exact ⟨holds, calls + 1, unpublished.absent, unpublished.phase, unpublished.begun,
      congrArg (· + 1) unpublished.used, unpublished.failed.succ (congrArg (attempt _) outcome)⟩
  | loadReturned answered success =>
    obtain ⟨holds, rfl, calls, unpublished⟩ := claim
    subst answered
    have outcome : outcomes calls = .ok _ := unpublished.used ▸ success
    exact ⟨holds, rfl, calls, ⟨unpublished.absent, unpublished.phase, unpublished.begun,
      congrArg (· + 1) unpublished.used, unpublished.failed⟩, outcome⟩
  | collectFailed failure =>
    obtain ⟨holds, rfl, calls, unpublished, outcome⟩ := claim
    exact ⟨holds, calls + 1, unpublished.absent, unpublished.phase, unpublished.begun,
      unpublished.used, unpublished.failed.succ (attempt_of_collectFailed outcome failure)⟩
  | classified success =>
    obtain ⟨holds, rfl, calls, unpublished, outcome⟩ := claim
    exact ⟨holds, calls, ⟨unpublished.absent, unpublished.phase, unpublished.begun,
      unpublished.used, unpublished.failed⟩, attempt_of_classified outcome success⟩
  | published =>
    obtain ⟨holds, calls, unpublished, last⟩ := claim
    exact ⟨holds, rfl, unpublished.phase, calls, unpublished.begun, unpublished.used, last,
      unpublished.failed⟩
  | completed =>
    obtain ⟨holds, published⟩ := claim
    exact ⟨holds, published.present, rfl, published.source⟩
  | reset =>
    obtain ⟨holds, calls, unpublished⟩ := claim
    exact ⟨holds, calls, unpublished.absent, rfl, unpublished.begun, unpublished.used,
      unpublished.failed⟩
  | @released result =>
    cases result with
    | error error => exact nofun
    | ok classification => exact ⟨nofun, claim.2.present⟩

/-- A move that leaves the lock free leaves things settled: only giving the lock back frees it. -/
theorem Move.settled (move : Move (preparedSupplier found outcomes) thread shared stage next after)
    (claim : stage.Fits config outcomes shared thread)
    (free : shared.holder = none → Settled config outcomes shared)
    (freed : after.holder = none)
    : Settled config outcomes after := by
  cases move with
  | found _ | missed _ => exact free freed
  | foundAgain _ | missedAgain _ | announced | unconfigured _ | configured _ | called
  | loadFailed _ _ | loadReturned _ _ | collectFailed _ | classified _ | published | completed
  | reset =>
    have holds : shared.holder = some thread := claim.1
    cases holds.symm.trans freed
  | acquired _ => cases freed
  | @released result =>
    cases result with
    | error error =>
      obtain ⟨_, calls, unpublished⟩ := claim
      exact Settled.copy (.inl ⟨calls, unpublished⟩) rfl rfl rfl
    | ok classification => exact Settled.copy (.inr ⟨classification, claim.2⟩) rfl rfl rfl

/-- No move takes a configuration away or puts another in its place. -/
theorem Move.keepsConfig
    (move : Move (preparedSupplier found outcomes) thread shared stage next after)
    : after.extractor.config.getD found = shared.extractor.config.getD found := by
  cases move with
  | configured had =>
    rw [configFrom_preparedSupplier] at had
    exact (Except.ok.inj had).symm
  | _ => rfl

/-- What is published stays published: only a thread that knows that nothing is ever writes. -/
theorem Move.keepsClassification
    (move : Move (preparedSupplier found outcomes) thread shared stage next after)
    (claim : stage.Fits config outcomes shared thread) {classification : Classification}
    (present : shared.extractor.classification = some classification)
    : after.extractor.classification = some classification := by
  cases move with
  | published =>
    obtain ⟨_, calls, unpublished, _⟩ := claim
    rw [unpublished.absent] at present
    cases present
  | _ => exact present

/-- Once something is published no load begins: a thread about to call one knows that nothing is. -/
theorem Move.keepsCalls
    (move : Move (preparedSupplier found outcomes) thread shared stage next after)
    (claim : stage.Fits config outcomes shared thread) {classification : Classification}
    (present : shared.extractor.classification = some classification)
    : after.calls = shared.calls := by
  cases move with
  | called =>
    obtain ⟨_, _, calls, unpublished⟩ := claim
    rw [unpublished.absent] at present
    cases present
  | _ => rfl

/-- The last phase is never left: a thread about to set another one sees an earlier phase. -/
theorem Move.keepsInitialized
    (move : Move (preparedSupplier found outcomes) thread shared stage next after)
    (claim : stage.Fits config outcomes shared thread)
    (ready : shared.extractor.phase = .initialized)
    : after.extractor.phase = .initialized := by
  cases move with
  | announced | reset =>
    obtain ⟨_, calls, unpublished⟩ := claim
    rw [unpublished.phase] at ready
    cases ready
  | completed => rfl
  | _ => exact ready

-----------------------------------------------------------------------------------------
-- The other threads
-----------------------------------------------------------------------------------------

/-- Whoever does not hold the lock, before and after, claims nothing that a step can spoil, as long
as what is published stays. -/
theorem Stage.Fits.frame {other : Nat} (claim : stage.Fits config outcomes shared other)
    (before : shared.holder ≠ some other) (later : after.holder ≠ some other)
    (kept
      : ∀ classification,
          shared.extractor.classification = some classification
          → after.extractor.classification = some classification)
    : stage.Fits config outcomes after other := by
  cases stage with
  | start | waiting => exact later
  | finished result =>
    cases result with
    | error error => exact later
    | ok classification => exact ⟨later, kept classification claim.2⟩
  | leaving result => cases result <;> exact absurd claim.1 before
  | _ => exact absurd claim.1 before

/-- A thread that changes anything shared holds the lock, takes it or gives it back. -/
theorem Move.changes_inside
    (move : Move (preparedSupplier found outcomes) thread shared stage next after)
    (claim : stage.Fits config outcomes shared thread)
    : after = shared
      ∨ (shared.holder = none ∨ shared.holder = some thread)
        ∧ (after.holder = none ∨ after.holder = some thread) := by
  cases move with
  | found _ | missed _ | foundAgain _ | missedAgain _ | unconfigured _ => exact .inl rfl
  | acquired free => exact .inr ⟨.inl free, .inr rfl⟩
  | released =>
    rename_i result
    cases result <;> exact .inr ⟨.inr claim.1, .inl rfl⟩
  | _ => exact .inr ⟨.inr claim.1, .inr claim.1⟩

/-- A thread's move leaves the claims of all others true. -/
theorem Move.fits_other
    (move : Move (preparedSupplier found outcomes) thread shared stage next after)
    (claim : stage.Fits config outcomes shared thread) {other : Nat} {bystander : Stage ε}
    (differ : other ≠ thread) (theirs : bystander.Fits config outcomes shared other)
    : bystander.Fits config outcomes after other := by
  rcases move.changes_inside claim with rfl | ⟨before, later⟩
  · exact theirs
  · apply theirs.frame
    · rcases before with free | held
      · simp [free]
      · simpa [held] using differ.symm
    · rcases later with free | held
      · simp [free]
      · simpa [held] using differ.symm
    · exact fun _ present => move.keepsClassification claim present

end ReservedWords.Barrier
