import ReservedWords.Proofs.Session.Tracing

/-!
Sessions are snapshots. Until an initialization has succeeded an extractor is as good as new, and
every attempt loads once; the first success fixes all later answers, whatever happens to the files.
-/

namespace ReservedWords.Session

variable {ρ ε : Type}

-----------------------------------------------------------------------------------------
-- Before and after the first success
-----------------------------------------------------------------------------------------

/-- One of the steps has made the extractor ready. -/
def Succeeded (supplier : Supplier (World ρ) ε) (start : State ρ) (steps : List Step) : Prop :=
  ∃ result ∈ run supplier start steps,
    ∃ classification, result.outcome = .ok (.ready classification)

/-- What comes of one load call: the error of the load as it is, or the error that its tables have
no classification, and an extractor that is as good as new with the same configuration; or a
classification, which the extractor keeps. -/
inductive Attempt (result : Result ρ ε) (visit : Visit ε) : Prop where
  | loadFailed (error : ε) (returned : visit.result = .error error)
      (outcome : result.outcome = .error (.failed (.load error)))
      (again : result.state.extractor = Extractor.create (some visit.config))
  | collectFailed (tables : Tables) (error : CollectError) (returned : visit.result = .ok tables)
      (collected : Classification.ofTables tables visit.config.options = .error error)
      (outcome : result.outcome = .error (.failed (.collect error)))
      (again : result.state.extractor = Extractor.create (some visit.config))
  | classified (tables : Tables) (classification : Classification)
      (returned : visit.result = .ok tables)
      (collected : Classification.ofTables tables visit.config.options = .ok classification)
      (outcome : result.outcome = .ok (.ready classification))
      (kept
        : result.state.extractor = ⟨some visit.config, .initialized, some classification⟩)

/-- What a session that has not succeeded does in a step: its extractor is as good as new, questions
are refused, and an initialization loads once if there is a configuration, and else not at all. -/
structure Retries (supplier : Supplier (World ρ) ε) (now : State ρ) (next : Step) : Prop where
  fresh : now.extractor.Fresh
  refused
    : ∀ query,
        next = .query query
        → step supplier now next = ⟨now, .error (.uninitialized .uninitialized), []⟩
  quiet : next ≠ .makeReady → calls supplier now [next] = []
  unconfigured
    : ∀ error,
        next = .makeReady
        → now.extractor.configFrom supplier now.world = .error error
        → calls supplier now [next] = []
          ∧ step supplier now next = ⟨now, .error (.failed (.config error)), []⟩
  configured
    : ∀ config,
        next = .makeReady
        → now.extractor.configFrom supplier now.world = .ok config
        → ∃ visit : Visit ε,
            calls supplier now [next] = [visit]
            ∧ visit.config = config
            ∧ Attempt (step supplier now next) visit

/-- Where the success of a session comes from: the first steps failed, and the call of the
initialization after them had tables with a classification, which the extractor keeps. -/
structure Origin (supplier : Supplier (World ρ) ε) (start : State ρ) (steps first : List Step)
    (visit : Visit ε) (tables : Tables) (classification : Classification) : Prop where
  failed : ¬ Succeeded supplier start first
  succeeded
    : (step supplier (after supplier start first) .makeReady).outcome = .ok (.ready classification)
  loaded : calls supplier (after supplier start first) [.makeReady] = [visit]
  returned : visit.result = .ok tables
  classified : Classification.ofTables tables visit.config.options = .ok classification
  silent : calls supplier start steps = calls supplier start (first ++ [.makeReady])
  kept
    : (after supplier start steps).extractor
      = ⟨some visit.config, .initialized, some classification⟩

/-- What a session that has succeeded does in a step: questions are answered for one classification,
and another initialization gives it again; neither changes anything. -/
structure Answers (supplier : Supplier (World ρ) ε) (now : State ρ) (next : Step)
    (classification : Classification) : Prop where
  asked
    : ∀ query,
        next = .query query
        → step supplier now next
          = ⟨now, .ok (.answer (query.answer classification)), query.records classification⟩
  again : next = .makeReady → step supplier now next = ⟨now, .ok (.ready classification), []⟩

-----------------------------------------------------------------------------------------
-- Steps of an extractor that is as good as new
-----------------------------------------------------------------------------------------

section

variable {supplier : Supplier (World ρ) ε} {state : State ρ}

/-- An attempt of an extractor that is as good as new, by cases on the result of the load and on
what is made of its tables. -/
theorem attempt_of_fresh {config : Config} (fresh : state.extractor.Fresh)
    (configured : state.extractor.configFrom supplier state.world = .ok config)
    : Attempt (step supplier state .makeReady)
        (visit supplier state.extractor config state.world) := by
  have attempted := Extractor.makeReady_of_configured fresh.absent configured
  cases returned : (visit supplier state.extractor config state.world).result with
  | error error =>
    have done := Extractor.loadWith_of_loadFailed returned
    refine .loadFailed error returned ?_ ?_
    · simp only [step, attempted, done]
      rfl
    · simp only [step, attempted, done, fresh.again]
      rfl
  | ok tables =>
    cases collected : Classification.ofTables tables config.options with
    | error error =>
      have done := Extractor.loadWith_of_collectFailed returned collected
      refine .collectFailed tables error returned collected ?_ ?_
      · simp only [step, attempted, done]
        rfl
      · simp only [step, attempted, done, fresh.again]
        rfl
    | ok classification =>
      have done := Extractor.loadWith_of_classified returned collected
      refine .classified tables classification returned collected ?_ ?_
      · simp only [step, attempted, done]
        rfl
      · simp only [step, attempted, done]
        rfl

theorem Retries.of_fresh (fresh : state.extractor.Fresh) (next : Step)
    : Retries supplier state next := by
  refine
    { fresh
      refused := ?_
      quiet := calls_of_ne_makeReady
      unconfigured := ?_
      configured := ?_ }
  · rintro query rfl
    simp only [step, Extractor.ask_of_absent fresh.absent,
      Extractor.askRecords_of_absent fresh.absent, fresh.uninitialized]
    rfl
  · rintro error rfl unconfigured
    refine ⟨calls_makeReady_of_unconfigured fresh.absent unconfigured, ?_⟩
    simp only [step, Extractor.makeReady_of_unconfigured fresh.absent unconfigured,
      fresh.unchanged]
    rfl
  · rintro config rfl configured
    exact ⟨_, calls_makeReady_of_configured fresh.absent configured, rfl,
      attempt_of_fresh fresh configured⟩

/-- A step of an extractor that is as good as new leaves it so, unless it succeeds; then its only
call had tables with a classification, and the extractor keeps that and its configuration. -/
theorem step_of_fresh (supplier : Supplier (World ρ) ε) (fresh : state.extractor.Fresh)
    (next : Step)
    : ((¬ ∃ classification, (step supplier state next).outcome = .ok (.ready classification))
        ∧ (step supplier state next).state.extractor.Fresh)
      ∨ ∃ (visit : Visit ε) (tables : Tables) (classification : Classification),
          next = .makeReady
          ∧ (step supplier state next).outcome = .ok (.ready classification)
          ∧ calls supplier state [next] = [visit]
          ∧ visit.result = .ok tables
          ∧ Classification.ofTables tables visit.config.options = .ok classification
          ∧ (step supplier state next).state.extractor
            = ⟨some visit.config, .initialized, some classification⟩ := by
  cases next with
  | makeReady =>
    cases configured : state.extractor.configFrom supplier state.world with
    | error error =>
      obtain ⟨-, taken⟩ := (Retries.of_fresh fresh .makeReady).unconfigured error rfl configured
      rw [taken]
      exact .inl ⟨by simp, fresh⟩
    | ok config =>
      cases attempt_of_fresh fresh configured with
      | loadFailed error returned outcome again =>
        exact .inl ⟨by simp [outcome], again ▸ Extractor.fresh_create _⟩
      | collectFailed tables error returned collected outcome again =>
        exact .inl ⟨by simp [outcome], again ▸ Extractor.fresh_create _⟩
      | classified tables classification returned collected outcome kept =>
        exact .inr ⟨_, tables, classification, rfl, outcome,
          calls_makeReady_of_configured fresh.absent configured, returned, collected, kept⟩
  | config =>
    left
    cases configured : state.extractor.configFrom supplier state.world with
    | error error =>
      simp only [step, configured]
      exact ⟨by simp, fresh⟩
    | ok config =>
      simp only [step, configured]
      exact ⟨by simp, fresh.withConfig config⟩
  | query query =>
    left
    rw [(Retries.of_fresh fresh (.query query)).refused query rfl]
    exact ⟨by simp, fresh⟩
  | write | delete | list => exact .inl ⟨by simp [step], fresh⟩

/-- A ready extractor is kept by every step, and no step loads, by cases on the step. -/
theorem step_of_kept (supplier : Supplier (World ρ) ε) {config : Config}
    {classification : Classification}
    (kept : state.extractor = ⟨some config, .initialized, some classification⟩) (next : Step)
    : (step supplier state next).state.extractor = state.extractor
      ∧ calls supplier state [next] = [] := by
  have present : state.extractor.classification = some classification := by rw [kept]
  cases next with
  | makeReady =>
    refine ⟨?_, calls_makeReady_of_present present⟩
    simp only [step, Extractor.makeReady_of_present present]
  | config =>
    refine ⟨?_, calls_of_ne_makeReady (by simp)⟩
    simp only [step, Extractor.configFrom, Extractor.withConfig, kept]
  | query | write | delete | list => exact ⟨rfl, calls_of_ne_makeReady (by simp)⟩

end

-----------------------------------------------------------------------------------------
-- Whole sessions
-----------------------------------------------------------------------------------------

section

variable {supplier : Supplier (World ρ) ε} {start : State ρ}

/-- One step more has succeeded if it succeeds itself or an earlier one has. -/
theorem succeeded_concat {steps : List Step} {last : Step}
    : Succeeded supplier start (steps ++ [last])
      ↔ Succeeded supplier start steps
        ∨ ∃ classification,
            (step supplier (after supplier start steps) last).outcome
            = .ok (.ready classification) := by
  simp only [Succeeded, run_concat, List.mem_append, List.mem_singleton, or_and_right, exists_or,
    exists_eq_left]

/-- One step more does not change where the success comes from. -/
theorem Origin.concat {steps first : List Step} {visit : Visit ε} {tables : Tables}
    {classification : Classification}
    (origin : Origin supplier start steps first visit tables classification) (last : Step)
    : Origin supplier start (steps ++ [last]) first visit tables classification := by
  obtain ⟨same, none⟩ := step_of_kept supplier origin.kept last
  refine { origin with silent := ?_, kept := ?_ }
  · rw [calls_concat, none, List.append_nil, origin.silent]
  · rw [after_concat, same, origin.kept]

/-- A session has not succeeded and its extractor is as good as new, or its success has an origin,
by induction on the steps from the last one. -/
theorem fresh_or_origin (supplier : Supplier (World ρ) ε) (new : start.extractor.Fresh)
    (steps : List Step)
    : (¬ Succeeded supplier start steps
        ∧ (after supplier start steps).extractor.Fresh)
      ∨ (Succeeded supplier start steps
        ∧ ∃ first later visit tables classification,
            steps = first ++ .makeReady :: later
            ∧ Origin supplier start steps first visit tables classification) := by
  induction steps using List.reverseRecOn with
  | nil => exact .inl ⟨by simp [Succeeded, run], new⟩
  | append_singleton before last ih =>
    rcases ih with ⟨failed, fresh⟩
      | ⟨succeeded, first, later, visit, tables, classification, rfl, origin⟩
    · rcases step_of_fresh supplier fresh last with ⟨unready, again⟩
        | ⟨visit, tables, classification, rfl, ready, loaded, returned, classified, kept⟩
      · refine .inl ⟨?_, by rwa [after_concat]⟩
        rw [succeeded_concat]
        exact not_or.mpr ⟨failed, unready⟩
      · refine .inr ⟨succeeded_concat.mpr (.inr ⟨classification, ready⟩), ?_⟩
        refine ⟨before, [], visit, tables, classification, rfl, ?_⟩
        exact { failed, succeeded := ready, loaded, returned, classified, silent := rfl,
                kept := by rw [after_concat, kept] }
    · refine .inr ⟨succeeded_concat.mpr (.inl succeeded), ?_⟩
      exact ⟨first, later ++ [last], visit, tables, classification, by simp, origin.concat last⟩

theorem Answers.of_present {state : State ρ} {classification : Classification}
    (present : state.extractor.classification = some classification) (next : Step)
    : Answers supplier state next classification := by
  refine { asked := ?_, again := ?_ }
  · rintro query rfl
    simp only [step, Extractor.ask_of_present present, Extractor.askRecords, present]
    rfl
  · rintro rfl
    simp only [step, Extractor.makeReady_of_present present]
    rfl

/-- No question is answered while a load is under way, whatever the session has done before, by
induction on the steps from the last one: a load only begins when nothing is classified. -/
theorem refused_inside_load (steps : List Step)
    : ∀ visit ∈ calls supplier start steps, ∀ query,
        visit.extractor.ask query = .error .initializing := by
  induction steps using List.reverseRecOn with
  | nil =>
    intro visit member
    cases member
  | append_singleton before last ih =>
    intro visit member query
    rw [calls_concat, List.mem_append] at member
    rcases member with earlier | now
    · exact ih visit earlier query
    · exact ask_of_call now query

end

/-- A session is a snapshot of its first success. After every step the extractor is uninitialized or
initialized, and it is initialized if and only if an initialization has succeeded; questions inside
a load are refused; until the success every attempt starts anew, and after it nothing is loaded and
every question is answered for the classification of the tables that were loaded then. Whatever the
files become does not matter. -/
theorem session_is_snapshot (supplier : Supplier (World ρ) ε) (given : Option Config)
    (world : World ρ) (before : List Step) (next : Step)
    : let start : State ρ := ⟨Extractor.create given, world⟩
      let now := after supplier start before
      let extractor := (step supplier now next).state.extractor
      (extractor.phase = .uninitialized ∨ extractor.phase = .initialized)
      ∧ (extractor.phase = .initialized ↔ Succeeded supplier start (before ++ [next]))
      ∧ (∀ visit ∈ calls supplier start (before ++ [next]), ∀ query,
          visit.extractor.ask query = .error .initializing)
      ∧ (¬ Succeeded supplier start before → Retries supplier now next)
      ∧ (Succeeded supplier start before
          → ∃ first later visit tables classification,
              before = first ++ .makeReady :: later
              ∧ Origin supplier start (before ++ [next]) first visit tables classification
              ∧ Answers supplier now next classification) := by
  intro start now extractor
  have new : start.extractor.Fresh := Extractor.fresh_create given
  have reached : (after supplier start (before ++ [next])).extractor = extractor :=
    congrArg State.extractor (after_concat supplier start before next)
  have phases
      : (extractor.phase = .uninitialized ∧ ¬ Succeeded supplier start (before ++ [next]))
        ∨ (extractor.phase = .initialized ∧ Succeeded supplier start (before ++ [next])) := by
    rw [← reached]
    rcases fresh_or_origin supplier new (before ++ [next])
      with ⟨failed, fresh⟩ | ⟨succeeded, first, later, visit, tables, classification, -, origin⟩
    · exact .inl ⟨fresh.uninitialized, failed⟩
    · exact .inr ⟨by rw [origin.kept], succeeded⟩
  refine ⟨phases.imp And.left And.left, ?_, refused_inside_load _, ?_, ?_⟩
  · rcases phases with ⟨phase, failed⟩ | ⟨phase, succeeded⟩
    · simp [phase, failed]
    · simp [phase, succeeded]
  · intro failed
    rcases fresh_or_origin supplier new before
      with ⟨-, fresh⟩ | ⟨succeeded, -⟩
    · exact Retries.of_fresh fresh next
    · exact absurd succeeded failed
  · intro succeeded
    rcases fresh_or_origin supplier new before
      with ⟨failed, -⟩ | ⟨-, first, later, visit, tables, classification, shape, origin⟩
    · exact absurd succeeded failed
    · exact ⟨first, later, visit, tables, classification, shape, origin.concat next,
        Answers.of_present (by rw [origin.kept]) next⟩

/-- The results of two loads: the first fails, the other has empty tables. -/
def secondLoadSucceeds (call : Nat) : Except Unit Tables :=
  if call = 0 then .error () else .ok ⟨Dictionary.empty, Dictionary.empty⟩

-- A failure, a refused question, a success and an answer, whatever the files.
example (tree : FileTree)
    : (run (scriptedSupplier secondLoadSucceeds) ⟨Extractor.create none, ⟨tree, []⟩⟩
          [.makeReady, .query .whitelist, .makeReady, .query .whitelist]).map Result.outcome
      = [.error (.failed (.load ())), .error (.uninitialized .uninitialized),
          .ok (.ready ⟨Dictionary.empty, Dictionary.empty⟩), .ok (.answer (.whitelist []))] := rfl

end ReservedWords.Session
