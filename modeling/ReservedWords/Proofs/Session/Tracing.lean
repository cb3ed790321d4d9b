import ReservedWords.Proofs.Extractor
import ReservedWords.Session
import Mathlib.Data.List.Induction

/-!
Sessions whose load calls are written down. The list of calls stands beside the world of a session,
and the session is the same with it and without it.
-/

namespace ReservedWords.Session

variable {ρ ε : Type}

-----------------------------------------------------------------------------------------
-- Writing calls down
-----------------------------------------------------------------------------------------

/-- A load call: the configuration and the extractor that it saw, and its result. -/
structure Visit (ε : Type) where
  config : Config
  extractor : Extractor
  result : Except ε Tables

/-- The call that an extractor makes with a configuration. -/
def visit (supplier : Supplier (World ρ) ε) (extractor : Extractor) (config : Config)
    (world : World ρ) : Visit ε where
  config
  extractor := extractor.started config
  result := (supplier.load config (extractor.started config) world).result

/-- A world with a list of calls beside it. -/
def World.traced (world : World ρ) (calls : List (Visit ε)) : World (ρ × List (Visit ε)) :=
  ⟨world.tree, (world.own, calls)⟩

def World.untraced (world : World (ρ × List (Visit ε))) : World ρ :=
  ⟨world.tree, world.own.1⟩

def State.traced (state : State ρ) (calls : List (Visit ε)) : State (ρ × List (Visit ε)) :=
  ⟨state.extractor, state.world.traced calls⟩

/-- A supplier of which every load call is written down. -/
def traced (supplier : Supplier (World ρ) ε) : Supplier (World (ρ × List (Visit ε))) ε where
  config world := supplier.config world.untraced
  load config extractor world :=
    let answer := supplier.load config extractor world.untraced
    { answer with
      world := answer.world.traced (world.own.2 ++ [⟨config, extractor, answer.result⟩]) }

/-- The load calls that some steps make. -/
def calls (supplier : Supplier (World ρ) ε) (start : State ρ) (steps : List Step)
    : List (Visit ε) :=
  (after (traced supplier) (start.traced []) steps).world.own.2

@[simp]
theorem World.untraced_traced (world : World ρ) (seen : List (Visit ε))
    : (world.traced seen).untraced = world := rfl

-----------------------------------------------------------------------------------------
-- One step
-----------------------------------------------------------------------------------------

section

variable (supplier : Supplier (World ρ) ε)

theorem configFrom_traced (extractor : Extractor) (world : World ρ) (seen : List (Visit ε))
    : extractor.configFrom (traced supplier) (world.traced seen)
      = extractor.configFrom supplier world := by
  cases given : extractor.config <;> simp [Extractor.configFrom, given, traced]

theorem load_traced (extractor : Extractor) (config : Config) (world : World ρ)
    (seen : List (Visit ε))
    : (traced supplier).load config extractor (world.traced seen)
      = { supplier.load config extractor world with
          world :=
            (supplier.load config extractor world).world.traced
              (seen ++ [⟨config, extractor, (supplier.load config extractor world).result⟩]) } :=
  rfl

/-- Writing calls down changes nothing about a load but the list, which gets one call more, by cases
on what the load makes of the extractor. -/
theorem loadWith_traced (extractor : Extractor) (config : Config) (world : World ρ)
    (seen : List (Visit ε))
    : extractor.loadWith (traced supplier) config (world.traced seen)
      = { extractor.loadWith supplier config world with
          world :=
            (extractor.loadWith supplier config world).world.traced
              (seen ++ [visit supplier extractor config world]) } := by
  have same := load_traced supplier (extractor.started config) config world seen
  cases returned : (supplier.load config (extractor.started config) world).result with
  | error error =>
    have returnedToo
        : ((traced supplier).load config (extractor.started config) (world.traced seen)).result
          = .error error := by
      rw [same, returned]
    rw [Extractor.loadWith_of_loadFailed returned, Extractor.loadWith_of_loadFailed returnedToo]
    simp only [same, visit, returned]
  | ok tables =>
    have returnedToo
        : ((traced supplier).load config (extractor.started config) (world.traced seen)).result
          = .ok tables := by
      rw [same, returned]
    cases collected : Classification.ofTables tables config.options with
    | error error =>
      rw [Extractor.loadWith_of_collectFailed returned collected,
        Extractor.loadWith_of_collectFailed returnedToo collected]
      simp only [same, visit, returned]
    | ok classification =>
      rw [Extractor.loadWith_of_classified returned collected,
        Extractor.loadWith_of_classified returnedToo collected]
      simp only [same, visit, returned]

/-- Writing calls down changes nothing about making an extractor ready but the list, whatever the
list is before, by cases on what the extractor has. -/
theorem makeReady_traced (extractor : Extractor) (world : World ρ)
    : ∃ made : List (Visit ε), ∀ seen,
        extractor.makeReady (traced supplier) (world.traced seen)
        = { extractor.makeReady supplier world with
            world := (extractor.makeReady supplier world).world.traced (seen ++ made) } := by
  cases classified : extractor.classification with
  | some classification =>
    refine ⟨[], fun seen => ?_⟩
    simp only [Extractor.makeReady_of_present classified, List.append_nil]
  | none =>
    cases configured : extractor.configFrom supplier world with
    | error error =>
      refine ⟨[], fun seen => ?_⟩
      rw [Extractor.makeReady_of_unconfigured classified configured,
        Extractor.makeReady_of_unconfigured classified
          ((configFrom_traced supplier extractor world seen).trans configured)]
      simp only [List.append_nil]
    | ok config =>
      refine ⟨[visit supplier extractor config world], fun seen => ?_⟩
      rw [Extractor.makeReady_of_configured classified configured,
        Extractor.makeReady_of_configured classified
          ((configFrom_traced supplier extractor world seen).trans configured),
        loadWith_traced]

/-- Writing calls down changes nothing about a step but the list, by cases on the step. -/
theorem step_traced_exists (state : State ρ) (next : Step)
    : ∃ made : List (Visit ε), ∀ seen,
        step (traced supplier) (state.traced seen) next
        = { step supplier state next with
            state := (step supplier state next).state.traced (seen ++ made) } := by
  cases next with
  | makeReady =>
    obtain ⟨made, same⟩ := makeReady_traced supplier state.extractor state.world
    refine ⟨made, fun seen => ?_⟩
    simp only [step, State.traced, same]
  | config =>
    refine ⟨[], fun seen => ?_⟩
    simp only [step, State.traced, configFrom_traced, List.append_nil]
    cases state.extractor.configFrom supplier state.world <;> rfl
  | query | write | delete | list =>
    refine ⟨[], fun seen => ?_⟩
    simp only [step, State.traced, World.traced, List.append_nil]

/-- A traced step is the step, with its own calls added to the list. -/
theorem step_traced (state : State ρ) (seen : List (Visit ε)) (next : Step)
    : step (traced supplier) (state.traced seen) next
      = { step supplier state next with
          state :=
            (step supplier state next).state.traced (seen ++ calls supplier state [next]) } := by
  obtain ⟨made, same⟩ := step_traced_exists supplier state next
  have own : calls supplier state [next] = made := by
    simp only [calls, after, List.foldl_cons, List.foldl_nil, same, List.nil_append]
    rfl
  rw [own, same seen]

variable {supplier}

theorem calls_makeReady_of_present {state : State ρ} {classification : Classification}
    (present : state.extractor.classification = some classification)
    : calls supplier state [.makeReady] = [] := by
  simp only [calls, after, List.foldl_cons, List.foldl_nil, step, State.traced,
    Extractor.makeReady_of_present present]
  rfl

theorem calls_makeReady_of_unconfigured {state : State ρ} {error : Config.Failure}
    (absent : state.extractor.classification = none)
    (unconfigured : state.extractor.configFrom supplier state.world = .error error)
    : calls supplier state [.makeReady] = [] := by
  have unconfiguredToo :=
    (configFrom_traced supplier state.extractor state.world []).trans unconfigured
  simp only [calls, after, List.foldl_cons, List.foldl_nil, step, State.traced,
    Extractor.makeReady_of_unconfigured absent unconfiguredToo]
  rfl

theorem calls_makeReady_of_configured {state : State ρ} {config : Config}
    (absent : state.extractor.classification = none)
    (configured : state.extractor.configFrom supplier state.world = .ok config)
    : calls supplier state [.makeReady] = [visit supplier state.extractor config state.world] := by
  have configuredToo := (configFrom_traced supplier state.extractor state.world []).trans configured
  simp only [calls, after, List.foldl_cons, List.foldl_nil, step, State.traced,
    Extractor.makeReady_of_configured absent configuredToo, loadWith_traced]
  rfl

/-- Nothing but making ready makes calls. -/
theorem calls_of_ne_makeReady {state : State ρ} {next : Step} (other : next ≠ .makeReady)
    : calls supplier state [next] = [] := by
  cases next with
  | makeReady => exact absurd rfl other
  | config =>
    simp only [calls, after, List.foldl_cons, List.foldl_nil, step, State.traced, configFrom_traced]
    cases state.extractor.configFrom supplier state.world <;> rfl
  | query | write | delete | list => rfl

/-- The extractor that a call sees answers no question, since only one without a classification
makes calls. -/
theorem ask_of_call {state : State ρ} {next : Step} {call : Visit ε}
    (made : call ∈ calls supplier state [next]) (query : Query)
    : call.extractor.ask query = .error .initializing := by
  by_cases attempted : next = .makeReady
  · subst attempted
    cases classified : state.extractor.classification with
    | some classification =>
      rw [calls_makeReady_of_present classified] at made
      cases made
    | none =>
      cases configured : state.extractor.configFrom supplier state.world with
      | error error =>
        rw [calls_makeReady_of_unconfigured classified configured] at made
        cases made
      | ok config =>
        rw [calls_makeReady_of_configured classified configured, List.mem_singleton] at made
        subst made
        exact Extractor.ask_started classified query
  · rw [calls_of_ne_makeReady attempted] at made
    cases made

end

-----------------------------------------------------------------------------------------
-- Runs
-----------------------------------------------------------------------------------------

theorem after_concat (supplier : Supplier (World ρ) ε) (start : State ρ) (steps : List Step)
    (last : Step)
    : after supplier start (steps ++ [last])
      = (step supplier (after supplier start steps) last).state := by
  simp only [after, List.foldl_append, List.foldl_cons, List.foldl_nil]

theorem run_concat (supplier : Supplier (World ρ) ε) (start : State ρ) (steps : List Step)
    (last : Step)
    : run supplier start (steps ++ [last])
      = run supplier start steps ++ [step supplier (after supplier start steps) last] := by
  induction steps generalizing start with
  | nil => rfl
  | cons first rest ih => exact congrArg _ (ih _)

/-- The traced session stays the session, with the calls made so far beside it, by induction on the
steps from the last one. -/
theorem after_traced (supplier : Supplier (World ρ) ε) (start : State ρ) (steps : List Step)
    : after (traced supplier) (start.traced []) steps
      = (after supplier start steps).traced (calls supplier start steps) := by
  induction steps using List.reverseRecOn with
  | nil => rfl
  | append_singleton before last ih =>
    rw [calls, after_concat, after_concat, ih, step_traced]
    rfl

/-- The traced session gives the same outcomes, by induction on the steps from the last one. -/
theorem outcomes_traced (supplier : Supplier (World ρ) ε) (start : State ρ) (steps : List Step)
    : (run (traced supplier) (start.traced []) steps).map Result.outcome
      = (run supplier start steps).map Result.outcome := by
  induction steps using List.reverseRecOn with
  | nil => rfl
  | append_singleton before last ih =>
    rw [run_concat, run_concat, List.map_append, List.map_append, ih, after_traced]
    simp only [List.map_cons, List.map_nil, step_traced]

theorem calls_concat (supplier : Supplier (World ρ) ε) (start : State ρ) (steps : List Step)
    (last : Step)
    : calls supplier start (steps ++ [last])
      = calls supplier start steps ++ calls supplier (after supplier start steps) [last] := by
  rw [calls, after_concat, after_traced, step_traced]
  rfl

end ReservedWords.Session
