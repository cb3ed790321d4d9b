import ReservedWords.Extractor

/-!
What making an extractor ready does. Each outcome of the configuration, of the load and of the
classification has its equation, so that sessions need not look inside.
-/

namespace ReservedWords.Extractor

variable {σ ε : Type} {supplier : Supplier σ ε} {extractor : Extractor} {config : Config}
  {world : σ}

/-- The extractor that a load sees. -/
def started (extractor : Extractor) (config : Config) : Extractor :=
  (extractor.inPhase .initializing).withConfig config

theorem ask_of_absent (absent : extractor.classification = none) (query : Query)
    : extractor.ask query = .error extractor.phase := by
  rw [ask, ready, absent, Except.map]

/-- While it is being initialized, an extractor answers no question. -/
theorem ask_started (absent : extractor.classification = none) (query : Query)
    : (extractor.started config).ask query = .error .initializing := by
  rw [ask, ready, started, inPhase, withConfig, absent, Except.map]

theorem ask_of_present {classification : Classification}
    (present : extractor.classification = some classification) (query : Query)
    : extractor.ask query = .ok (query.answer classification) := by
  rw [ask, ready, present, Except.map]

theorem askRecords_of_absent (absent : extractor.classification = none) (query : Query)
    : extractor.askRecords query = [] := by
  rw [askRecords, absent]

/-- A failed load gives its error and leaves the extractor uninitialized. -/
theorem loadWith_of_loadFailed {error : ε}
    (failure : (supplier.load config (extractor.started config) world).result = .error error)
    : extractor.loadWith supplier config world
      = ⟨(extractor.started config).inPhase .uninitialized,
          (supplier.load config (extractor.started config) world).world,
          .error (.load error),
          (supplier.load config (extractor.started config) world).records⟩ := by
  rw [started] at failure
  simp only [loadWith, started, failure]

/-- Tables that have no classification give their error and leave the extractor uninitialized. -/
theorem loadWith_of_collectFailed {tables : Tables} {error : CollectError}
    (returned : (supplier.load config (extractor.started config) world).result = .ok tables)
    (failure : Classification.ofTables tables config.options = .error error)
    : extractor.loadWith supplier config world
      = ⟨(extractor.started config).inPhase .uninitialized,
          (supplier.load config (extractor.started config) world).world,
          .error (.collect error),
          (supplier.load config (extractor.started config) world).records
          ++ Classification.records tables config.options⟩ := by
  rw [started] at returned
  simp only [loadWith, started, returned, failure]

/-- Tables that have a classification give it, and the extractor keeps it. -/
theorem loadWith_of_classified {tables : Tables} {classification : Classification}
    (returned : (supplier.load config (extractor.started config) world).result = .ok tables)
    (success : Classification.ofTables tables config.options = .ok classification)
    : extractor.loadWith supplier config world
      = ⟨((extractor.started config).withClassification classification).inPhase .initialized,
          (supplier.load config (extractor.started config) world).world,
          .ok classification,
          (supplier.load config (extractor.started config) world).records
          ++ Classification.records tables config.options
          ++ [readyRecord classification]⟩ := by
  rw [started] at returned
  simp only [loadWith, started, returned, success]

/-- An extractor that is ready stays as it is, and nothing is loaded. -/
theorem makeReady_of_present {classification : Classification}
    (present : extractor.classification = some classification)
    : extractor.makeReady supplier world = ⟨extractor, world, .ok classification, []⟩ := by
  rw [makeReady, present]

theorem makeReady_of_unconfigured {error : Config.Failure}
    (absent : extractor.classification = none)
    (unconfigured : extractor.configFrom supplier world = .error error)
    : extractor.makeReady supplier world
      = ⟨extractor.inPhase .uninitialized, world, .error (.config error), []⟩ := by
  simp only [makeReady, absent, unconfigured]

theorem makeReady_of_configured (absent : extractor.classification = none)
    (configured : extractor.configFrom supplier world = .ok config)
    : extractor.makeReady supplier world = extractor.loadWith supplier config world := by
  simp only [makeReady, absent, configured]

/-- An extractor is as good as new: but for its configuration it is a new one. -/
def Fresh (extractor : Extractor) : Prop :=
  extractor = create extractor.config

theorem fresh_create (given : Option Config) : (create given).Fresh := rfl

theorem Fresh.absent (fresh : extractor.Fresh) : extractor.classification = none := by
  rw [fresh]
  rfl

theorem Fresh.uninitialized (fresh : extractor.Fresh) : extractor.phase = .uninitialized := by
  rw [fresh]
  rfl

/-- A configuration that is shown or found leaves an extractor as good as new. -/
theorem Fresh.withConfig (fresh : extractor.Fresh) (config : Config)
    : (extractor.withConfig config).Fresh := by
  rw [fresh]
  rfl

/-- An extractor that was as good as new is so again after a failure, with the configuration found. -/
theorem Fresh.again (fresh : extractor.Fresh) (config : Config)
    : (extractor.started config).inPhase .uninitialized = create (some config) := by
  rw [fresh]
  rfl

/-- A failure for want of a configuration leaves an extractor that is as good as new as it is. -/
theorem Fresh.unchanged (fresh : extractor.Fresh)
    : extractor.inPhase .uninitialized = extractor := by
  rw [fresh]
  rfl

end ReservedWords.Extractor
