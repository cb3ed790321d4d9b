import ReservedWords.CommandLine.Program
import ReservedWords.Proofs.Extractor
import ReservedWords.Proofs.Loading.Cache
import ReservedWords.Proofs.Loading.Independence

/-!
What a request sees of a file tree. It reads its configuration, a grammar and what that imports, and
makes its scratch directory; a tree where these are the same has the same classification for it,
whatever else changes.
-/

namespace ReservedWords.CommandLine

open Load (importContext)

/-- A load with a configuration finds in a later tree what it finds in an earlier one: the text of the
grammar, the same grammar in it, with what it imports, and a scratch directory or room for one. Other
files may come, go and change. -/
structure SeesAlike [Installation] (config : Config) (tree later : FileTree) : Prop where
  text : readGrammar later config.grammarPath = readGrammar tree config.grammarPath
  scratch : (prepareScratch later config.scratchDirectory).2 = .ok ()
  grammar
    : ∀ text grammar,
        readGrammar tree config.grammarPath = .ok text
        → Grammar.read (importContext tree config.grammarPath config.scratchDirectory)
            config.grammarPath.text text
          = .ok grammar
        → Grammar.read (importContext later config.grammarPath config.scratchDirectory)
            config.grammarPath.text text
          = .ok grammar

/-- A request finds its configuration in both trees, and sees them alike with it. -/
structure Request.SeesAlike [Installation] (request : Request) (tree later : FileTree) : Prop where
  config : request.config later = request.config tree
  sees
    : ∀ config, request.config tree = .ok config → CommandLine.SeesAlike config tree later

/-- Two requests are given the same grammar, scratch directory and configuration, if any. -/
structure Request.SharesPaths (request other : Request) : Prop where
  grammar : request.grammarPath = other.grammarPath
  scratch : request.scratchDirectory = other.scratchDirectory
  config : request.configPath = other.configPath

theorem Request.SharesPaths.config_eq {request other : Request} (shares : request.SharesPaths other)
    (tree : FileTree)
    : request.config tree = other.config tree := by
  rw [Request.config, Request.config, shares.grammar, shares.scratch, shares.config]

variable [Installation]

section

variable {config : Config} {tree later : FileTree} {classification : Classification}

theorem Request.classify_eq_loadWith : classify config tree
      = (Extractor.create (some config)).loadWith Extractor.fileSupplier config tree :=
  Extractor.makeReady_of_configured rfl rfl

theorem Request.classify_eq_ok : (classify config tree).result = .ok classification
      ↔ ∃ tables,
          (Load.run tree config.grammarPath config.scratchDirectory config.options).2 = .ok tables
          ∧ Classification.ofTables tables config.options = .ok classification := by
  rw [classify_eq_loadWith]
  cases loaded : (Load.run tree config.grammarPath config.scratchDirectory config.options).2 with
  | error error =>
    rw [Extractor.loadWith_of_loadFailed loaded]
    simp
  | ok tables =>
    cases classified : Classification.ofTables tables config.options with
    | error error =>
      rw [Extractor.loadWith_of_collectFailed loaded classified]
      simp [classified]
    | ok found =>
      rw [Extractor.loadWith_of_classified loaded classified]
      simp [classified]

theorem SeesAlike.refl (classified : (Request.classify config tree).result = .ok classification)
    : SeesAlike config tree tree := by
  obtain ⟨tables, loaded, -⟩ := Request.classify_eq_ok.mp classified
  obtain ⟨text, prepared, -, made, -⟩ := Load.run_eq_ok loaded
  exact ⟨rfl, by rw [made], fun _ _ _ read => read⟩

theorem SeesAlike.classify (sees : SeesAlike config tree later)
    (classified : (Request.classify config tree).result = .ok classification)
    : (Request.classify config later).result = .ok classification := by
  obtain ⟨tables, loaded, classified⟩ := Request.classify_eq_ok.mp classified
  obtain ⟨text, prepared, readable, made, accepted⟩ := Load.run_eq_ok loaded
  obtain ⟨grammar, compiled, read, parser, taken, checked, same⟩ := Load.analysed_eq_ok.mp accepted
  have place
      : importContext tree config.grammarPath config.scratchDirectory
        = ⟨prepared, config.grammarPath.parent.text⟩ := by
    rw [importContext, made]
  have reread := sees.grammar text grammar readable (place ▸ read)
  obtain ⟨reprepared, remade⟩ :
      ∃ reprepared, prepareScratch later config.scratchDirectory = (reprepared, .ok ()) :=
    ⟨_, Prod.ext rfl sees.scratch⟩
  rw [importContext, remade] at reread
  have reaccepted : Load.analysed reprepared config.grammarPath config.options text = .ok tables :=
    Load.analysed_eq_ok.mpr ⟨grammar, compiled, reread, parser, taken, checked, same⟩
  refine Request.classify_eq_ok.mpr ⟨tables, ?_, classified⟩
  rw [Load.run_of_analysed (sees.text.trans readable) remade reaccepted]

end

-----------------------------------------------------------------------------------------
-- The files that are read
-----------------------------------------------------------------------------------------

/-- With a configuration, the file at a place is read: it is the grammar or tried for an import. -/
def Reads (config : Config) (tree : FileTree) (place : FileTree.Place) : Prop :=
  tree.resolve config.grammarPath.text = .ok place
  ∨ ∃ text,
      readGrammar tree config.grammarPath = .ok text
      ∧ Grammar.LooksAt (importContext tree config.grammarPath config.scratchDirectory)
          config.grammarPath.text text place

/-- A request reads the file at a place: it is its configuration, or is read with that. -/
def Request.Reads (request : Request) (tree : FileTree) (place : FileTree.Place) : Prop :=
  (∃ path, request.configPath = some path ∧ tree.resolve path.text = .ok place)
  ∨ ∃ config, request.config tree = .ok config ∧ CommandLine.Reads config tree place

/-- What happens to the tree that a request has left with a configuration: files change, but none that
the request has read, and the file of its analysis is none of these either. No fewer places remain,
since imports may be nested as deep as there are places. -/
def Request.KeepsRead (request : Request) (config : Config) (tree left later : FileTree) : Prop :=
  ∃ changed,
    left.DiffersAt changed later
    ∧ left.nodes.length ≤ later.nodes.length
    ∧ ∀ place,
        request.Reads tree place
        → ¬ changed place
          ∧ left.resolve (Load.cachePath config.grammarPath config.scratchDirectory).text
            ≠ .ok place

section

variable {config : Config} {tree prepared later : FileTree} {classification : Classification}
variable {changed : FileTree.Place → Prop}

/-- A load sees a tree that has its scratch directory alike if no file that it reads has changed. -/
theorem SeesAlike.of_differsAt
    (classified : (Request.classify config tree).result = .ok classification)
    (made : prepareScratch tree config.scratchDirectory = (prepared, .ok ()))
    (differs : prepared.DiffersAt changed later)
    (size : prepared.nodes.length ≤ later.nodes.length)
    (kept : ∀ place, Reads config tree place → ¬ changed place)
    : SeesAlike config tree later := by
  obtain ⟨tables, loaded, -⟩ := Request.classify_eq_ok.mp classified
  obtain ⟨text, _, readable, _, _⟩ := Load.run_eq_ok loaded
  have ensured := prepareScratch_eq_ok.mp made
  have extended := FileTree.extends_of_ensureDirectory ensured
  have directory : later.isDirectory config.scratchDirectory.text :=
    differs.keepsDirectories.isDirectory (FileTree.isDirectory_of_ensureDirectory ensured)
  have remade : prepareScratch later config.scratchDirectory = (later, .ok ()) :=
    prepareScratch_eq_ok.mpr (FileTree.ensureDirectory_of_isDirectory directory)
  refine ⟨?_, by rw [remade], fun text grammar readable read => ?_⟩
  · have reread := FileTree.readText_of_differsAt extended differs
      (fun place led => kept place (.inl led)) (readGrammar_eq_ok.mp readable)
    rw [readable, readGrammar_eq_ok.mpr reread]
  · have context_eq
        : importContext tree config.grammarPath config.scratchDirectory
          = ⟨prepared, config.grammarPath.parent.text⟩ := by
      rw [importContext, made]
    have same
        : Grammar.FindsSame ⟨prepared, config.grammarPath.parent.text⟩
            ⟨later, config.grammarPath.parent.text⟩ config.grammarPath.text text := by
      refine .of_differsAt differs fun tried looks => ?_
      exact kept tried (.inr ⟨text, readable, context_eq ▸ looks⟩)
    rw [context_eq] at read
    rw [importContext, remade]
    exact Grammar.read_of_findsSame same size read

/-- What a classification leaves is the tree with its scratch directory and, in that, the file of the
analysis. -/
theorem Request.world_classify
    (classified : (Request.classify config tree).result = .ok classification)
    : ∃ prepared,
        prepareScratch tree config.scratchDirectory = (prepared, .ok ())
        ∧ (Request.classify config tree).world
          = Load.leaveCache prepared config.grammarPath config.scratchDirectory config.options := by
  obtain ⟨tables, loaded, success⟩ := Request.classify_eq_ok.mp classified
  obtain ⟨text, prepared, readable, made, accepted⟩ := Load.run_eq_ok loaded
  refine ⟨prepared, made, ?_⟩
  have ran := Load.run_of_analysed readable made accepted
  rw [Request.classify_eq_loadWith, Extractor.loadWith_of_classified loaded success]
  exact congrArg Prod.fst ran

/-- A configuration that is read from its file is the same where the file is. -/
theorem Request.config_of_differsAt {request : Request} (extended : tree.Extends prepared)
    (differs : prepared.DiffersAt changed later)
    (kept : ∀ place, request.Reads tree place → ¬ changed place)
    (configured : request.config tree = .ok config)
    : request.config later = .ok config := by
  rw [Request.config] at configured ⊢
  cases named : request.configPath with
  | none =>
    rw [named] at configured
    exact configured
  | some path =>
    rw [named] at configured
    have readable : ∃ text, tree.readText path.text = .ok text := by
      cases read : tree.readText path.text with
      | ok text => exact ⟨text, rfl⟩
      | error error =>
        have unread : ∃ failure, Config.load tree path = .error failure := by
          rw [Config.load, read]
          rcases error with (_ | _) | _
          · exact ⟨_, rfl⟩
          · exact ⟨_, rfl⟩
          · exact ⟨_, rfl⟩
        obtain ⟨failure, unread⟩ := unread
        simp only [unread] at configured
        cases configured
    obtain ⟨text, read⟩ := readable
    have reread := FileTree.readText_of_differsAt extended differs
      (fun place led => kept place (.inl ⟨path, named, led⟩)) read
    have same : Config.load later path = Config.load tree path := by
      rw [Config.load, Config.load, read, reread]
    simp only [same]
    exact configured

/-- A request sees the tree that its classification leaves alike, and goes on to do so while the files
that it has read are kept. -/
theorem Request.SeesAlike.of_keepsRead {request : Request}
    (configured : request.config tree = .ok config)
    (classified : (Request.classify config tree).result = .ok classification)
    (keeps : request.KeepsRead config tree (Request.classify config tree).world later)
    : request.SeesAlike tree later := by
  obtain ⟨prepared, made, left⟩ := Request.world_classify classified
  rw [left] at keeps
  obtain ⟨others, differs, size, kept⟩ := keeps
  obtain ⟨analysed, between, grows, led⟩ :=
    Load.differsAt_leaveCache prepared config.grammarPath config.scratchDirectory config.options
  -- The files that differ from the analysed tree are the one of the analysis and the later ones.
  have unread : ∀ place, request.Reads tree place → ¬ (analysed place ∨ others place) := by
    intro place reads there
    rcases there with there | there
    · exact (kept place reads).2 (between.keepsDirectories.resolve (led place there))
    · exact (kept place reads).1 there
  have all := between.trans differs
  have extended := FileTree.extends_of_ensureDirectory (prepareScratch_eq_ok.mp made)
  refine ⟨?_, fun other found => ?_⟩
  · rw [configured, Request.config_of_differsAt extended all unread configured]
  · cases configured.symm.trans found
    refine CommandLine.SeesAlike.of_differsAt classified made all (Nat.le_trans grows size) ?_
    intro place reads
    exact unread place (.inr ⟨config, configured, reads⟩)

end

end ReservedWords.CommandLine
