import ReservedWords.CommandLine.Program
import ReservedWords.Proofs.Extractor
import ReservedWords.Proofs.Loading.Newlines

/-!
Command lines and line endings. A command line shows the same, writes the same and ends in the same
way, whatever the line endings of the files that it reads.
-/

namespace ReservedWords

open FileTree (DoneAlike NewlinesLeft Place respellLeft)
open Text (Newline)

theorem Config.load_respell (tree : FileTree) (newlines : Place → Newline) (path : Path)
    : load (tree.respell newlines) path = load tree path := by
  rw [load, load, FileTree.readText_respell]

namespace CommandLine

/-- The same initialization, of which the files have other line endings. -/
def respellWorld {ε : Type} (newlines : Place → Newline) (done : Initialization FileTree ε)
    : Initialization FileTree ε :=
  { done with world := done.world.respell newlines }

/-- The same outcome, of which the files have other line endings. -/
def Outcome.respell (newlines : Place → Newline) (outcome : Outcome) : Outcome :=
  { outcome with tree := outcome.tree.respell newlines }

/-- The same result, of which the files have other line endings. -/
def Result.respell (newlines : Place → Newline) (result : Result) : Result :=
  { result with tree := result.tree.respell newlines }

namespace Request

variable (tree : FileTree) (newlines : Place → Newline) (config : Config)

theorem config_respell (request : Request)
    : request.config (tree.respell newlines) = request.config tree := by
  rw [Request.config, Request.config]
  cases request.configPath with
  | none => rfl
  | some path =>
    dsimp only
    rw [Config.load_respell]

/-- A classification does what its load does, by cases on how that ends. -/
theorem classify_respell [Installation]
    : ∃ later,
        classify config (tree.respell newlines) = respellWorld later (classify config tree)
        ∧ NewlinesLeft tree newlines (classify config tree).world later := by
  obtain ⟨later, loaded, leaves⟩ :=
    Load.run_respell tree newlines config.grammarPath config.scratchDirectory config.options
  refine ⟨later, ?_⟩
  simp only [classify, Extractor.makeReady, Extractor.create, Extractor.configFrom,
    Extractor.loadWith, Extractor.fileSupplier, loaded, respellLeft]
  generalize Load.run tree config.grammarPath config.scratchDirectory config.options = ended
    at leaves ⊢
  obtain ⟨left, result⟩ := ended
  cases result with
  | error error => exact ⟨rfl, leaves⟩
  | ok tables =>
    dsimp only
    cases Classification.ofTables tables config.options <;> exact ⟨rfl, leaves⟩

theorem writeFile_respell (path : Path) (text : String)
    : DoneAlike tree newlines (writeFile tree path text)
        (writeFile (tree.respell newlines) path text) := by
  obtain ⟨middle, makes, between⟩ := FileTree.ensureDirectory_respell tree newlines path.parent
  rw [writeFile, writeFile, makes]
  generalize tree.ensureDirectory path.parent = done at between ⊢
  obtain ⟨made, result⟩ := done
  cases result with
  | error error => exact ⟨middle, rfl, between⟩
  | ok done =>
    obtain ⟨later, written, leaves⟩ :=
      FileTree.write_respell made middle path.text (Text.encode text)
    dsimp only [respellLeft]
    rw [written]
    generalize made.write path.text (Text.encode text) = ended at leaves ⊢
    cases ended with
    | error error => exact ⟨middle, rfl, between⟩
    | ok after => exact ⟨later, rfl, between.trans (leaves after rfl)⟩

variable [Installation]

theorem extract_respell (output : Option Path)
    : ∃ later,
        extract config output (tree.respell newlines)
          = (extract config output tree).respell later
        ∧ NewlinesLeft tree newlines (extract config output tree).tree later := by
  obtain ⟨middle, classified, between⟩ := classify_respell tree newlines config
  unfold extract
  rw [classified]
  generalize classify config tree = done at between ⊢
  obtain ⟨extractor, world, result, records⟩ := done
  cases result with
  | error error => exact ⟨middle, rfl, between⟩
  | ok classification =>
    cases output with
    | none => exact ⟨middle, rfl, between⟩
    | some path =>
      obtain ⟨later, written, leaves⟩ :=
        writeFile_respell world middle path (document classification)
      dsimp only [respellWorld]
      rw [written]
      generalize writeFile world path (document classification) = ended at leaves ⊢
      obtain ⟨after, result⟩ := ended
      cases result <;> exact ⟨later, rfl, between.trans leaves⟩

theorem check_respell (expected : Path)
    : ∃ later,
        check config expected (tree.respell newlines)
          = (check config expected tree).respell later
        ∧ NewlinesLeft tree newlines (check config expected tree).tree later := by
  obtain ⟨later, classified, leaves⟩ := classify_respell tree newlines config
  rw [check, check, readExpectation_respell, classified]
  cases readExpectation tree expected with
  | error error => exact ⟨newlines, rfl, .refl tree newlines⟩
  | ok labels =>
    generalize classify config tree = done at leaves ⊢
    obtain ⟨extractor, world, result, records⟩ := done
    refine ⟨later, ?_⟩
    cases result with
    | error error => exact ⟨rfl, leaves⟩
    | ok classification =>
      dsimp only [respellWorld]
      split <;> exact ⟨rfl, leaves⟩

theorem perform_respell (request : Request)
    : ∃ later,
        request.perform (tree.respell newlines) = (request.perform tree).respell later
        ∧ NewlinesLeft tree newlines (request.perform tree).tree later := by
  rw [perform, perform, config_respell]
  cases request.config tree with
  | error failure => exact ⟨newlines, rfl, .refl tree newlines⟩
  | ok config =>
    cases request.action with
    | extract output => exact extract_respell tree newlines config output
    | check expected => exact check_respell tree newlines config expected

end Request

theorem Outcome.toResult_respell (newlines : Place → Newline) (outcome : Outcome) (verbose : Bool)
    : (outcome.respell newlines).toResult verbose
      = (outcome.toResult verbose).respell newlines := by
  obtain ⟨tree, output, records, result⟩ := outcome
  cases result with
  | ok verdict => rfl
  | error failure => cases failure <;> rfl

theorem run_respell [Installation]
    (words : List String) (tree : FileTree) (newlines : Place → Newline)
    : ∃ later,
        run words (tree.respell newlines) = (run words tree).respell later
        ∧ NewlinesLeft tree newlines (run words tree).tree later := by
  rw [run, run]
  cases Request.ofWords words with
  | error halt =>
    refine ⟨newlines, ?_⟩
    dsimp only
    cases halt.stop <;> exact ⟨rfl, .refl tree newlines⟩
  | ok request =>
    obtain ⟨later, performed, leaves⟩ := request.perform_respell tree newlines
    refine ⟨later, ?_⟩
    dsimp only
    rw [performed, Outcome.toResult_respell, Outcome.toResult_tree]
    exact ⟨rfl, leaves⟩

/-- Two results of one command line, the other on the same tree with other line endings. They show the
same and end in the same way, and at each place they leave the same, or what stood there before. -/
structure Result.Alike (tree : FileTree) (newlines : Place → Newline) (result other : Result)
    : Prop where
  exit : other.exit = result.exit
  output : other.output = result.output
  errors : other.errors = result.errors
  left : ∀ place,
    other.tree.find? place = result.tree.find? place
    ∨ result.tree.find? place = tree.find? place
      ∧ other.tree.find? place = (tree.respell newlines).find? place

/-- Line endings make no difference. Files that hold a text without carriage returns may have pairs of
a carriage return and a line feed, or carriage returns alone, for all their line feeds, each file as it
likes; the others stay. Then every load has the same tables or the same failure, every list has the
same labels, and every command line has the same exit code, shows the same and writes the same. -/
theorem outcome_respell [Installation] (tree : FileTree) (newlines : Place → Newline)
    : (∀ place text,
        tree.find? place = some (.file (Text.encode text))
        → '\r' ∉ text.toList
        → (tree.respell newlines).find? place
          = some (.file (Text.encode ((newlines place).spell text))))
      ∧ (∀ place,
          newlines place = .feed → (tree.respell newlines).find? place = tree.find? place)
      ∧ (∀ path scratch options,
          (Load.run (tree.respell newlines) path scratch options).2
          = (Load.run tree path scratch options).2)
      ∧ (∀ path, readExpectation (tree.respell newlines) path = readExpectation tree path)
      ∧ ∀ words,
          Result.Alike tree newlines (run words tree) (run words (tree.respell newlines)) := by
  refine ⟨fun place text => FileTree.find?_respell_of_plain,
    fun place => FileTree.find?_respell_of_feed tree, fun path scratch options => ?_,
    fun path => readExpectation_respell tree newlines path, fun words => ?_⟩
  · obtain ⟨later, ended, -⟩ := Load.run_respell tree newlines path scratch options
    rw [ended, respellLeft]
  · obtain ⟨later, ended, leaves⟩ := run_respell words tree newlines
    rw [ended]
    exact ⟨rfl, rfl, rfl, leaves.find?⟩

end CommandLine

end ReservedWords
