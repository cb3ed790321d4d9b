import ReservedWords.Proofs.CommandLine.Agreement
import ReservedWords.Proofs.Config
import ReservedWords.Proofs.Loading.Footprint
import ReservedWords.Proofs.Text.Utf8

/-!
What a command line changes. A request touches nothing but its scratch directory until it has a
result; an error ends it before that, and only a file that is asked for gets the document.
-/

namespace ReservedWords

namespace CommandLine

section

variable {request : Request} {tree after : FileTree} {config : Config} {words : List String}
variable {classification : Classification} {output : Option Path} {path : Path}

theorem Request.isNormal_of_config (configured : request.config tree = .ok config)
    : config.IsNormal := by
  rw [Request.config] at configured
  cases named : request.configPath with
  | none =>
    rw [named] at configured
    cases configured
    exact Config.isNormal_packaged.withPaths _ _
  | some path =>
    simp only [named] at configured
    cases loaded : Config.load tree path with
    | error failure =>
      rw [loaded] at configured
      cases configured
    | ok found =>
      rw [loaded] at configured
      cases configured
      exact (Config.isNormal_of_load loaded).withPaths _ _

-----------------------------------------------------------------------------------------
-- What stays
-----------------------------------------------------------------------------------------

/-- Without a configuration a request has changed nothing; with one, nothing but missing directories on
the way of the scratch path and a file in the scratch directory. -/
structure Request.KeepsOutside (request : Request) (tree after : FileTree) : Prop where
  unconfigured : ∀ failure, request.config tree = .error failure → after = tree
  workingDirectory : after.workingDirectory = tree.workingDirectory
  places
    : ∀ config,
        request.config tree = .ok config
        → ∀ place,
            after.find? place = tree.find? place
            ∨ tree.MadeAt after config.scratchDirectory place
            ∨ ∃ directory,
                after.resolve config.scratchDirectory.text = .ok directory
                ∧ place = directory ++ [Load.cacheName config.grammarPath]

theorem Request.KeepsOutside.refl (request : Request) (tree : FileTree)
    : request.KeepsOutside tree tree :=
  ⟨fun _ _ => rfl, rfl, fun _ _ _ => .inl rfl⟩

/-- A classification leaves what its load leaves. -/
theorem Request.world_classify_eq [Installation] (config : Config) (tree : FileTree)
    : (classify config tree).world
      = (Load.run tree config.grammarPath config.scratchDirectory config.options).1 := by
  rw [classify_eq_loadWith]
  cases loaded : (Load.run tree config.grammarPath config.scratchDirectory config.options).2 with
  | error error =>
    rw [Extractor.loadWith_of_loadFailed loaded]
    rfl
  | ok tables =>
    cases classified : Classification.ofTables tables config.options with
    | error error =>
      rw [Extractor.loadWith_of_collectFailed loaded classified]
      rfl
    | ok found =>
      rw [Extractor.loadWith_of_classified loaded classified]
      rfl

theorem Request.keepsOutside_classify [Installation] (configured : request.config tree = .ok config)
    : request.KeepsOutside tree (classify config tree).world := by
  have normal := isNormal_of_config configured
  have left := Load.Footprint.of_isNormal tree config.options normal.grammar normal.scratch
  rw [← world_classify_eq] at left
  refine ⟨fun failure unconfigured => ?_, left.workingDirectory, fun other found place => ?_⟩
  · cases configured.symm.trans unconfigured
  · cases configured.symm.trans found
    exact (left.frame place).imp_right (.imp_right fun cache => cache.inside)

/-- A file that has been written holds the text, unless it is a sink. -/
theorem Request.holds_of_writeFile {text : String}
    (written : writeFile tree path text = (after, .ok ()))
    : ∃ place,
        after.resolve path.text = .ok place
        ∧ (after.find? place = some (.file (Text.encode text)) ∨ after.find? place = some .sink) := by
  rw [writeFile] at written
  split at written
  · cases written
  · rename_i between made
    split at written
    · rename_i done same
      cases written
      have keeps := (FileTree.differsAt_of_write same).1.keepsDirectories
      cases led : between.resolve path.text with
      | error error =>
        rw [FileTree.write_of_unresolved led] at same
        cases same
      | ok place =>
        refine ⟨place, keeps.resolve led, ?_⟩
        rw [FileTree.write_of_resolve led] at same
        have inner (noDirectory : between.find? place ≠ some .directory) : place ≠ [] := by
          rintro rfl
          exact noDirectory rfl
        split at same
        · cases same
        · rename_i sink
          cases same
          exact .inr sink
        · rename_i noDirectory _
          cases same
          exact .inl (FileTree.find?_put_self (inner noDirectory))
    · cases written

-----------------------------------------------------------------------------------------
-- What a request does
-----------------------------------------------------------------------------------------

/-- The request for the same extraction without a file. -/
def Request.withoutFile (request : Request) : Request :=
  { request with action := .extract none }

variable [Installation]

/-- What a request does to a tree, with the given result. -/
structure Request.Effects (request : Request) (tree : FileTree) (result : Result) : Prop where
  /-- A fault is shown and ends the program in an error, without any output, and leaves everything
  outside the scratch directory as it was. -/
  fault
    : ∀ fault,
        (request.perform tree).result = .error (.fault fault)
        → result.exit = .ok 1
          ∧ result.errors
            = unlines ((request.perform tree).log request.verbose ++ ["Error: " ++ fault.message])
          ∧ result.output = ""
          ∧ request.KeepsOutside tree result.tree
  /-- The exit code of an error without a fault is that of a difference. -/
  difference
    : result.exit = .ok 1
      → (∃ fault, (request.perform tree).result = .error (.fault fault))
        ∨ (∃ expected, request.action = .check expected)
          ∧ (request.perform tree).result = .ok .difference
  /-- A check leaves everything outside the scratch directory as it was, however it ends, and makes
  nothing without a list to read. -/
  check
    : ∀ expected,
        request.action = .check expected
        → request.KeepsOutside tree result.tree
          ∧ ∀ error, readExpectation tree expected = .error error → result.tree = tree
  /-- A file that an extraction has written holds what the same extraction shows without a file,
  unless the file is a sink. -/
  extract
    : ∀ path,
        request.action = .extract (some path)
        → result.exit = .ok 0
        → ∃ classification place,
            result.tree.resolve path.text = .ok place
            ∧ (result.tree.find? place
                = some (.file (Text.encode (Request.document classification)))
              ∨ result.tree.find? place = some .sink)
            ∧ (request.withoutFile.perform tree).result = .ok .success
            ∧ (request.withoutFile.perform tree).output = Request.document classification
            ∧ ∀ others,
                Request.ofWords others = .ok request.withoutFile
                → (run others tree).exit = .ok 0
                  ∧ (run others tree).output = Request.document classification

/-- An extraction that ends in a fault has shown nothing and left what its classification leaves. -/
theorem Request.extract_of_fault {fault : Fault}
    (failed : (extract config output tree).result = .error (.fault fault))
    : (extract config output tree).output = ""
      ∧ (extract config output tree).tree = (classify config tree).world := by
  have ends := extracts config output tree
  generalize extract config output tree = outcome at failed ends ⊢
  cases ends with
  | failed unclassified => exact ⟨rfl, rfl⟩
  | shown | written | unwritten => cases failed

/-- A check leaves what its classification leaves, if its list can be read, and shows nothing if it
ends in a fault. -/
theorem Request.check_of_readable (config : Config) {expected : Path} {labels : List String}
    (readable : readExpectation tree expected = .ok labels)
    : (check config expected tree).tree = (classify config tree).world
      ∧ ∀ fault,
          (check config expected tree).result = .error (.fault fault)
          → (check config expected tree).output = "" := by
  have ends := checks config expected tree
  generalize check config expected tree = outcome at ends ⊢
  cases ends with
  | unreadable unreadable => cases readable.symm.trans unreadable
  | failed => exact ⟨rfl, fun _ _ => rfl⟩
  | met | unmet => exact ⟨rfl, nofun⟩

/-- What is left of a check: nothing is made without a list, and nothing outside the scratch directory
otherwise. -/
theorem Request.perform_check (tree : FileTree) {expected : Path}
    (action : request.action = .check expected)
    : request.KeepsOutside tree (request.perform tree).tree
      ∧ (∀ error,
          readExpectation tree expected = .error error → (request.perform tree).tree = tree)
      ∧ ∀ fault,
          (request.perform tree).result = .error (.fault fault)
          → (request.perform tree).output = "" := by
  rw [perform]
  cases configured : request.config tree with
  | error failure => exact ⟨.refl request tree, fun _ _ => rfl, fun _ _ => rfl⟩
  | ok config =>
    simp only [action]
    cases readable : readExpectation tree expected with
    | error error =>
      rw [check_eq_iff.mpr (.unreadable readable)]
      exact ⟨.refl request tree, fun _ _ => rfl, fun _ _ => rfl⟩
    | ok labels =>
      obtain ⟨left, shown⟩ := check_of_readable config readable
      rw [left]
      refine ⟨keepsOutside_classify configured, fun error unreadable => ?_, shown⟩
      cases unreadable

theorem Request.perform_of_fault {fault : Fault}
    (failed : (request.perform tree).result = .error (.fault fault))
    : (request.perform tree).output = ""
      ∧ request.KeepsOutside tree (request.perform tree).tree := by
  cases action : request.action with
  | check expected =>
    obtain ⟨keeps, -, shown⟩ := perform_check tree action
    exact ⟨shown fault failed, keeps⟩
  | extract output =>
    rw [perform] at failed ⊢
    cases configured : request.config tree with
    | error failure => exact ⟨rfl, .refl request tree⟩
    | ok config =>
      simp only [configured, action] at failed
      obtain ⟨shown, left⟩ := extract_of_fault failed
      simp only [action]
      rw [left]
      exact ⟨shown, keepsOutside_classify configured⟩

theorem Request.extract_ne_difference : (extract config output tree).result ≠ .ok .difference := by
  have ends := extracts config output tree
  generalize extract config output tree = outcome at ends ⊢
  cases ends <;> nofun

/-- An exit code of one comes from a fault, or from a difference, which only a check can find. -/
theorem Request.result_of_exit_one {verbose : Bool}
    (exit : ((request.perform tree).toResult verbose).exit = .ok 1)
    : (∃ fault, (request.perform tree).result = .error (.fault fault))
      ∨ (∃ expected, request.action = .check expected)
        ∧ (request.perform tree).result = .ok .difference := by
  rw [Outcome.toResult] at exit
  split at exit
  · rename_i verdict result
    cases verdict with
    | success => cases exit
    | difference =>
      refine .inr ⟨?_, result⟩
      rw [perform] at result
      cases configured : request.config tree with
      | error failure =>
        rw [configured] at result
        cases result
      | ok config =>
        rw [configured] at result
        cases action : request.action with
        | check expected => exact ⟨expected, rfl⟩
        | extract output =>
          simp only [action] at result
          exact absurd result extract_ne_difference
  · rename_i fault result
    exact .inl ⟨fault, result⟩
  · cases exit

/-- An extraction without a file shows the document of its classification. -/
theorem Request.perform_of_classified (action : request.action = .extract none)
    (configured : request.config tree = .ok config)
    (classified : (classify config tree).result = .ok classification)
    : (request.perform tree).result = .ok .success
      ∧ (request.perform tree).output = document classification := by
  simp only [perform, configured, action, extract_eq_iff.mpr (.shown classified), and_self]

theorem run_of_request (tree : FileTree) (given : Request.ofWords words = .ok request)
    : run words tree = (request.perform tree).toResult request.verbose := by
  rw [run, given]

/-- A file that an extraction writes gets the document that it shows without a file. -/
theorem Request.holds_of_extract (given : Request.ofWords words = .ok request)
    (action : request.action = .extract (some path)) (exit : (run words tree).exit = .ok 0)
    : ∃ classification place,
        (run words tree).tree.resolve path.text = .ok place
        ∧ ((run words tree).tree.find? place
            = some (.file (Text.encode (document classification)))
          ∨ (run words tree).tree.find? place = some .sink)
        ∧ (request.withoutFile.perform tree).result = .ok .success
        ∧ (request.withoutFile.perform tree).output = document classification
        ∧ ∀ others,
            Request.ofWords others = .ok request.withoutFile
            → (run others tree).exit = .ok 0
              ∧ (run others tree).output = document classification := by
  obtain ⟨config, classification, configured, classified, before, written⟩ :=
    exists_classification_of_extract given action exit
  obtain ⟨place, led, held⟩ := holds_of_writeFile written
  have reconfigured : request.withoutFile.config tree = .ok config := configured
  obtain ⟨succeeds, shows⟩ := perform_of_classified rfl reconfigured classified
  refine ⟨classification, place, led, held, succeeds, shows, fun others again => ?_⟩
  rw [run_of_request tree again, Outcome.toResult_output]
  refine ⟨?_, shows⟩
  simp only [Outcome.toResult, succeeds]
  rfl

/-- What a command line does to a tree. One without a request changes nothing; the effects of a request
are bounded, whatever it asks for and however it ends. -/
theorem effects_run (words : List String) (tree : FileTree)
    : (∀ halt, Request.ofWords words = .error halt → (run words tree).tree = tree)
      ∧ ∀ request,
          Request.ofWords words = .ok request → request.Effects tree (run words tree) := by
  constructor
  · intro halt refused
    rw [run, refused]
    dsimp only
    split <;> rfl
  · intro request given
    have ran := run_of_request tree given
    refine { fault := ?_, difference := ?_, check := ?_, extract := ?_ }
    · intro fault failed
      obtain ⟨shown, keeps⟩ := Request.perform_of_fault failed
      rw [ran, Outcome.toResult_tree, Outcome.toResult_output]
      refine ⟨?_, ?_, shown, keeps⟩
      · simp only [Outcome.toResult, failed, faultCode]
      · simp only [Outcome.toResult, failed]
    · intro exit
      rw [ran] at exit
      exact Request.result_of_exit_one exit
    · intro expected action
      obtain ⟨keeps, unmade, -⟩ := Request.perform_check tree action
      rw [ran, Outcome.toResult_tree]
      exact ⟨keeps, unmade⟩
    · exact fun path action exit => Request.holds_of_extract given action exit

end

-----------------------------------------------------------------------------------------
-- A document that nobody keeps
-----------------------------------------------------------------------------------------

namespace UnkeptDocument

open scoped Standard

/-- The extraction of the grammar into the sink. -/
def words : List String := ["extract", "g.lark", "scratch", "-o", "/dev/null"]

def request : Request :=
  { WrittenList.extraction with action := .extract (some (Path.ofString "/dev/null")) }

theorem ofWords_words : Request.ofWords words = .ok request := by
  decide +kernel

theorem config_request (tree : FileTree) : request.config tree = .ok WrittenList.config :=
  rfl

/-- The tree that the classification leaves. -/
def left : FileTree :=
  Load.leaveCache (Load.preparedWith DetachedGrammar.text) (Path.ofString "g.lark")
    (Path.ofString "scratch") {}

theorem world_classify : (Request.classify WrittenList.config WrittenList.tree).world = left := by
  have made := Load.prepareScratch_treeWith DetachedGrammar.text
  rw [Request.world_classify_eq, WrittenList.paths_config.1, WrittenList.paths_config.2]
  exact congrArg Prod.fst (DetachedGrammar.run_of_prepared made (Nat.le_refl _))

/-- Whatever is written to the sink, the tree stays as it is. -/
theorem writeFile_sink (text : String)
    : Request.writeFile left (Path.ofString "/dev/null") text = (left, .ok ()) := by
  have directory : left.isDirectory (Path.ofString "/dev/null").parent.text := by decide +kernel
  have led : left.resolve (Path.ofString "/dev/null").text = .ok ["dev", "null"] := by
    decide +kernel
  have found : left.find? ["dev", "null"] = some .sink := by decide +kernel
  rw [Request.writeFile, FileTree.ensureDirectory_of_isDirectory directory]
  simp only [FileTree.write_of_resolve led, found]

end UnkeptDocument

open scoped Standard in
/-- An extraction into the sink succeeds, and afterwards nothing is there to be read, though the same
extraction without a file shows a document. -/
theorem effects_of_sink
    : (run UnkeptDocument.words WrittenList.tree).exit = .ok 0
      ∧ (run UnkeptDocument.words WrittenList.tree).tree.read "/dev/null" = .ok []
      ∧ (run WrittenList.words WrittenList.tree).exit = .ok 0
      ∧ Text.encode (run WrittenList.words WrittenList.tree).output ≠ [] := by
  have ran :=
    run_extract UnkeptDocument.ofWords_words rfl (UnkeptDocument.config_request WrittenList.tree)
  have world := UnkeptDocument.world_classify
  have classified := WrittenList.classify_tree
  have shown := run_extract WrittenList.ofWords.1 rfl (WrittenList.config_extraction WrittenList.tree)
  unfold Request.extract at ran shown
  generalize Request.classify WrittenList.config WrittenList.tree = done at ran shown world classified
  simp only [classified, world, UnkeptDocument.writeFile_sink] at ran shown
  have kept : UnkeptDocument.left.read "/dev/null" = .ok [] := by decide +kernel
  rw [ran, shown, Outcome.toResult_tree, Outcome.toResult_output]
  refine ⟨rfl, kept, rfl, fun empty => ?_⟩
  have decoded := Text.decode_encode (Request.document WrittenList.classification)
  rw [empty] at decoded
  have nothing : "" = Request.document WrittenList.classification := Except.ok.inj decoded
  simpa [Request.document] using congrArg String.toList nothing

end CommandLine

end ReservedWords
