import ReservedWords.Proofs.Loading.Cache
import ReservedWords.Proofs.Loading.Independence

/-!
What a load leaves on disk. It makes missing directories on the way of the scratch path and, if it
succeeds, leaves the file of the analysis in the scratch directory. All else stays, and the same load
once more changes nothing.
-/

namespace ReservedWords

-----------------------------------------------------------------------------------------
-- The files of imports
-----------------------------------------------------------------------------------------

namespace Grammar

variable {context : ImportContext} {name text : String} {place : FileTree.Place}

theorem ImportRequest.getLast?_of_tries {tree : FileTree} {request : ImportRequest}
    {directories : List String} {file : String} (tries : Tries tree request.file directories file)
    : file.toList.getLast? = some 'k' := by
  induction tries with
  | further absent tries ih => exact ih
  | @here directory directories =>
    have ending : ".lark".toList.getLast? = some 'k' := rfl
    rw [join, ImportRequest.file]
    split <;> simp only [String.toList_append, List.getLast?_append, ending, Option.some_or]

/-- The files that are tried for imports have names with one and the same last letter. -/
theorem LooksAt.exists_append [Installation] (looks : LooksAt context name text place)
    : ∃ above last, place = above ++ [last] ∧ last.toList.getLast? = some 'k' := by
  obtain ⟨-, -, -, -, request, -, file, tries, led⟩ := looks
  exact FileTree.exists_append_of_resolve (ImportRequest.getLast?_of_tries tries) (by decide)
    (by decide) led

end Grammar

namespace Load

open LoadOutcome (Failure)

variable {tree : FileTree} {path scratch : Path} {options : Options} {tables : Tables}
variable {place : FileTree.Place}

theorem nul_not_mem_of_readGrammar {text : String} (readable : readGrammar tree path = .ok text)
    : '\x00' ∉ path.text.toList := by
  obtain ⟨place, node, led, -⟩ := FileTree.resolve_of_readText (readGrammar_eq_ok.mp readable)
  exact fun nul =>
    Bool.eq_false_iff.mp (FileTree.resolve_eq_ok.mp led).1 (List.contains_iff_mem.mpr nul)

-----------------------------------------------------------------------------------------
-- The same load once more
-----------------------------------------------------------------------------------------

/-- A load that has succeeded succeeds again, with the same tables, and changes nothing, unless its
grammar is what the analysis has replaced. -/
theorem run_again [Installation] (normal : path.IsNormal) (scratchNormal : scratch.IsNormal)
    (loaded : (run tree path scratch options).2 = .ok tables)
    (apart
      : ∀ place,
          (run tree path scratch options).1.resolve path.text = .ok place
          → (run tree path scratch options).1.resolve (cachePath path scratch).text ≠ .ok place)
    : run (run tree path scratch options).1 path scratch options
      = ((run tree path scratch options).1, .ok tables) := by
  obtain ⟨text, prepared, readable, made, accepted⟩ := run_eq_ok loaded
  rw [run_of_analysed readable made accepted] at apart ⊢
  obtain ⟨changed, differs, size, changedAt⟩ := differsAt_leaveCache prepared path scratch options
  have ensured := prepareScratch_eq_ok.mp made
  have extended := FileTree.extends_of_ensureDirectory ensured
  have directory := FileTree.isDirectory_of_ensureDirectory ensured
  have reread : readGrammar (leaveCache prepared path scratch options) path = .ok text := by
    have readText := readGrammar_eq_ok.mp readable
    refine readGrammar_eq_ok.mpr (FileTree.readText_of_differsAt extended differs ?_ readText)
    intro place led there
    have here := extended.keepsDirectories.resolve led
    exact apart place (differs.keepsDirectories.resolve here)
      (differs.keepsDirectories.resolve (changedAt place there))
  have remade
      : prepareScratch (leaveCache prepared path scratch options) scratch
        = (leaveCache prepared path scratch options, .ok ()) :=
    prepareScratch_eq_ok.mpr
      (FileTree.ensureDirectory_of_isDirectory (differs.keepsDirectories.isDirectory directory))
  have reaccepted
      : analysed (leaveCache prepared path scratch options) path options text = .ok tables := by
    obtain ⟨grammar, compiled, read, parser, taken, checked, same⟩ := analysed_eq_ok.mp accepted
    -- The name of no file that is tried for an import ends as that of the file of an analysis does.
    have fixed
        : Grammar.FindsSame ⟨prepared, path.parent.text⟩
            ⟨leaveCache prepared path scratch options, path.parent.text⟩ path.text text := by
      refine .of_differsAt differs fun place looks there => ?_
      obtain ⟨above, last, rfl, letter⟩ := looks.exists_append
      obtain ⟨inside, led, found⟩ := FileTree.isDirectory_iff.mp directory
      have named :=
        ((resolve_cachePath normal scratchNormal (nul_not_mem_of_readGrammar readable) led found).mp
          (changedAt _ there)).2
      obtain ⟨rfl⟩ := List.append_inj_right' named rfl
      cases letter.symm.trans (getLast?_cacheName path)
    have reread := Grammar.read_of_findsSame fixed size read
    exact analysed_eq_ok.mpr ⟨grammar, compiled, reread, parser, taken, checked, same⟩
  rw [run_of_analysed reread remade reaccepted, leaveCache_leaveCache]

-----------------------------------------------------------------------------------------
-- All that a load leaves
-----------------------------------------------------------------------------------------

/-- The four ends of a load: the grammar is not read, the scratch directory is not made, the grammar is
refused, or there are tables. -/
theorem run_cases [Installation] (tree : FileTree) (path scratch : Path) (options : Options)
    : (∃ error,
        readGrammar tree path = .error error
        ∧ run tree path scratch options = (tree, .error (ofFile error)))
      ∨ ∃ text,
          readGrammar tree path = .ok text
          ∧ ((∃ prepared error,
                prepareScratch tree scratch = (prepared, .error error)
                ∧ run tree path scratch options = (prepared, .error (ofFile error)))
            ∨ ∃ prepared,
                prepareScratch tree scratch = (prepared, .ok ())
                ∧ ((∃ error,
                      run tree path scratch options = (prepared, .error (ofGrammar path error)))
                  ∨ ∃ tables,
                      run tree path scratch options
                      = (leaveCache prepared path scratch options, .ok tables))) := by
  cases readable : readGrammar tree path with
  | error error => exact .inl ⟨error, rfl, run_of_unreadable readable⟩
  | ok text =>
    refine .inr ⟨text, rfl, ?_⟩
    match made : prepareScratch tree scratch with
    | (prepared, .error error) =>
      exact .inl ⟨prepared, error, rfl, run_of_unprepared readable made⟩
    | (prepared, .ok ()) =>
      refine .inr ⟨prepared, rfl, ?_⟩
      cases accepted : analysed prepared path options text with
      | error error => exact .inl ⟨error, run_of_refused readable made accepted⟩
      | ok tables => exact .inr ⟨tables, run_of_analysed readable made accepted⟩

/-- The place of the file that an analysis leaves: a load has tables, as has its parser, and the place
is under the name of the file in the scratch directory, where that fits. -/
structure CacheAt (path scratch : Path) (options : Options) (after : FileTree)
    (result : Except Failure Tables) (place : FileTree.Place)
    : Prop where
  loaded : ∃ tables, result = .ok tables
  lalr : options.parser = "lalr"
  fits : FileTree.Fits scratch (cacheName path)
  inside
    : ∃ directory,
        after.resolve scratch.text = .ok directory ∧ place = directory ++ [cacheName path]

/-- What a load with the given result has left of a tree. -/
structure Footprint [Installation]
    (tree : FileTree) (path scratch : Path) (options : Options) (after : FileTree)
    (result : Except Failure Tables)
    : Prop where
  /-- If the grammar cannot be read, nothing is made. -/
  unread : ∀ error, readGrammar tree path = .error error → after = tree
  /-- Tables, and the rejection of a grammar, need a grammar that is read and a scratch directory. -/
  prepared
    : ((∃ tables, result = .ok tables) ∨ ∃ other error, result = .error (.rejected other error))
      → (∃ text, readGrammar tree path = .ok text)
        ∧ ∃ prepared, prepareScratch tree scratch = (prepared, .ok ())
  workingDirectory : after.workingDirectory = tree.workingDirectory
  /-- Nothing changes but for missing directories on the way of the scratch path and the file of an
  analysis. -/
  frame
    : ∀ place,
        after.find? place = tree.find? place
        ∨ tree.MadeAt after scratch place
        ∨ CacheAt path scratch options after result place
  /-- The scratch directory holds the names that were there, and those. -/
  names
    : ∀ text prepared,
        readGrammar tree path = .ok text
        → prepareScratch tree scratch = (prepared, .ok ())
        → ∃ directory names,
            after.resolve scratch.text = .ok directory
            ∧ after.list? scratch.text = some names
            ∧ ∀ name,
                name ∈ names
                ↔ tree.find? (directory ++ [name]) ≠ none
                  ∨ tree.MadeAt after scratch (directory ++ [name])
                  ∨ CacheAt path scratch options after result (directory ++ [name])
  /-- Only double dots in the scratch path bring its missing directories into its own directory. -/
  straight
    : ".." ∉ scratch.parts
      → ∀ directory name,
          after.resolve scratch.text = .ok directory
          → ¬ tree.MadeAt after scratch (directory ++ [name])
  /-- The same load has the same tables at once and leaves nothing new, unless its grammar stands where
  the file of its analysis does. -/
  again
    : ∀ tables,
        result = .ok tables
        → (∀ place,
            after.resolve path.text = .ok place
            → after.resolve (cachePath path scratch).text ≠ .ok place)
        → run after path scratch options = (after, .ok tables)

variable {after prepared : FileTree} {text : String} {result : Except Failure Tables}

theorem grows_of_prepareScratch {outcome : Except LoadFailure Unit}
    (ensured : prepareScratch tree scratch = (prepared, outcome))
    : tree.Grows prepared scratch := by
  have same : prepared = (tree.ensureDirectory scratch).1 := by
    rw [prepareScratch] at ensured
    split at ensured
    all_goals
      rename_i made
      cases ensured
      rw [made]
  have made : tree.ensureDirectory scratch = (prepared, (tree.ensureDirectory scratch).2) :=
    Prod.ext same.symm rfl
  exact FileTree.grows_of_ensureDirectory made

variable [Installation]

/-- What a load without tables leaves are the directories that it has made. -/
theorem Footprint.of_failed (scratchNormal : scratch.IsNormal) (grows : tree.Grows after scratch)
    (failed : ∀ tables, result ≠ .ok tables)
    (unread : ∀ error, readGrammar tree path = .error error → after = tree)
    (rejected
      : ∀ other error,
          result = .error (.rejected other error)
          → (∃ text, readGrammar tree path = .ok text)
            ∧ ∃ prepared, prepareScratch tree scratch = (prepared, .ok ()))
    (made
      : ∀ text prepared,
          readGrammar tree path = .ok text
          → prepareScratch tree scratch = (prepared, .ok ())
          → after.isDirectory scratch.text)
    : Footprint tree path scratch options after result where
  unread := unread
  prepared := by
    rintro (⟨tables, loaded⟩ | ⟨other, error, refused⟩)
    · exact absurd loaded (failed tables)
    · exact rejected other error refused
  workingDirectory := grows.workingDirectory
  frame place := (grows.places place).imp_right .inl
  names text prepared readable ensured := by
    obtain ⟨directory, led, found⟩ := FileTree.isDirectory_iff.mp (made text prepared readable ensured)
    obtain ⟨names, listed, held⟩ := FileTree.exists_list? led found
    refine ⟨directory, names, led, listed, fun name => ?_⟩
    rw [held, grows.find?_ne_none_iff]
    have nothing : ¬ CacheAt path scratch options after result (directory ++ [name]) := by
      rintro ⟨⟨tables, loaded⟩, -⟩
      exact failed tables loaded
    rw [or_iff_left nothing]
  straight straight directory name led there :=
    FileTree.not_onWay_child scratchNormal straight led there.onWay
  again tables loaded := absurd loaded (failed tables)

/-- What a load with tables leaves are the directories that it has made, and the file of the analysis
in the last of them. -/
theorem Footprint.of_loaded (normal : path.IsNormal) (scratchNormal : scratch.IsNormal)
    (readable : readGrammar tree path = .ok text)
    (made : prepareScratch tree scratch = (prepared, .ok ()))
    (ran
      : run tree path scratch options
        = (leaveCache prepared path scratch options, .ok tables))
    : Footprint tree path scratch options (leaveCache prepared path scratch options)
        (.ok tables) := by
  have ensured := prepareScratch_eq_ok.mp made
  have grows := FileTree.grows_of_ensureDirectory ensured
  obtain ⟨changed, differs, -⟩ := differsAt_leaveCache prepared path scratch options
  have keeps := differs.keepsDirectories
  have again := differs.symm.keepsDirectories
  obtain ⟨directory, led, found⟩ :=
    FileTree.isDirectory_iff.mp (FileTree.isDirectory_of_ensureDirectory ensured)
  have noNul := nul_not_mem_of_readGrammar readable
  have cacheAt (place : FileTree.Place)
      : options.parser = "lalr"
          ∧ FileTree.Fits scratch (cacheName path)
          ∧ place = directory ++ [cacheName path]
        ↔ CacheAt path scratch options (leaveCache prepared path scratch options) (.ok tables)
            place := by
    constructor
    · rintro ⟨lalr, fits, here⟩
      exact ⟨⟨tables, rfl⟩, lalr, fits, directory, keeps.resolve led, here⟩
    · rintro ⟨-, lalr, fits, other, relied, here⟩
      cases (keeps.resolve led).symm.trans relied
      exact ⟨lalr, fits, here⟩
  refine
    { unread := ?_, prepared := ?_, workingDirectory := ?_, frame := ?_, names := ?_,
      straight := ?_, again := ?_ }
  · intro error unreadable
    cases readable.symm.trans unreadable
  · exact fun _ => ⟨⟨text, readable⟩, prepared, made⟩
  · exact differs.workingDirectory.trans grows.workingDirectory
  · intro place
    rcases find?_leaveCache normal scratchNormal noNul led found with same | here
    · rw [same]
      exact (grows.places place).imp_right fun made => .inl (made.mono keeps)
    · exact .inr (.inr ((cacheAt place).mp here))
  · intro _ _ _ _
    obtain ⟨names, listed, held⟩ :=
      FileTree.exists_list? (keeps.resolve led) (keeps.directories directory found)
    refine ⟨directory, names, keeps.resolve led, listed, fun name => ?_⟩
    rw [held, find?_leaveCache_ne_none_iff normal scratchNormal noNul led found, cacheAt,
      grows.find?_ne_none_iff, or_assoc]
    refine or_congr_right (or_congr_left ⟨fun made => made.mono keeps, fun made => ?_⟩)
    exact made.mono again
  · exact fun straight other name led there =>
      FileTree.not_onWay_child scratchNormal straight led there.onWay
  · intro found same apart
    cases same
    have loaded : (run tree path scratch options).2 = .ok tables := by rw [ran]
    have twice := run_again normal scratchNormal loaded (by rwa [ran])
    rwa [ran] at twice

theorem Footprint.of_isNormal (tree : FileTree) (options : Options) (normal : path.IsNormal)
    (scratchNormal : scratch.IsNormal)
    : Footprint tree path scratch options (run tree path scratch options).1
        (run tree path scratch options).2 := by
  rcases run_cases tree path scratch options with
    ⟨error, unreadable, ran⟩
    | ⟨text, readable, ⟨prepared, error, unmade, ran⟩
        | ⟨prepared, made, ⟨error, ran⟩ | ⟨tables, ran⟩⟩⟩
  · rw [ran]
    refine .of_failed scratchNormal (.refl tree scratch) nofun (fun _ _ => rfl) ?_ ?_
    · intro other rejection same
      cases error <;> cases same
    · intro text _ readable _
      cases unreadable.symm.trans readable
  · rw [ran]
    refine .of_failed scratchNormal (grows_of_prepareScratch unmade) nofun ?_ ?_ ?_
    · intro other unreadable
      cases readable.symm.trans unreadable
    · intro other rejection same
      cases error <;> cases same
    · intro _ _ _ made
      cases unmade.symm.trans made
  · rw [ran]
    refine .of_failed scratchNormal (grows_of_prepareScratch made) nofun ?_ ?_ ?_
    · intro other unreadable
      cases readable.symm.trans unreadable
    · exact fun _ _ _ => ⟨⟨text, readable⟩, prepared, made⟩
    · intro _ _ _ remade
      cases made.symm.trans remade
      exact FileTree.isDirectory_of_ensureDirectory (prepareScratch_eq_ok.mp made)
  · rw [ran]
    exact .of_loaded normal scratchNormal readable made ran

/-- What a load leaves of any tree, however it ends. -/
theorem footprint_run (tree : FileTree) (grammar scratch : String) (options : Options)
    : Footprint tree (Path.ofString grammar) (Path.ofString scratch) options
        (run tree (Path.ofString grammar) (Path.ofString scratch) options).1
        (run tree (Path.ofString grammar) (Path.ofString scratch) options).2 :=
  .of_isNormal tree options (Path.isNormal_ofString grammar) (Path.isNormal_ofString scratch)

end Load

-----------------------------------------------------------------------------------------
-- A grammar with its scratch directory
-----------------------------------------------------------------------------------------

namespace DetachedGrammar

open scoped Standard

/-- The tree that a load of the grammar leaves, once its scratch directory is made. -/
theorem run_of_prepared {prepared : FileTree} {scratch : String}
    (made : prepareScratch (Load.treeWith text) (Path.ofString scratch) = (prepared, .ok ()))
    (size : (Load.preparedWith text).nodes.length ≤ prepared.nodes.length)
    : Load.run (Load.treeWith text) (Path.ofString "g.lark") (Path.ofString scratch) {}
      = (Load.leaveCache prepared (Path.ofString "g.lark") (Path.ofString scratch) {},
          .ok (grammar.tablesOf compiled)) := by
  have read
      : Grammar.read ⟨prepared, (Path.ofString "g.lark").parent.text⟩ (Path.ofString "g.lark").text
          text
        = .ok grammar := by
    refine Grammar.read_of_findsSame (.of_not_asked fun request => ?_) size read_detached
    exact not_asked_detached request _
  have checked : Analysis.check {} compiled = .ok () := by decide +kernel
  exact Load.run_of_analysed readGrammar_detached made
    (Load.analysed_eq_ok.mpr ⟨grammar, compiled, read, rfl, compiled_detached, checked, rfl⟩)

/-- The working directory with a directory in it. -/
def besideDirectory : FileTree :=
  { Load.treeWith text with
    nodes := (Load.treeWith text).nodes ++ [(["work", "a"], .directory)] }

theorem prepareScratch_besideDirectory
    : prepareScratch (Load.treeWith text) (Path.ofString "a/..") = (besideDirectory, .ok ()) :=
  rfl

end DetachedGrammar

open scoped Standard in
/-- A load of the grammar leaves the file of its analysis in the scratch directory, and the same load
succeeds once more. -/
theorem Load.footprint_run_detached
    : ∃ after names,
        run (treeWith DetachedGrammar.text) (Path.ofString "g.lark") (Path.ofString "scratch") {}
          = (after, .ok (DetachedGrammar.grammar.tablesOf DetachedGrammar.compiled))
        ∧ after.list? (Path.ofString "scratch").text = some names
        ∧ "g.lark-cache" ∈ names
        ∧ run after (Path.ofString "g.lark") (Path.ofString "scratch") {}
          = (after, .ok (DetachedGrammar.grammar.tablesOf DetachedGrammar.compiled)) := by
  have made := prepareScratch_treeWith DetachedGrammar.text
  have ran := DetachedGrammar.run_of_prepared made (Nat.le_refl _)
  have left := footprint_run (treeWith DetachedGrammar.text) "g.lark" "scratch" {}
  rw [ran] at left
  obtain ⟨directory, names, led, listed, held⟩ :=
    left.names _ _ DetachedGrammar.readGrammar_detached made
  have name : cacheName (Path.ofString "g.lark") = "g.lark-cache" := by decide +kernel
  have fits : FileTree.Fits (Path.ofString "scratch") (cacheName (Path.ofString "g.lark")) := by
    rw [FileTree.Fits, name]
    decide +kernel
  refine ⟨_, names, ran, listed, ?_, left.again _ rfl fun place grammar cache => ?_⟩
  · rw [held, ← name]
    exact .inr (.inr ⟨⟨_, rfl⟩, rfl, fits, directory, led, rfl⟩)
  · have apart
        : (leaveCache (preparedWith DetachedGrammar.text) (Path.ofString "g.lark")
              (Path.ofString "scratch") {}).resolve (Path.ofString "g.lark").text
          ≠ (leaveCache (preparedWith DetachedGrammar.text) (Path.ofString "g.lark")
              (Path.ofString "scratch") {}).resolve
              (cachePath (Path.ofString "g.lark") (Path.ofString "scratch")).text := by
      decide +kernel
    exact apart (grammar.trans cache.symm)

open scoped Standard in
/-- A missing directory before double dots is made in the scratch directory itself: with the working
directory for a scratch directory, a load leaves a name there that is neither one of those before nor
that of the file of its analysis. -/
theorem Load.footprint_of_double_dots
    : ∃ after tables before names,
        run (treeWith DetachedGrammar.text) (Path.ofString "g.lark") (Path.ofString "a/..") {}
          = (after, .ok tables)
        ∧ (treeWith DetachedGrammar.text).resolve "." = .ok ["work"]
        ∧ after.resolve (Path.ofString "a/..").text = .ok ["work"]
        ∧ (treeWith DetachedGrammar.text).list? "." = some before
        ∧ after.list? (Path.ofString "a/..").text = some names
        ∧ "a" ∉ before
        ∧ "a" ∈ names
        ∧ "a" ≠ cacheName (Path.ofString "g.lark") := by
  have ran :=
    DetachedGrammar.run_of_prepared DetachedGrammar.prepareScratch_besideDirectory (by decide)
  have start : (treeWith DetachedGrammar.text).resolve "." = .ok ["work"] := by decide +kernel
  have led
      : (leaveCache DetachedGrammar.besideDirectory (Path.ofString "g.lark") (Path.ofString "a/..")
            {}).resolve (Path.ofString "a/..").text
        = .ok ["work"] := by
    decide +kernel
  obtain ⟨before, listed, held⟩ := FileTree.exists_list? start (by decide +kernel)
  obtain ⟨names, relisted, holds⟩ := FileTree.exists_list? led (by decide +kernel)
  refine ⟨_, _, before, names, ran, start, led, listed, relisted, ?_, ?_, by decide +kernel⟩
  · rw [held]
    decide +kernel
  · rw [holds]
    decide +kernel

end ReservedWords
