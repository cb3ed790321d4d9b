import ReservedWords.Load
import ReservedWords.Proofs.Outcome

/-!
Loaded tables. A load has as many ends as it has steps, and whether the grammar is analysed or not,
tables come from a grammar that has been read and taken apart.
-/

namespace ReservedWords

section

variable {tree prepared : FileTree} {path : Path}

theorem readGrammar_eq_ok {text : String}
    : readGrammar tree path = .ok text ↔ tree.readText path.text = .ok text := by
  rw [readGrammar]
  constructor
  · intro readable
    split at readable
    · rename_i same
      cases readable
      exact same
    all_goals cases readable
  · intro readable
    rw [readable]

theorem prepareScratch_eq_ok
    : prepareScratch tree path = (prepared, .ok ())
      ↔ tree.ensureDirectory path = (prepared, .ok ()) := by
  rw [prepareScratch]
  constructor
  · intro made
    split at made
    · rename_i same
      cases made
      exact same
    all_goals cases made
  · intro made
    rw [made]

end

namespace Load

variable [Installation]
variable {tree prepared : FileTree} {path scratch : Path} {options : Options} {text : String}

theorem run_of_unreadable {error : LoadFailure} (unreadable : readGrammar tree path = .error error)
    : run tree path scratch options = (tree, .error (ofFile error)) := by
  simp only [run, unreadable]

theorem run_of_unprepared {error : LoadFailure} (readable : readGrammar tree path = .ok text)
    (unprepared : prepareScratch tree scratch = (prepared, .error error))
    : run tree path scratch options = (prepared, .error (ofFile error)) := by
  simp only [run, readable, unprepared]

theorem run_of_refused {error : Grammar.Failure} (readable : readGrammar tree path = .ok text)
    (made : prepareScratch tree scratch = (prepared, .ok ()))
    (refused : analysed prepared path options text = .error error)
    : run tree path scratch options = (prepared, .error (ofGrammar path error)) := by
  simp only [run, readable, made, refused]

theorem run_of_analysed {tables : Tables} (readable : readGrammar tree path = .ok text)
    (made : prepareScratch tree scratch = (prepared, .ok ()))
    (accepted : analysed prepared path options text = .ok tables)
    : run tree path scratch options = (leaveCache prepared path scratch options, .ok tables) := by
  simp only [run, readable, made, accepted]

/-- An analysis gives tables if every step succeeds, and then those of the grammar that its text
defines. -/
theorem analysed_eq_ok {tables : Tables}
    : analysed tree path options text = .ok tables
      ↔ ∃ grammar compiled,
          Grammar.read ⟨tree, path.parent.text⟩ path.text text = .ok grammar
          ∧ Analysis.checkParser options = .ok ()
          ∧ Grammar.Compiled.ofGrammar grammar = .ok compiled
          ∧ Analysis.check options compiled = .ok ()
          ∧ grammar.tablesOf compiled = tables := by
  simp only [analysed, bind_eq_ok]
  constructor
  · rintro ⟨grammar, read, ⟨⟩, parser, compiled, taken, ⟨⟩, checked, same⟩
    exact ⟨grammar, compiled, read, parser, taken, checked, Except.ok.inj same⟩
  · rintro ⟨grammar, compiled, read, parser, taken, checked, rfl⟩
    exact ⟨grammar, read, (), parser, compiled, taken, (), checked, rfl⟩

/-- A load that succeeds has read the grammar, made the scratch directory and analysed the text in
the tree as it was then. -/
theorem run_eq_ok {tables : Tables} (loaded : (run tree path scratch options).2 = .ok tables)
    : ∃ text prepared,
        readGrammar tree path = .ok text
        ∧ prepareScratch tree scratch = (prepared, .ok ())
        ∧ analysed prepared path options text = .ok tables := by
  cases readable : readGrammar tree path with
  | error error =>
    rw [run_of_unreadable readable] at loaded
    cases loaded
  | ok text =>
    match made : prepareScratch tree scratch with
    | (prepared, .error error) =>
      rw [run_of_unprepared readable made] at loaded
      cases loaded
    | (prepared, .ok ()) =>
      cases accepted : analysed prepared path options text with
      | error error =>
        rw [run_of_refused readable made accepted] at loaded
        cases loaded
      | ok found =>
        rw [run_of_analysed readable made accepted] at loaded
        cases loaded
        exact ⟨text, prepared, rfl, rfl, accepted⟩

end Load

/-- Tables that a grammar gives: its text is read from a file tree, taken apart and analysed, or it
is taken apart only. -/
inductive Tables.Loaded [Installation] : Tables → Prop
  | analysed {tree : FileTree} {path scratch : Path} {options : Options} {tables : Tables}
    (loaded : (Load.run tree path scratch options).2 = .ok tables)
    : Tables.Loaded tables
  | unanalysed {context : Grammar.ImportContext} {name text : String} {grammar : Grammar}
    {tables : Tables} (read : Grammar.read context name text = .ok grammar)
    (taken : grammar.tables = .ok tables)
    : Tables.Loaded tables

/-- Loaded tables are those of a grammar that has been read and taken apart. -/
theorem Tables.Loaded.origin [Installation] {tables : Tables} (loaded : tables.Loaded)
    : ∃ context name text grammar compiled,
        Grammar.read context name text = .ok grammar
        ∧ Grammar.Compiled.ofGrammar grammar = .ok compiled
        ∧ tables = grammar.tablesOf compiled := by
  cases loaded with
  | analysed loaded =>
    obtain ⟨text, prepared, -, -, accepted⟩ := Load.run_eq_ok loaded
    obtain ⟨grammar, compiled, read, -, taken, -, same⟩ := Load.analysed_eq_ok.mp accepted
    exact ⟨_, _, text, grammar, compiled, read, taken, same.symm⟩
  | @unanalysed context name text grammar tables read taken =>
    obtain ⟨compiled, taken, same⟩ := bind_eq_ok.mp taken
    exact ⟨context, name, text, grammar, compiled, read, taken, (Except.ok.inj same).symm⟩

-----------------------------------------------------------------------------------------
-- A working directory with a grammar
-----------------------------------------------------------------------------------------

namespace Load

/-- The working directory with a grammar in it. -/
def treeWith (text : String) : FileTree :=
  { FileTree.initial with
    nodes := FileTree.initial.nodes ++ [(["work", "g.lark"], .file (Text.encode text))] }

/-- The same with the scratch directory. -/
def preparedWith (text : String) : FileTree :=
  { treeWith text with nodes := (treeWith text).nodes ++ [(["work", "scratch"], .directory)] }

theorem prepareScratch_treeWith (text : String)
    : prepareScratch (treeWith text) (Path.ofString "scratch") = (preparedWith text, .ok ()) :=
  rfl

/-- A grammar in the working directory is loaded if its text can be read and passes the analysis. -/
theorem run_treeWith [Installation] {text : String} {tables : Tables}
    (readable : readGrammar (treeWith text) (Path.ofString "g.lark") = .ok text)
    (accepted : analysed (preparedWith text) (Path.ofString "g.lark") {} text = .ok tables)
    : (run (treeWith text) (Path.ofString "g.lark") (Path.ofString "scratch") {}).2
      = .ok tables := by
  rw [run_of_analysed readable (prepareScratch_treeWith text) accepted]

/-- A grammar in the working directory is loaded if its text can be read, taken apart and checked. -/
theorem run_treeWith_of_checked [Installation]
    {text : String} {grammar : Grammar} {compiled : Grammar.Compiled}
    (readable : readGrammar (treeWith text) (Path.ofString "g.lark") = .ok text)
    (read
      : Grammar.read ⟨preparedWith text, (Path.ofString "g.lark").parent.text⟩
          (Path.ofString "g.lark").text text
        = .ok grammar)
    (taken : Grammar.Compiled.ofGrammar grammar = .ok compiled)
    (checked : Analysis.check {} compiled = .ok ())
    : (run (treeWith text) (Path.ofString "g.lark") (Path.ofString "scratch") {}).2
      = .ok (grammar.tablesOf compiled) :=
  run_treeWith readable
    (analysed_eq_ok.mpr ⟨grammar, compiled, read, rfl, taken, checked, rfl⟩)

end Load

end ReservedWords
