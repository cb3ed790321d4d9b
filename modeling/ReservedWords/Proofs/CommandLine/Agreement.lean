import ReservedWords.Proofs.Classification.Comparison
import ReservedWords.Proofs.Classification.Completeness
import ReservedWords.Proofs.CommandLine.Endings
import ReservedWords.Proofs.CommandLine.Surroundings
import ReservedWords.Proofs.Expectation
import ReservedWords.Proofs.Grammar.Names

/-!
Two commands with one answer. A list of labels that is held against a grammar is as expected if and
only if it has just the restricted keywords of the document that is extracted from the grammar; where
it is not, both differences are shown. Since the labels of keywords are names, they are read from a
list as they are written.
-/

namespace ReservedWords

-----------------------------------------------------------------------------------------
-- The labels of keywords
-----------------------------------------------------------------------------------------

theorem Grammar.IsNameChar.plain {c : Char} (named : Grammar.IsNameChar c)
    : ¬ Text.isBlank c ∧ c ≠ '#' := by
  obtain ⟨kind, continues⟩ := named
  have codes
      : c = '_' ∨ 97 ≤ c.toNat ∧ c.toNat ≤ 122 ∨ 65 ≤ c.toNat ∧ c.toNat ≤ 90
        ∨ 48 ≤ c.toNat ∧ c.toNat ≤ 57 := by
    have between {first last : Char} (inside : first ≤ c ∧ c ≤ last)
        : first.toNat ≤ c.toNat ∧ c.toNat ≤ last.toNat :=
      ⟨UInt32.le_iff_toNat_le.mp inside.1, UInt32.le_iff_toNat_le.mp inside.2⟩
    simp only [Grammar.Lexeme.continues, Grammar.Lexeme.isNameDigit, Bool.or_eq_true,
      Bool.and_eq_true, decide_eq_true_eq] at continues
    rcases continues with (underscore | letter) | digit
    · exact .inl underscore
    · cases kind with
      | rule =>
        simp only [Grammar.SymbolKind.isLetter, Grammar.Lexeme.isLower, Bool.and_eq_true,
          decide_eq_true_eq] at letter
        exact .inr (.inl (between letter))
      | terminal =>
        simp only [Grammar.SymbolKind.isLetter, Grammar.Lexeme.isUpper, Bool.and_eq_true,
          decide_eq_true_eq] at letter
        exact .inr (.inr (.inl (between letter)))
    · exact .inr (.inr (.inr (between digit)))
  rcases codes with rfl | codes
  · decide
  · constructor
    · simp [Text.isBlank, Text.Interval.covers, Text.blanks, Text.Interval.contains]
      omega
    · rintro rfl
      revert codes
      decide

theorem Grammar.IsIdentifier.plain {name : String} (identifier : Grammar.IsIdentifier name)
    : Expectation.Plain name :=
  fun c member => (identifier.chars c member).plain

/-- The labels of keywords of loaded tables are names. -/
theorem Tables.Loaded.isIdentifier_of_mem_labels [Installation]
    {tables : Tables} (loaded : tables.Loaded)
    {options : Options} {classification : Classification}
    (classified : Classification.ofTables tables options = .ok classification) {label : String}
    (known : label ∈ classification.labels)
    : Grammar.IsIdentifier label := by
  obtain ⟨context, name, text, grammar, compiled, read, -, rfl⟩ := loaded.origin
  have labelled := Keyword.labelled_collect (Classification.ofTables_ok classified).1
  rw [← Classification.map_label_keywords labelled] at known
  obtain ⟨image, member, -⟩ := (Classification.mem_labels_of_classified classified).mp known
  obtain ⟨⟨key, entry⟩, present, same⟩ := List.mem_map.mp member
  cases same
  have key_eq : key = label := by
    rcases (grammar.represented_tablesOf compiled).token key _ present with
      ⟨image, literal⟩ | ⟨kind, other⟩
    · cases literal
      rfl
    · cases other
  subst key_eq
  have keys := (Tables.covers_of_read read compiled).terminals
  have listed : key ∈ grammar.terminals.map Prod.fst := by
    rw [← keys]
    exact List.mem_map_of_mem present
  obtain ⟨⟨terminal, body⟩, entry, same⟩ := List.mem_map.mp listed
  cases same
  exact (Grammar.ownName_of_mem_terminals read entry).isIdentifier

-----------------------------------------------------------------------------------------
-- The two commands
-----------------------------------------------------------------------------------------

namespace CommandLine

/-- A result gives a document: it is shown, or written to the file that is asked for. -/
def Result.Gives (result : Result) (output : Option Path) (summary : Classification.Summary) : Prop :=
  match output with
  | none => result.output = Document.print summary ++ "\n"
  | some path =>
    ∃ before,
      Request.writeFile before path (Document.print summary ++ "\n") = (result.tree, .ok ())

/-- What holding expected labels against restricted ones comes to. It ends in success if they are the
same; otherwise it shows, after a heading, the labels on one side only, each side sorted. -/
structure Result.Compares (result : Result) (expected restricted : List String) : Prop where
  success : result.exit = .ok 0 ↔ ∀ label, label ∈ expected ↔ label ∈ restricted
  difference
    : (¬ ∀ label, label ∈ expected ↔ label ∈ restricted)
      → result.exit = .ok 1
        ∧ ∃ missing unexpected : List String,
            result.output
              = unlines
                  ("❌ Restricted keywords differ from the expectation list"
                    :: (missing.map fun label =>
                        "  - " ++ label
                          ++ " (expected restricted, but whitelisted or not a keyword)")
                      ++ unexpected.map fun label =>
                        "  + " ++ label ++ " (restricted, but not in the expectation list)")
            ∧ (∀ label, label ∈ missing ↔ label ∈ expected ∧ label ∉ restricted)
            ∧ (∀ label, label ∈ unexpected ↔ label ∈ restricted ∧ label ∉ expected)
            ∧ missing.Pairwise (· < ·)
            ∧ unexpected.Pairwise (· < ·)

section

variable [Installation]
variable {words : List String} {request : Request} {tree : FileTree} {config : Config}
variable {classification : Classification}

theorem success_of_exit (given : Request.ofWords words = .ok request)
    (exit : (run words tree).exit = .ok 0)
    : (request.perform tree).result = .ok .success := by
  rw [run, given] at exit
  cases result : (request.perform tree).result with
  | ok verdict =>
    cases verdict with
    | success => rfl
    | difference =>
      simp only [Outcome.toResult, result] at exit
      cases exit
  | error failure =>
    cases failure with
    | fault fault | defect defect =>
      simp only [Outcome.toResult, result] at exit
      cases exit

theorem run_extract {output : Option Path} (given : Request.ofWords words = .ok request)
    (action : request.action = .extract output) (configured : request.config tree = .ok config)
    : run words tree = (Request.extract config output tree).toResult request.verbose := by
  simp only [run, given, Request.perform, configured, action]

theorem run_check {expected : Path} (given : Request.ofWords words = .ok request)
    (action : request.action = .check expected) (configured : request.config tree = .ok config)
    : run words tree = (Request.check config expected tree).toResult request.verbose := by
  simp only [run, given, Request.perform, configured, action]

theorem exists_classification_of_success {output : Option Path} {verbose : Bool}
    (succeeded : (Request.extract config output tree).result = .ok .success)
    : ∃ classification,
        (Request.classify config tree).result = .ok classification
        ∧ ((Request.extract config output tree).toResult verbose).Gives output
            classification.summary := by
  have ends := Request.extracts config output tree
  generalize Request.extract config output tree = outcome at succeeded ends ⊢
  cases ends with
  | failed unclassified => cases succeeded
  | shown classified => exact ⟨_, classified, rfl⟩
  | written classified written => exact ⟨_, classified, _, written⟩
  | unwritten classified unwritten => cases succeeded

/-- An extraction that succeeds has a configuration and a classification, and gives the document. -/
theorem exists_classification_of_extract {output : Option Path}
    (given : Request.ofWords words = .ok request) (action : request.action = .extract output)
    (exit : (run words tree).exit = .ok 0)
    : ∃ config classification,
        request.config tree = .ok config
        ∧ (Request.classify config tree).result = .ok classification
        ∧ (run words tree).Gives output classification.summary := by
  have succeeded := success_of_exit given exit
  cases configured : request.config tree with
  | error failure =>
    simp only [Request.perform, configured] at succeeded
    cases succeeded
  | ok config =>
    have performed : request.perform tree = Request.extract config output tree := by
      simp only [Request.perform, configured, action]
    rw [performed] at succeeded
    rw [run_extract given action configured]
    obtain ⟨classification, classified, gives⟩ := exists_classification_of_success succeeded
    exact ⟨config, classification, rfl, classified, gives⟩

/-- An extraction that finds the classification and has no file to write succeeds, and leaves what the
classification leaves. -/
theorem extract_of_classified (given : Request.ofWords words = .ok request)
    (action : request.action = .extract none) (configured : request.config tree = .ok config)
    (classified : (Request.classify config tree).result = .ok classification)
    : (run words tree).exit = .ok 0
      ∧ (run words tree).tree = (Request.classify config tree).world := by
  rw [run_extract given action configured, Request.extract_eq_iff.mpr (.shown classified)]
  exact ⟨rfl, rfl⟩

/-- A check that finds the classification holds the labels against it. -/
theorem compares_of_check {expected : Path} {labels : List String}
    (given : Request.ofWords words = .ok request) (action : request.action = .check expected)
    (configured : request.config tree = .ok config)
    (readable : readExpectation tree expected = .ok labels)
    (classified : (Request.classify config tree).result = .ok classification)
    : (run words tree).Compares labels classification.restrictedKeywords := by
  rw [run_check given action configured]
  have met_iff := @Classification.isEmpty_compareRestricted_iff classification labels
  by_cases met : (classification.compareRestricted labels).isEmpty
  · rw [Request.check_eq_iff.mpr (.met readable classified met)]
    refine ⟨⟨fun _ => met_iff.mp met, fun _ => rfl⟩, fun other => absurd (met_iff.mp met) other⟩
  · rw [Request.check_eq_iff.mpr (.unmet readable classified met)]
    refine ⟨⟨nofun, fun same => absurd (met_iff.mpr same) met⟩, fun _ => ⟨rfl, _, _, rfl, ?_⟩⟩
    refine ⟨fun label => Classification.mem_missing, fun label => Classification.mem_unexpected, ?_⟩
    exact ⟨Classification.pairwise_lt_missing classification labels,
      Classification.pairwise_lt_unexpected classification labels⟩

end

section

variable [Installation]
variable {words others : List String} {extraction checking : Request} {expected : Path}
variable {tree later : FileTree} {config : Config} {classification : Classification}

/-- A check finds the classification on every tree that is seen alike. -/
theorem compares_of_seesAlike {labels : List String}
    (checks : Request.ofWords others = .ok checking)
    (compares : checking.action = .check expected) (shares : checking.SharesPaths extraction)
    (configured : extraction.config tree = .ok config)
    (classified : (Request.classify config tree).result = .ok classification)
    (sees : extraction.SeesAlike tree later)
    (readable : readExpectation later expected = .ok labels)
    : (run others later).Compares labels classification.restrictedKeywords := by
  have reconfigured : checking.config later = .ok config := by
    rw [shares.config_eq, sees.config, configured]
  have reclassified := (sees.sees config configured).classify classified
  exact compares_of_check checks compares reconfigured readable reclassified

/-- Lines with just the restricted keywords, which are names, are read as just these. -/
theorem mem_labels_of_lists {text : String}
    (classified : (Request.classify config tree).result = .ok classification)
    (lists : Expectation.Lists classification.restrictedKeywords text) (label : String)
    : label ∈ Expectation.labels text ↔ label ∈ classification.restrictedKeywords := by
  obtain ⟨tables, loaded, classified⟩ := Request.classify_eq_ok.mp classified
  have identifier
      : ∀ label ∈ classification.restrictedKeywords, Grammar.IsIdentifier label :=
    fun label restricted =>
      (Tables.Loaded.analysed loaded).isIdentifier_of_mem_labels classified
        (Classification.mem_restrictedKeywords.mp restricted).1
  refine Expectation.mem_labels_of_lists (fun label restricted => ?_) (fun empty => ?_) lists
  · exact (identifier label restricted).plain
  · exact (identifier "" empty).full rfl

/-- A command line that checks labels agrees with one that extracts the same grammar. If the
extraction succeeds, it gives a document; and on every later tree that the request sees alike, every
readable list of labels is held against the restricted keywords of the document, and a text of lines
with just these is as expected. Such a tree is the same one, or, after an extraction that shows the
document, the one that it leaves, where other files than those it has read may change. -/
theorem check_agrees_with_extract {output : Option Path}
    (extracts : Request.ofWords words = .ok extraction)
    (writes : extraction.action = .extract output)
    (checks : Request.ofWords others = .ok checking)
    (compares : checking.action = .check expected) (shares : checking.SharesPaths extraction)
    (exit : (run words tree).exit = .ok 0)
    : ∃ config classification,
        extraction.config tree = .ok config
        ∧ (Request.classify config tree).result = .ok classification
        ∧ (run words tree).Gives output classification.summary
        ∧ (∀ later,
            extraction.SeesAlike tree later
            → (∀ labels,
                readExpectation later expected = .ok labels
                → (run others later).Compares labels classification.summary.restricted)
              ∧ ∀ text,
                  later.readText expected.text = .ok text
                  → Expectation.Lists classification.summary.restricted text
                  → (run others later).exit = .ok 0)
        ∧ extraction.SeesAlike tree tree
        ∧ (output = none
            → ∀ later,
                extraction.KeepsRead config tree (run words tree).tree later
                → extraction.SeesAlike tree later) := by
  obtain ⟨config, classification, configured, classified, gives⟩ :=
    exists_classification_of_extract extracts writes exit
  refine ⟨config, classification, configured, classified, gives, ?agrees, ?same, ?after⟩
  case agrees =>
    intro later sees
    have held
        : ∀ labels,
            readExpectation later expected = .ok labels
            → (run others later).Compares labels classification.summary.restricted :=
      fun labels => compares_of_seesAlike checks compares shares configured classified sees
    refine ⟨held, fun text content lists => ?_⟩
    have readable : readExpectation later expected = .ok (Expectation.labels text) := by
      rw [readExpectation, Expectation.read, content]
      rfl
    exact (held _ readable).success.mpr (mem_labels_of_lists classified lists)
  case same =>
    refine ⟨rfl, fun other found => ?_⟩
    cases configured.symm.trans found
    exact SeesAlike.refl classified
  case after =>
    rintro rfl later keeps
    rw [(extract_of_classified extracts writes configured classified).2] at keeps
    exact .of_keepsRead configured classified keeps

end

-----------------------------------------------------------------------------------------
-- A list that is written beside a grammar
-----------------------------------------------------------------------------------------

namespace WrittenList

open scoped Standard
open DetachedGrammar (compiled grammar)

def tree : FileTree := Load.treeWith DetachedGrammar.text

def list : String := "# both\nK_B\n\n K_A # twice\nK_A"

/-- The tree with a list of both labels in it. -/
def later : FileTree :=
  { tree with nodes := tree.nodes ++ [(["work", "list"], .file (Text.encode list))] }

def words : List String := ["extract", "g.lark", "scratch"]

def others : List String := ["check", "--expected", "list", "g.lark", "scratch"]

def request (action : Action) : Request where
  grammarPath := some (Path.ofString "g.lark")
  scratchDirectory := some (Path.ofString "scratch")
  configPath := none
  verbose := false
  action

def extraction : Request := request (.extract none)

def checking : Request := request (.check (Path.ofString "list"))

theorem ofWords
    : Request.ofWords words = .ok extraction ∧ Request.ofWords others = .ok checking := by
  decide +kernel

/-- The packaged configuration with other paths. -/
def config : Config :=
  Config.packaged.withPaths (some (Path.ofString "g.lark").text)
    (some (Path.ofString "scratch").text)

theorem config_extraction (tree : FileTree) : extraction.config tree = .ok config :=
  rfl

theorem paths_config
    : config.grammarPath = Path.ofString "g.lark"
      ∧ config.scratchDirectory = Path.ofString "scratch" := by
  decide +kernel

def classification : Classification where
  keywordTable := ⟨[("K_A", ⟨"K_A", "a"⟩), ("K_B", ⟨"K_B", "b"⟩)], by decide⟩
  buckets := .empty

theorem classify_tree : (Request.classify config tree).result = .ok classification := by
  have loaded
      : (Load.run tree config.grammarPath config.scratchDirectory config.options).2
        = .ok (grammar.tablesOf compiled) := by
    rw [paths_config.1, paths_config.2]
    exact DetachedGrammar.loaded_detached
  exact Request.classify_eq_ok.mpr ⟨_, loaded, rfl⟩

theorem exit_words : (run words tree).exit = .ok 0 :=
  (extract_of_classified ofWords.1 rfl (config_extraction tree) classify_tree).1

theorem texts_later
    : readGrammar later (Path.ofString "g.lark") = .ok DetachedGrammar.text
      ∧ later.readText (Path.ofString "list").text = .ok list := by
  decide +kernel

/-- The later tree with the scratch directory. -/
def prepared : FileTree :=
  { later with nodes := later.nodes ++ [(["work", "scratch"], .directory)] }

theorem prepareScratch_later
    : prepareScratch later (Path.ofString "scratch") = (prepared, .ok ()) :=
  rfl

theorem seesAlike_later : extraction.SeesAlike tree later := by
  refine ⟨rfl, fun other found => ?_⟩
  cases (config_extraction tree).symm.trans found
  have size : (Load.preparedWith DetachedGrammar.text).nodes.length ≤ prepared.nodes.length := by
    decide
  refine ⟨?_, ?_, fun text grammar readable read => ?_⟩
  · rw [paths_config.1, texts_later.1]
    exact DetachedGrammar.readGrammar_detached.symm
  · rw [paths_config.2, prepareScratch_later]
  · rw [paths_config.1] at readable
    rw [paths_config.1, paths_config.2, Load.importContext] at read ⊢
    rw [prepareScratch_later]
    cases DetachedGrammar.readGrammar_detached.symm.trans readable
    refine Grammar.read_of_findsSame (.of_not_asked fun request => ?_) size read
    exact DetachedGrammar.not_asked_detached request _

theorem restricted_classification : classification.restrictedKeywords = ["K_A", "K_B"] :=
  rfl

/-- The lines of the list: a comment, both labels, one of them twice, and a blank line. -/
theorem lists_list : Expectation.Lists classification.restrictedKeywords list := by
  rw [restricted_classification]
  have unbroken (chars : List Char) (clean : chars.all (!Text.isLineBoundary ·))
      : ∀ c ∈ chars, ¬ Text.isLineBoundary c := by
    simpa using clean
  have around : ∀ c ∈ [' '] ++ [' '], Text.isBlank c := List.all_eq_true.mp rfl
  have remark : Expectation.Line "" "# both".toList :=
    @Expectation.Line.intro "" [] [] "# both".toList nofun (.inr rfl) (unbroken _ rfl)
  have second : Expectation.Line "K_B" "K_B".toList :=
    @Expectation.Line.intro "K_B" [] [] [] nofun (.inl rfl) nofun
  have blank : Expectation.Line "" [] :=
    @Expectation.Line.intro "" [] [] [] nofun (.inl rfl) nofun
  have first : Expectation.Line "K_A" " K_A # twice".toList :=
    @Expectation.Line.intro "K_A" [' '] [' '] "# twice".toList around (.inr rfl) (unbroken _ rfl)
  have again : Expectation.Line "K_A" "K_A".toList :=
    @Expectation.Line.intro "K_A" [] [] [] nofun (.inl rfl) nofun
  refine ⟨["# both".toList, "K_B".toList, [], " K_A # twice".toList], "K_A".toList, by decide, ?_, ?_⟩
  · simp only [List.cons_append, List.nil_append, List.forall_mem_cons]
    exact ⟨⟨"", by simp, remark⟩, ⟨"K_B", by simp, second⟩, ⟨"", by simp, blank⟩,
      ⟨"K_A", by simp, first⟩, ⟨"K_A", by simp, again⟩, nofun⟩
  · simp only [List.forall_mem_cons]
    exact ⟨⟨_, by simp, again⟩, ⟨_, by simp, second⟩, nofun⟩

end WrittenList

open scoped Standard in
/-- The check ends in success on a tree with the list, which the extraction has not seen. -/
theorem check_agrees_with_extract_written
    : (run WrittenList.words WrittenList.tree).output
        = Document.print WrittenList.classification.summary ++ "\n"
      ∧ (run WrittenList.others WrittenList.later).exit = .ok 0 := by
  obtain ⟨config, classification, configured, classified, gives, agree, -⟩ :=
    check_agrees_with_extract WrittenList.ofWords.1 rfl WrittenList.ofWords.2 rfl ⟨rfl, rfl, rfl⟩
      WrittenList.exit_words
  cases (WrittenList.config_extraction WrittenList.tree).symm.trans configured
  cases WrittenList.classify_tree.symm.trans classified
  obtain ⟨-, met⟩ := agree WrittenList.later WrittenList.seesAlike_later
  exact ⟨gives, met WrittenList.list WrittenList.texts_later.2 WrittenList.lists_list⟩

end CommandLine

end ReservedWords
