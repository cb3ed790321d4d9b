import ReservedWords.Proofs.Definition.Whitelisting
import ReservedWords.Proofs.Grammar.Order
import ReservedWords.Proofs.Grammar.Representation
import ReservedWords.Proofs.Grammar.Sources

/-!
What loaded tables depend on: the grammar text and what it imports, and nothing else. No option
reaches them, whichever analysis it asks for and whichever rule the analysis starts from, and a
classification depends on the three naming options only.
-/

namespace ReservedWords

namespace Grammar

variable {grammar : Grammar} {compiled : Compiled}

/-- The part of a grammar that is used from a rule on, together with some terminals that are kept
even if they are not used. -/
def Compiled.keptFrom (compiled : Compiled) (start : String) (kept : List String) : Compiled :=
  let used := compiled.usedFrom start
  let names := namesIn .terminal used.expansions
  { used with
    terminals := compiled.terminals.filter fun terminal =>
      names.contains terminal.name || compiled.ignored.contains terminal.name
        || kept.contains terminal.name }

/-- A name whose terminals are all kept has the same entry, by induction on the terminals. -/
theorem tokenItem_filter {terminals : List Terminal} {name : String} {keep : Terminal → Bool}
    (kept : ∀ terminal ∈ terminals, terminal.name = name → keep terminal)
    : tokenItem (terminals.filter keep) name = tokenItem terminals name := by
  have found
      : (terminals.filter keep).find? (·.name == name) = terminals.find? (·.name == name) := by
    induction terminals with
    | nil => rfl
    | cons terminal rest ih =>
      have others := ih fun later member => kept later (List.mem_cons_of_mem _ member)
      by_cases same : terminal.name = name
      · rw [List.filter_cons_of_pos (kept terminal List.mem_cons_self same)]
        simp only [List.find?_cons, same, beq_self_eq_true]
      · have other : (terminal.name == name) = false := beq_eq_false_iff_ne.mpr same
        rw [List.filter_cons]
        split
        · simp only [List.find?_cons, other, others]
        · simp only [List.find?_cons, other, others]
  rw [tokenItem, found, tokenItem]

/-- The tables of a grammar are those of the part that is used from any rule on, as long as the named
terminals are kept. -/
theorem tablesOf_keptFrom (grammar : Grammar) (compiled : Compiled) (start : String)
    : grammar.tablesOf (compiled.keptFrom start (grammar.terminals.map Prod.fst))
      = grammar.tablesOf compiled := by
  have entries
      : grammar.tokenTable (compiled.keptFrom start (grammar.terminals.map Prod.fst))
        = grammar.tokenTable compiled := by
    refine congrArg Dictionary.ofList (List.map_congr_left fun (name, body) member => ?_)
    refine congrArg (fun item => (name, some item)) (tokenItem_filter fun terminal _ same => ?_)
    have listed : name ∈ grammar.terminals.map Prod.fst := List.mem_map_of_mem member
    simp [same, listed]
  rw [tablesOf, entries, tablesOf]

end Grammar

-----------------------------------------------------------------------------------------
-- The entries of loaded tables
-----------------------------------------------------------------------------------------

open Grammar (Compiled Draft FindsSame ImportContext Statement namesOf)

/-- Tables with an entry for each terminal and each rule of a grammar, and with those that the text
itself introduces in the order of the text. -/
structure Tables.Covers (tables : Tables) (grammar : Grammar) (text : String) : Prop where
  terminals : tables.tokens.keys = grammar.terminals.map Prod.fst
  rules : tables.productions.keys = grammar.rules.map Grammar.Rule.name
  order
    : ∃ statements,
        Draft.statements text = .ok statements
        ∧ (namesOf .terminal (statements.flatMap Statement.introduces)).Sublist tables.tokens.keys
        ∧ (namesOf .rule (statements.flatMap Statement.introduces)).Sublist
            tables.productions.keys

theorem Tables.covers_of_read [Installation]
    {context : ImportContext} {name text : String} {grammar : Grammar}
    (read : Grammar.read context name text = .ok grammar) (compiled : Compiled)
    : (grammar.tablesOf compiled).Covers grammar text := by
  have terminals : (grammar.tablesOf compiled).tokens.keys = grammar.terminals.map Prod.fst := by
    have names
        : (grammar.terminals.map fun entry =>
              (entry.1, some (Grammar.tokenItem compiled.terminals entry.1))).map Prod.fst
          = grammar.terminals.map Prod.fst := by
      rw [List.map_map]
      rfl
    have distinct := Grammar.nodup_terminals read
    rw [← names] at distinct ⊢
    exact congrArg (List.map Prod.fst) (Dictionary.entries_ofList distinct)
  have rules
      : (grammar.tablesOf compiled).productions.keys = grammar.rules.map Grammar.Rule.name := by
    have names
        : grammar.ruleDefinitions.map ReservedWords.Definition.Rule.name
          = grammar.rules.map Grammar.Rule.name := by
      rw [Grammar.ruleDefinitions, List.map_map]
      rfl
    have distinct := Grammar.nodup_rules read
    rw [← names] at distinct ⊢
    refine (congrArg (List.map Prod.fst) (Definition.entries_productionTable distinct)).trans ?_
    rw [List.map_map]
    rfl
  obtain ⟨statements, parsed, order⟩ := Grammar.sublist_of_read read
  rw [← terminals, ← rules] at order
  exact ⟨terminals, rules, statements, parsed, order⟩

-----------------------------------------------------------------------------------------
-- Two loads of one grammar
-----------------------------------------------------------------------------------------

/-- Two sets of options name the same object-name productions and keyword tokens. -/
structure Options.NamesAlike (options others : Options) : Prop where
  productionStart : options.productionStart = others.productionStart
  aggregateEnd : options.aggregateEnd = others.aggregateEnd
  keywordStart : options.keywordStart = others.keywordStart

/-- Buckets depend on nothing but the naming options, by induction on the entries. -/
theorem Whitelist.bucketsFrom_of_namesAlike {options others : Options}
    (alike : options.NamesAlike others) (entries : List (String × Entry))
    : bucketsFrom options entries = bucketsFrom others entries := by
  have names (name : String) : options.namesObjects name = others.namesObjects name := by
    rw [Options.namesObjects, Options.namesObjects, alike.productionStart, alike.aggregateEnd]
  have labels (entry : Entry) : bucket options entry = bucket others entry := by
    cases entry with
    | none => rfl
    | some item =>
      cases item with
      | production production => rw [bucket, bucket, alike.keywordStart]
      | literal | other => rfl
  induction entries with
  | nil => rfl
  | cons entry rest ih => rw [bucketsFrom, bucketsFrom, names, labels, ih]

/-- The keywords of tables do not depend on the options at all, and their buckets on nothing but the
naming options. -/
theorem Classification.eq_of_ofTables {tables : Tables} {options others : Options}
    {classification other : Classification}
    (classified : ofTables tables options = .ok classification)
    (reclassified : ofTables tables others = .ok other)
    : classification.keywordTable = other.keywordTable
      ∧ (options.NamesAlike others → classification = other) := by
  have keywords := (ofTables_ok classified).1.symm.trans (ofTables_ok reclassified).1
  refine ⟨Except.ok.inj keywords, fun alike => ?_⟩
  rw [ofTables, Whitelist.collect, Whitelist.bucketsFrom_of_namesAlike alike] at classified
  exact Except.ok.inj (classified.symm.trans reclassified)

namespace Load

variable {tree other : FileTree} {path scratch elsewhere : Path} {options others : Options}
variable {text : String} {tables again : Tables}

/-- Where a load looks for the imports of a grammar, once the scratch directory is made. -/
def importContext (tree : FileTree) (path scratch : Path) : ImportContext :=
  ⟨(prepareScratch tree scratch).1, path.parent.text⟩

/-- Two loads of one grammar text, whose imports are found alike, have the same tables, whatever the
options. The tables have an entry for each terminal and each rule, in the order of definition, and are
the same for the part of the grammar that is used from any rule on. They are classified under the
options of both loads, with the same keywords; the classifications can differ in their buckets only,
and only if the naming options do. -/
theorem tables_of_options [Installation] (readable : readGrammar tree path = .ok text)
    (rereadable : readGrammar other path = .ok text)
    (fixed
      : FindsSame (importContext tree path scratch) (importContext other path elsewhere) path.text
          text)
    (loaded : (run tree path scratch options).2 = .ok tables)
    (reloaded : (run other path elsewhere others).2 = .ok again)
    : again = tables
      ∧ (∃ grammar compiled,
          Grammar.read (importContext tree path scratch) path.text text = .ok grammar
          ∧ Compiled.ofGrammar grammar = .ok compiled
          ∧ tables.Covers grammar text
          ∧ ∀ start,
              tables
              = grammar.tablesOf
                  (compiled.keptFrom start (grammar.terminals.map Prod.fst)))
      ∧ ∃ classification reclassified,
          Classification.ofTables tables options = .ok classification
          ∧ Classification.ofTables again others = .ok reclassified
          ∧ classification.keywordTable = reclassified.keywordTable
          ∧ (options.NamesAlike others → classification = reclassified) := by
  obtain ⟨text', prepared, readable', made, accepted⟩ := run_eq_ok loaded
  obtain ⟨text'', reprepared, rereadable', remade, reaccepted⟩ := run_eq_ok reloaded
  cases readable.symm.trans readable'
  cases rereadable.symm.trans rereadable'
  obtain ⟨grammar, compiled, read, -, taken, -, rfl⟩ := analysed_eq_ok.mp accepted
  obtain ⟨regrammar, recompiled, reread, -, retaken, -, rfl⟩ := analysed_eq_ok.mp reaccepted
  have place : importContext tree path scratch = ⟨prepared, path.parent.text⟩ := by
    rw [importContext, made]
  have replace : importContext other path elsewhere = ⟨reprepared, path.parent.text⟩ := by
    rw [importContext, remade]
  rw [place, replace] at fixed
  cases Grammar.eq_of_findsSame fixed read reread
  cases taken.symm.trans retaken
  refine ⟨rfl, ⟨grammar, compiled, place ▸ read, taken, Tables.covers_of_read read compiled,
    fun start => (Grammar.tablesOf_keptFrom grammar compiled start).symm⟩, ?_⟩
  have shape := grammar.represented_tablesOf compiled
  obtain ⟨classification, classified, -⟩ :=
    Classification.ofTables_of_namesItems shape.namesItems_tokens shape.namesItems_productions options
  obtain ⟨reclassified, again, -⟩ :=
    Classification.ofTables_of_namesItems shape.namesItems_tokens shape.namesItems_productions others
  exact ⟨classification, reclassified, classified, again,
    Classification.eq_of_ofTables classified again⟩

end Load

-----------------------------------------------------------------------------------------
-- A grammar in two directories
-----------------------------------------------------------------------------------------

namespace DetachedGrammar

open scoped Standard

open Grammar (Body Rule)

/-- Neither rule can be reached from the other one, and each needs one terminal. -/
def text : String := "start: K_A\nother: K_B\nK_A: \"a\"\nK_B: \"b\"\n"

def literal (text : String) : Body :=
  .choice [.sequence [.literal ⟨.string, text⟩]]

def rule (name terminal : String) : Rule where
  name := name
  parameters := []
  body := some (.choice [.sequence [.symbol (.ofTerminal terminal)]])
  options := {}

def defineRule (name terminal : String) : Grammar.Statement :=
  .define (.rule "" name [] none (.choice [.sequence [.symbol (.ofTerminal terminal)]]))

theorem statements_detached
    : Grammar.Draft.statements text
      = .ok
          [defineRule "start" "K_A", defineRule "other" "K_B",
            .define (.terminal "K_A" none (literal "\"a\"")),
            .define (.terminal "K_B" none (literal "\"b\""))] :=
  rfl

theorem not_asked_detached (request : Grammar.ImportRequest) (name : String)
    : ¬ request.AskedBy name text := by
  rintro ⟨statements, requests, parsed, collected, member⟩
  cases statements_detached.symm.trans parsed
  cases collected
  cases member

/-- The definitions of the text. -/
def draft : Grammar.Draft where
  meanings :=
    ⟨[("start", .rule [] (some (.choice [.sequence [.symbol (.ofTerminal "K_A")]])) {}),
        ("other", .rule [] (some (.choice [.sequence [.symbol (.ofTerminal "K_B")]])) {}),
        ("K_A", .terminal (some 0)), ("K_B", .terminal (some 1))],
      by decide⟩
  cells := [literal "\"a\"", literal "\"b\""]

/-- The grammar that the text defines. -/
def grammar : Grammar where
  terminals := [("K_A", some (literal "\"a\"")), ("K_B", some (literal "\"b\""))]
  rules := [rule "start" "K_A", rule "other" "K_B"]
  ignored := []

def compiled : Compiled where
  terminals := [⟨"K_A", .literal "a" []⟩, ⟨"K_B", .literal "b" []⟩]
  expansions := [⟨"start", [(.terminal, "K_A")], 0⟩, ⟨"other", [(.terminal, "K_B")], 0⟩]
  ignored := []

/-- The grammar beside another file. -/
def besideNotes : FileTree :=
  { Load.treeWith text with
    nodes := (Load.treeWith text).nodes ++ [(["work", "notes"], .file [])] }

/-- The same with another scratch directory. -/
def preparedBesideNotes : FileTree :=
  { besideNotes with nodes := besideNotes.nodes ++ [(["work", "build"], .directory)] }

/-- Options that share nothing with the default ones. -/
def others : Options where
  parser := "earley"
  start := "other"
  productionStart := "st"
  aggregateEnd := "s"
  keywordStart := "K"

theorem prepareScratch_besideNotes
    : prepareScratch besideNotes (Path.ofString "build") = (preparedBesideNotes, .ok ()) :=
  rfl

theorem readGrammar_detached
    : readGrammar (Load.treeWith text) (Path.ofString "g.lark") = .ok text := by
  decide +kernel

theorem readGrammar_besideNotes : readGrammar besideNotes (Path.ofString "g.lark") = .ok text := by
  decide +kernel

theorem read_detached
    : Grammar.read ⟨Load.preparedWith text, (Path.ofString "g.lark").parent.text⟩
        (Path.ofString "g.lark").text text
      = .ok grammar := by
  have closed : draft.link = .ok draft.linked := rfl
  have valid : draft.linked.validate = .ok () := rfl
  rw [Grammar.Draft.read_of_statements statements_detached rfl rfl closed valid]
  rfl

theorem read_besideNotes
    : Grammar.read ⟨preparedBesideNotes, (Path.ofString "g.lark").parent.text⟩
        (Path.ofString "g.lark").text text
      = .ok grammar := by
  have size : (Load.preparedWith text).nodes.length ≤ preparedBesideNotes.nodes.length := by
    decide
  refine Grammar.read_of_findsSame (.of_not_asked fun request => ?_) size read_detached
  exact not_asked_detached request _

theorem compiled_detached : Compiled.ofGrammar grammar = .ok compiled := by
  decide +kernel

theorem loaded_detached
    : (Load.run (Load.treeWith text) (Path.ofString "g.lark") (Path.ofString "scratch") {}).2
      = .ok (grammar.tablesOf compiled) := by
  have checked : Analysis.check {} compiled = .ok () := by decide +kernel
  exact Load.run_treeWith_of_checked readGrammar_detached read_detached compiled_detached checked

theorem loaded_besideNotes
    : (Load.run besideNotes (Path.ofString "g.lark") (Path.ofString "build") others).2
      = .ok (grammar.tablesOf compiled) := by
  have parser : Analysis.checkParser others = .ok () := by decide
  have checked : Analysis.check others compiled = .ok () := by decide +kernel
  have accepted
      : Load.analysed preparedBesideNotes (Path.ofString "g.lark") others text
        = .ok (grammar.tablesOf compiled) :=
    Load.analysed_eq_ok.mpr
      ⟨grammar, compiled, read_besideNotes, parser, compiled_detached, checked, rfl⟩
  rw [Load.run_of_analysed readGrammar_besideNotes prepareScratch_besideNotes accepted]

end DetachedGrammar

open scoped Standard in
/-- Both loads of the grammar succeed, though they start from different rules, and their tables are
the same and hold both rules and both terminals. -/
theorem Load.tables_of_options_detached
    : ∃ tables,
        (run (treeWith DetachedGrammar.text) (Path.ofString "g.lark") (Path.ofString "scratch")
            {}).2
          = .ok tables
        ∧ (run DetachedGrammar.besideNotes (Path.ofString "g.lark") (Path.ofString "build")
            DetachedGrammar.others).2
          = .ok tables
        ∧ tables.Covers DetachedGrammar.grammar DetachedGrammar.text
        ∧ ∃ classification reclassified,
            Classification.ofTables tables {} = .ok classification
            ∧ Classification.ofTables tables DetachedGrammar.others = .ok reclassified
            ∧ classification.keywordTable = reclassified.keywordTable := by
  obtain ⟨-, ⟨grammar, compiled, read, -, covers, -⟩, classification, reclassified, classified,
    again, keywords, -⟩ :=
    tables_of_options DetachedGrammar.readGrammar_detached DetachedGrammar.readGrammar_besideNotes
      (FindsSame.of_not_asked fun request => DetachedGrammar.not_asked_detached request _)
      DetachedGrammar.loaded_detached DetachedGrammar.loaded_besideNotes
  cases DetachedGrammar.read_detached.symm.trans read
  exact ⟨_, DetachedGrammar.loaded_detached, DetachedGrammar.loaded_besideNotes, covers,
    classification, reclassified, classified, again, keywords⟩

end ReservedWords
