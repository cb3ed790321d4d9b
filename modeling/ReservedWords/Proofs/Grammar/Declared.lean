import ReservedWords.Proofs.Classification.Completeness
import ReservedWords.Proofs.Grammar.Drafts
import ReservedWords.Proofs.Grammar.Naming
import ReservedWords.Proofs.Grammar.Representation

/-!
Declared terminals. A terminal without a definition is shown as such unless a string in a rule
suggests its name: the terminal that is made for the string then has the name, and the entry is the
string. A string of a rule that is no template always does this, unless a terminal is defined by
it.
-/

namespace ReservedWords

/-- What tables of a grammar show as something else than a literal is no keyword, and not
restricted. -/
theorem Tables.Represented.no_keyword_of_other {tables : Tables} (shape : tables.Represented)
    {name kind : String} (entry : tables.tokens.get? name = some (some (.other name kind)))
    {options : Options} {classification : Classification}
    (classified : Classification.ofTables tables options = .ok classification)
    : classification.imageForLabel name = none ∧ name ∉ classification.restrictedKeywords := by
  have labelled := Keyword.labelled_collect (Classification.ofTables_ok classified).1
  have unlabelled : name ∉ classification.keywords.map Keyword.label := by
    intro known
    obtain ⟨image, member, -⟩ := (Classification.mem_labels_of_classified classified).mp known
    obtain ⟨⟨key, value⟩, member, same⟩ := List.mem_map.mp member
    cases same
    rcases shape.token key _ member with ⟨text, literal⟩ | ⟨other, absurd⟩
    · cases literal
      cases entry.symm.trans (Dictionary.get?_eq_some_iff.mpr member)
    · cases absurd
  refine ⟨(Classification.imageForLabel_eq_none_iff labelled).mpr unlabelled, fun restricted => ?_⟩
  rw [Classification.map_label_keywords labelled] at unlabelled
  exact unlabelled (Classification.mem_restrictedKeywords.mp restricted).1

namespace Grammar

open Terminal (suggestion?)

section

variable {context : ImportContext} {name text : String} {grammar : Grammar} {compiled : Compiled}

theorem get?_tokenTable (distinct : (grammar.terminals.map Prod.fst).Nodup) {terminal : String}
    {body : Option Body} (listed : (terminal, body) ∈ grammar.terminals)
    : (grammar.tokenTable compiled).get? terminal
      = some (some (tokenItem compiled.terminals terminal)) := by
  have keys
      : (grammar.terminals.map fun entry =>
            (entry.1, some (tokenItem compiled.terminals entry.1))).map Prod.fst
        = grammar.terminals.map Prod.fst := by
    simp [Function.comp_def]
  have entries
      : (grammar.tokenTable compiled).entries
        = grammar.terminals.map fun entry =>
            (entry.1, some (tokenItem compiled.terminals entry.1)) :=
    Dictionary.entries_ofList (keys ▸ distinct)
  rw [Dictionary.get?_eq_some_iff, entries]
  exact List.mem_map.mpr ⟨_, listed, rfl⟩

/-- A terminal that has the name of a declared one is made for a string that suggests the name: it
is not a defined one, and the name is not reserved. -/
theorem suggested_of_declared [Installation] (read : Grammar.read context name text = .ok grammar)
    {defined : List Terminal} (found : Terminal.ofGrammar grammar = .ok defined)
    {terminal : Terminal} (declared : (terminal.name, none) ∈ grammar.terminals)
    (origin : terminal ∈ defined ∨ terminal.Anonymous grammar.Shows)
    : ∃ value flags,
        terminal.pattern = .literal value flags
        ∧ grammar.Shows (.literal value flags)
        ∧ suggestion? (.literal value flags) = some terminal.name := by
  rcases origin with known | made
  · obtain ⟨body, listed, -⟩ := Terminal.exists_body_of_ofGrammar found known
    have first := (Dictionary.lookup_eq_some_iff_mem (nodup_terminals read)).mpr declared
    have second := (Dictionary.lookup_eq_some_iff_mem (nodup_terminals read)).mpr listed
    cases first.symm.trans second
  · rcases made.name with suggests | reserved
    · have shown := made.shown
      cases pattern : terminal.pattern with
      | literal value flags =>
        rw [pattern] at suggests shown
        exact ⟨value, flags, rfl, shown, suggests⟩
      | regexp source flags =>
        rw [pattern] at suggests
        cases suggests
    · exact absurd reserved (not_isReserved_of_declared read declared)

/-- The entry of a declared terminal in the tables of a grammar: it has no definition, and then it
is no keyword and not restricted under any options, or it is a string of a rule that suggests its
name. It is a string whenever such a string stands in a rule that is no template and no terminal is
defined by it. -/
theorem declared_unless_suggested [Installation]
    (read : Grammar.read context name text = .ok grammar)
    {tables : Tables} (taken : grammar.tables = .ok tables) {terminal : String}
    (declared : (terminal, none) ∈ grammar.terminals)
    : ((tables.tokens.get? terminal = some (some (.other terminal declaredKind))
          ∧ ∀ options classification,
              Classification.ofTables tables options = .ok classification
              → classification.imageForLabel terminal = none
                ∧ terminal ∉ classification.restrictedKeywords)
        ∨ ∃ value flags,
            grammar.Shows (.literal value flags)
            ∧ suggestion? (.literal value flags) = some terminal
            ∧ tables.tokens.get? terminal = some (some (.literal terminal value)))
      ∧ ∀ rule ∈ grammar.rules,
          rule.parameters = []
          → ∀ pattern,
              rule.Shows pattern
              → suggestion? pattern = some terminal
              → (∀ defined,
                  Terminal.ofGrammar grammar = .ok defined
                  → ∀ known ∈ defined, known.pattern ≠ pattern)
              → ∃ value, tables.tokens.get? terminal = some (some (.literal terminal value)) := by
  obtain ⟨compiled, compiling, same⟩ := bind_eq_ok.mp taken
  cases same
  obtain ⟨defined, found, origin, named⟩ := Compiled.terminals_of_ofGrammar compiling
  have entry
      : (grammar.tablesOf compiled).tokens.get? terminal
        = some (some (tokenItem compiled.terminals terminal)) :=
    get?_tokenTable (nodup_terminals read) declared
  have suggested
      : ∀ known ∈ compiled.terminals,
          known.name = terminal
          → ∃ value flags,
              known.pattern = .literal value flags
              ∧ grammar.Shows (.literal value flags)
              ∧ suggestion? (.literal value flags) = some terminal := by
    rintro known member rfl
    exact suggested_of_declared read found declared (origin known member)
  rw [entry, tokenItem]
  -- The entry is made for the first terminal with the name, so the cases are whether there is one.
  cases first : compiled.terminals.find? (·.name == terminal) with
  | none =>
    have absent : ∀ known ∈ compiled.terminals, known.name ≠ terminal := by
      simpa using List.find?_eq_none.mp first
    have shown : tokenItem compiled.terminals terminal = .other terminal declaredKind := by
      rw [tokenItem, first]
    refine ⟨.inl ⟨rfl, fun options classification classified => ?_⟩, ?_⟩
    · exact (grammar.represented_tablesOf compiled).no_keyword_of_other (shown ▸ entry) classified
    · intro rule member plain pattern shows suggests other
      obtain ⟨known, present, same⟩ :=
        named rule member plain pattern shows (other defined found) terminal suggests
      exact absurd same (absent known present)
  | some known =>
    have same : known.name = terminal := by simpa using List.find?_some first
    have member := List.mem_of_find?_eq_some first
    obtain ⟨value, flags, pattern, shown, suggests⟩ := suggested known member same
    obtain ⟨_, _⟩ := known
    cases pattern
    exact ⟨.inr ⟨value, flags, shown, suggests, rfl⟩, fun _ _ _ _ _ _ _ => ⟨value, rfl⟩⟩

end

-----------------------------------------------------------------------------------------
-- A string that suggests the name of a declared terminal
-----------------------------------------------------------------------------------------

namespace MagicGrammar

open scoped Standard

def text : String := "start: \"magic\"\n%declare MAGIC\n"

def start : Rule where
  name := "start"
  parameters := []
  body := some (.choice [.sequence [.literal ⟨.string, "\"magic\""⟩]])
  options := {}

/-- The grammar that the text defines. -/
def grammar : Grammar where
  terminals := [("MAGIC", none)]
  rules := [start]
  ignored := []

/-- The terminal that is made for the string has the declared name. -/
def compiled : Compiled where
  terminals := [⟨"MAGIC", .literal "magic" []⟩]
  expansions := [⟨"start", [(.terminal, "MAGIC")], 0⟩]
  ignored := []

def body : Body := .choice [.sequence [.literal ⟨.string, "\"magic\""⟩]]

theorem statements_magic
    : Draft.statements text
      = .ok [.define (.rule "" "start" [] none body), .declare [.ofTerminal "MAGIC"]] :=
  rfl

/-- The definitions of the text. -/
def draft : Draft where
  meanings := ⟨[("start", .rule [] (some body) {}), ("MAGIC", .terminal none)], by decide⟩

theorem read_magic
    : Grammar.read ⟨Load.preparedWith text, (Path.ofString "g.lark").parent.text⟩
        (Path.ofString "g.lark").text text
      = .ok grammar := by
  have closed : draft.link = .ok draft.linked := rfl
  have valid : draft.linked.validate = .ok () := rfl
  rw [Draft.read_of_statements statements_magic rfl rfl closed valid]
  rfl

theorem compiled_magic : Compiled.ofGrammar grammar = .ok compiled := by
  decide +kernel

theorem loaded_magic
    : (Load.run (Load.treeWith text) (Path.ofString "g.lark") (Path.ofString "scratch") {}).2
      = .ok (grammar.tablesOf compiled) := by
  have readable : readGrammar (Load.treeWith text) (Path.ofString "g.lark") = .ok text := by
    decide +kernel
  have checked : Analysis.check {} compiled = .ok () := by decide +kernel
  exact Load.run_treeWith_of_checked readable read_magic compiled_magic checked

theorem shows_magic : start.Shows (.literal "magic" []) := by
  have patterns
      : (Body.choice [.sequence [.literal ⟨.string, "\"magic\""⟩]]).literalPatterns
        = .ok [.literal "magic" []] :=
    rfl
  exact ⟨_, rfl, (Body.mem_literalPatterns patterns).mp List.mem_cons_self⟩

end MagicGrammar

/-- The only string of the small grammar's rule. -/
theorem eq_go_of_shows {pattern : Pattern} (shown : SmallGrammar.grammar.Shows pattern)
    : pattern = .literal "go" [] := by
  obtain ⟨rule, member, body, content, shown⟩ := shown
  cases List.mem_singleton.mp member
  cases content
  have patterns
      : (Body.choice
            [.sequence
              [.literal ⟨.string, "\"go\""⟩, .symbol (.ofTerminal "NAME")]]).literalPatterns
        = .ok [.literal "go" []] :=
    rfl
  exact List.mem_singleton.mp ((Body.mem_literalPatterns patterns).mpr shown)

open scoped Standard in
/-- The declared terminal of the small grammar has no definition, since no string suggests its name;
that of the other grammar is a string, since its rule shows one that does. -/
theorem declared_unless_suggested_both
    : (SmallGrammar.grammar.tablesOf SmallGrammar.compiled).tokens.get? "NAME"
        = some (some (.other "NAME" declaredKind))
      ∧ ∃ value,
          (MagicGrammar.grammar.tablesOf MagicGrammar.compiled).tokens.get? "MAGIC"
            = some (some (.literal "MAGIC" value)) := by
  constructor
  · have taken : SmallGrammar.grammar.tables = .ok _ :=
      bind_eq_ok.mpr ⟨_, SmallGrammar.compiled_grammar, rfl⟩
    have declared : ("NAME", none) ∈ SmallGrammar.grammar.terminals :=
      List.mem_cons_of_mem _ List.mem_cons_self
    rcases (declared_unless_suggested SmallGrammar.read_text taken declared).1 with
      ⟨entry, -⟩ | ⟨value, flags, shown, suggests, -⟩
    · exact entry
    · cases eq_go_of_shows shown
      exact absurd suggests (by decide)
  · have taken : MagicGrammar.grammar.tables = .ok _ :=
      bind_eq_ok.mpr ⟨_, MagicGrammar.compiled_magic, rfl⟩
    have declared : ("MAGIC", none) ∈ MagicGrammar.grammar.terminals := List.mem_cons_self
    refine (declared_unless_suggested MagicGrammar.read_magic taken declared).2
      MagicGrammar.start List.mem_cons_self rfl _ MagicGrammar.shows_magic (by decide) ?_
    intro defined found known member
    cases found
    cases member

open scoped Standard in
/-- A load gives a declared terminal as a string, which makes it a keyword, and a restricted one. -/
theorem restricted_of_declared_magic
    : Grammar.read
          ⟨Load.preparedWith MagicGrammar.text, (Path.ofString "g.lark").parent.text⟩
          (Path.ofString "g.lark").text MagicGrammar.text
        = .ok MagicGrammar.grammar
      ∧ ("MAGIC", none) ∈ MagicGrammar.grammar.terminals
      ∧ (Load.run (Load.treeWith MagicGrammar.text) (Path.ofString "g.lark")
            (Path.ofString "scratch") {}).2
        = .ok (MagicGrammar.grammar.tablesOf MagicGrammar.compiled)
      ∧ (MagicGrammar.grammar.tablesOf MagicGrammar.compiled).tokens.get? "MAGIC"
        = some (some (.literal "MAGIC" "magic"))
      ∧ ∃ classification,
          Classification.ofTables (MagicGrammar.grammar.tablesOf MagicGrammar.compiled) {}
            = .ok classification
          ∧ classification.imageForLabel "MAGIC" = some "magic"
          ∧ "MAGIC" ∈ classification.restrictedKeywords := by
  refine ⟨MagicGrammar.read_magic, List.mem_cons_self, MagicGrammar.loaded_magic, rfl, ?_⟩
  refine ⟨_, rfl, rfl, ?_⟩
  refine Classification.mem_restrictedKeywords.mpr ⟨Classification.mem_labels.mpr (by decide), ?_⟩
  rintro ⟨bucket, member, -⟩
  cases member

end Grammar

end ReservedWords
