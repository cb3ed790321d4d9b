import ReservedWords.Proofs.Grammar.Declared
import ReservedWords.Proofs.Grammar.Edits
import ReservedWords.Proofs.Grammar.Names

/-!
Which terminals are literals. The entry of a terminal with a definition is what the definition comes
to: a literal if that is one string, or nothing at all, and a regular expression otherwise. Neither
the terminals that are made for rules nor the rules themselves have a part in it.
-/

namespace ReservedWords.Grammar

open Text (CodeText)

-----------------------------------------------------------------------------------------
-- The texts of strings
-----------------------------------------------------------------------------------------

/-- What a string stands for: the text between its quotes with the escapes evaluated. What follows
the quotes does not matter. -/
def Literal.Writes (literal : Literal) (image : CodeText) : Prop :=
  literal.kind = .string
  ∧ ∃ value,
      Literal.value (Literal.inner literal.text.toList) = .ok value
      ∧ image = Literal.singleBackslashes value

/-- What stands between the quotes is taken as it is, and the flags behind them are dropped. -/
theorem Literal.inner_quoted {text flags : List Char} (plain : ∀ c ∈ flags, ¬ isQuote c)
    : inner ('"' :: text ++ '"' :: flags) = text := by
  have reversed
      : ('"' :: text ++ '"' :: flags).reverse = flags.reverse ++ ('"' :: text ++ ['"']).reverse := by
    simp
  rw [inner, reversed, List.dropWhile_append_of_pos]
  · simp [isQuote]
  · intro c member
    simpa using plain c (List.mem_reverse.mp member)

theorem Literal.pattern_eq_ok {literal : Literal} {pattern : Pattern}
    (done : literal.pattern = .ok pattern)
    : ∃ value,
        Literal.value (inner literal.text.toList) = .ok value
        ∧ pattern
          = match literal.kind with
            | .string =>
              .literal (singleBackslashes value) (flagSet (flags literal.text.toList))
            | .regexp => .regexp value (flagSet (flags literal.text.toList)) := by
  obtain ⟨kind, text⟩ := literal
  rw [Literal.pattern] at done
  split at done
  · cases done
  · obtain ⟨value, read, done⟩ := bind_eq_ok.mp done
    refine ⟨value, read, ?_⟩
    by_cases empty : value = []
    · simp only [if_pos empty] at done
      cases done
    · simp only [if_neg empty] at done
      cases kind with
      | string | regexp =>
        cases done
        rfl

/-- The pattern of a literal is a text if the literal is a string, and then the one that the string
stands for. -/
theorem Literal.pattern_literal_iff {literal : Literal} {pattern : Pattern}
    (done : literal.pattern = .ok pattern) {image : CodeText}
    : (∃ flags, pattern = .literal image flags) ↔ literal.Writes image := by
  obtain ⟨value, read, same⟩ := pattern_eq_ok done
  rw [same, Writes, read]
  cases literal.kind <;> simp [eq_comm]

-- Both halves of a pair stay as they are written.
example
    : (Literal.mk .string "\"a\\ud83d\\ude00\"i").Writes
        [.char 'a', .surrogate 0x3D, .surrogate 0x600] :=
  ⟨rfl, _, rfl, rfl⟩

namespace Draft

variable {draft : Draft} {body : Body} {image : CodeText}

/-- What a body comes to is a text: that of one string, or the empty one if nothing is left. -/
inductive ComesToText (draft : Draft) (body : Body) (image : CodeText) : Prop
  | string {text : Literal} (comes : draft.ComesTo body (.literal text)) (writes : text.Writes image)
    : ComesToText draft body image
  | nothing (comes : draft.ComesTo body (.sequence [])) (empty : image = "")
    : ComesToText draft body image

theorem literal_iff_comesToText [Installation] {depth : Nat} {pattern : Pattern}
    (done : (draft.closedBody depth body).pattern = .ok (some pattern))
    : (∃ flags, pattern = .literal image flags) ↔ draft.ComesToText body image := by
  have kernel : (draft.closedBody depth body).kernel.pattern = .ok (some pattern) := by
    rw [Body.pattern_kernel, done]
  have of_literal {text : Literal}
      (same : (draft.closedBody depth body).kernel = .literal text)
      : text.pattern = .ok pattern := by
    rw [same] at kernel
    obtain ⟨made, here, kernel⟩ := bind_eq_ok.mp kernel
    cases kernel
    exact here
  have of_nothing (same : (draft.closedBody depth body).kernel = .sequence [])
      : pattern = .literal "" [] := by
    rw [same] at kernel
    cases kernel
    rfl
  constructor
  · rintro ⟨flags, rfl⟩
    have plain := Body.isPlain_kernel _ done
    have comes := (kernel_closedBody_iff done plain).mp rfl
    generalize shape : (draft.closedBody depth body).kernel = core at plain comes
    cases plain with
    | literal text =>
      exact .string comes ((Literal.pattern_literal_iff (of_literal shape)).mp ⟨flags, rfl⟩)
    | nothing =>
      cases of_nothing shape
      exact .nothing comes rfl
  · rintro (⟨comes, writes⟩ | ⟨comes, rfl⟩)
    · have same := (kernel_closedBody_iff done (.literal _)).mpr comes
      exact (Literal.pattern_literal_iff (of_literal same)).mpr writes
    · have same := (kernel_closedBody_iff done .nothing).mpr comes
      exact ⟨[], of_nothing same⟩

end Draft

-----------------------------------------------------------------------------------------
-- The entries of terminals with definitions
-----------------------------------------------------------------------------------------

/-- The entry of a terminal with a pattern. -/
def Pattern.item (name : String) : Pattern → Item
  | .literal value _ => .literal name value
  | .regexp _ _ => .other name regexpKind

section

variable {context : ImportContext} {name text : String} {grammar : Grammar}

/-- All terminals that have the name of a defined one have the pattern of its definition, so they
leave its entry as it is. -/
theorem tokenItem_of_defined [Installation] (read : Grammar.read context name text = .ok grammar)
    {compiled : Compiled} (taken : Compiled.ofGrammar grammar = .ok compiled) {terminal : String}
    {body : Body} (listed : (terminal, some body) ∈ grammar.terminals)
    : ∃ pattern,
        body.pattern = .ok (some pattern)
        ∧ (∀ other ∈ compiled.terminals, other.name = terminal → other.pattern = pattern)
        ∧ tokenItem compiled.terminals terminal = pattern.item terminal := by
  obtain ⟨defined, found, -⟩ := bind_eq_ok.mp taken
  obtain ⟨pattern, made, present⟩ := Terminal.exists_pattern_of_ofGrammar found listed
  have unnumbered : ∀ number : Nat, "__ANON_" ++ toString number ∉ defined.map Terminal.name := by
    intro number used
    obtain ⟨known, member, same⟩ := List.mem_map.mp used
    obtain ⟨_, listed, -⟩ := Terminal.exists_body_of_ofGrammar found member
    exact (ownName_of_mem_terminals read listed).ne_numbered number same
  obtain ⟨added, terminals, others⟩ := Compiled.exists_made_of_ofGrammar found unnumbered taken
  have alike : ∀ other ∈ compiled.terminals, other.name = terminal → other.pattern = pattern := by
    rintro other member rfl
    rcases List.mem_append.mp (terminals ▸ member) with known | new
    · obtain ⟨content, listed', made'⟩ := Terminal.exists_body_of_ofGrammar found known
      have first := (Dictionary.lookup_eq_some_iff_mem (nodup_terminals read)).mpr listed
      have second := (Dictionary.lookup_eq_some_iff_mem (nodup_terminals read)).mpr listed'
      cases first.symm.trans second
      cases made.symm.trans made'
      rfl
    · exact absurd (List.mem_map_of_mem present) (others other new)
  refine ⟨pattern, made, alike, ?_⟩
  have stands : ⟨terminal, pattern⟩ ∈ compiled.terminals :=
    terminals ▸ List.mem_append_left _ present
  rw [tokenItem]
  cases first : compiled.terminals.find? (·.name == terminal) with
  | none => simpa using List.find?_eq_none.mp first _ stands
  | some other =>
    have same : other.name = terminal := by simpa using List.find?_some first
    cases alike other (List.mem_of_find?_eq_some first) same
    obtain ⟨_, content⟩ := other
    cases content <;> rfl

/-- The entry of a terminal with a definition is a literal if and only if the definition comes to a
text, which is its image then, and a regular expression otherwise. It is the same for every text that
differs in its rules only, unless a rule there has the name of the terminal. -/
theorem entry_of_definition [Installation]
    (read : Grammar.read context name text = .ok grammar) {tables : Tables}
    (taken : grammar.tables = .ok tables)
    : ∃ draft,
        definitions context name text = .ok draft
        ∧ ∀ terminal body,
            (terminal, some body) ∈ grammar.terminals
            → ∃ cell,
                draft.meanings.get? terminal = some (.terminal (some cell))
                ∧ (∀ image,
                    tables.tokens.get? terminal = some (some (.literal terminal image))
                    ↔ draft.ComesToText (draft.cell cell) image)
                ∧ ((∀ image, ¬ draft.ComesToText (draft.cell cell) image)
                  → tables.tokens.get? terminal = some (some (.other terminal regexpKind)))
                ∧ ∀ other regrammar retables,
                    EditsRules text other
                    → Grammar.read context name other = .ok regrammar
                    → regrammar.tables = .ok retables
                    → DefinesRule other terminal
                      ∨ retables.tokens.get? terminal = tables.tokens.get? terminal := by
  obtain ⟨draft, defined, -, terminals⟩ := exists_draft_of_read read
  obtain ⟨compiled, compiling, same⟩ := bind_eq_ok.mp taken
  cases same
  refine ⟨draft, defined, fun terminal body listed => ?_⟩
  obtain ⟨cell, means, rfl⟩ := Draft.mem_terminals_linked.mp (terminals ▸ listed)
  obtain ⟨pattern, made, -, entry⟩ := tokenItem_of_defined read compiling listed
  have shown
      : (grammar.tablesOf compiled).tokens.get? terminal = some (some (pattern.item terminal)) := by
    rw [← entry]
    exact get?_tokenTable (nodup_terminals read) listed
  have literal {image : CodeText}
      : pattern.item terminal = .literal terminal image
        ↔ draft.ComesToText (draft.cell cell) image := by
    rw [← Draft.literal_iff_comesToText made]
    cases pattern <;> simp [Pattern.item, eq_comm]
  refine ⟨cell, means, fun image => ?_, fun none => ?_, ?_⟩
  · rw [shown, Option.some_inj, Option.some_inj, literal]
  · rw [shown]
    cases pattern with
    | literal value flags => exact absurd (literal.mp rfl) (none value)
    | regexp source flags => rfl
  · intro other regrammar retables edits reread retaken
    obtain ⟨recompiled, recompiling, same⟩ := bind_eq_ok.mp retaken
    cases same
    refine (defined_alike read reread edits listed).imp_right fun relisted => ?_
    obtain ⟨again, remade, -, reentry⟩ := tokenItem_of_defined reread recompiling relisted
    cases made.symm.trans remade
    rw [shown, ← reentry]
    exact get?_tokenTable (nodup_terminals reread) relisted

end

-----------------------------------------------------------------------------------------
-- A string behind a name and parentheses
-----------------------------------------------------------------------------------------

namespace NestedGrammar

open scoped Standard

def context : ImportContext := ⟨FileTree.initial, ""⟩

def terminals : String := "A: (B)\nB: \"b\"i\nC: \"a\"..\"c\"\n"

def text : String := "start: C\n" ++ terminals

/-- The same terminals with other rules. -/
def other : String := "start: rest\nrest: A\n" ++ terminals

/-- The body in parentheses, whatever stands in them. -/
def group (part : Body) : Body := .choice [.sequence [part]]

def b : Body := group (.literal ⟨.string, "\"b\"i"⟩)

def rule (name : String) (body : Body) : Rule where
  name
  parameters := []
  body := some (group body)
  options := {}

/-- The grammar with some rules. -/
def grammarOf (rules : List Rule) : Grammar where
  terminals :=
    [("A", some (group (group (.included b)))), ("B", some b),
      ("C", some (group (.range "\"a\"" "\"c\"")))]
  rules
  ignored := []

def grammar : Grammar := grammarOf [rule "start" (.symbol (.ofTerminal "C"))]

def edited : Grammar :=
  grammarOf
    [rule "start" (.symbol (.ofRule "rest")), rule "rest" (.symbol (.ofTerminal "A"))]

def defined : List Terminal :=
  [⟨"A", .literal "b" ['i']⟩, ⟨"B", .literal "b" ['i']⟩, ⟨"C", .regexp "[a-c]" []⟩]

theorem compiled_grammar
    : Compiled.ofGrammar grammar
      = .ok ⟨defined, [⟨"start", [(.terminal, "C")], 0⟩], []⟩ := by
  decide +kernel

theorem compiled_edited
    : Compiled.ofGrammar edited
      = .ok
          ⟨defined, [⟨"start", [(.rule, "rest")], 0⟩, ⟨"rest", [(.terminal, "A")], 0⟩], []⟩ := by
  decide +kernel

def defineRule (name : String) (symbol : Symbol) : Statement :=
  .define (.rule "" name [] none (group (.symbol symbol)))

/-- The statements that define the terminals. -/
def shared : List Statement :=
  [.define (.terminal "A" none (group (group (.symbol (.ofTerminal "B"))))),
    .define (.terminal "B" none b),
    .define (.terminal "C" none (group (.range "\"a\"" "\"c\"")))]

theorem statements_text
    : Draft.statements text = .ok (defineRule "start" (.ofTerminal "C") :: shared) :=
  rfl

theorem statements_other
    : Draft.statements other
      = .ok
          (defineRule "start" (.ofRule "rest") :: defineRule "rest" (.ofTerminal "A")
            :: shared) :=
  rfl

theorem edits_text : EditsRules text other :=
  ⟨_, _, statements_text, statements_other, rfl⟩

def cells : List Body :=
  [group (group (.symbol (.ofTerminal "B"))), b, group (.range "\"a\"" "\"c\"")]

/-- The definitions of the text. -/
def draft : Draft where
  meanings :=
    ⟨[("start", .rule [] (some (group (.symbol (.ofTerminal "C")))) {}),
        ("A", .terminal (some 0)), ("B", .terminal (some 1)), ("C", .terminal (some 2))],
      by decide⟩
  cells

/-- The definitions of the other text. -/
def draftOther : Draft where
  meanings :=
    ⟨[("start", .rule [] (some (group (.symbol (.ofRule "rest")))) {}),
        ("rest", .rule [] (some (group (.symbol (.ofTerminal "A")))) {}),
        ("A", .terminal (some 0)), ("B", .terminal (some 1)), ("C", .terminal (some 2))],
      by decide⟩
  cells

theorem definitions_text : definitions context "g.lark" text = .ok draft := by
  rw [definitions, Draft.unlinked_of_statements statements_text rfl]
  rfl

theorem read_text : Grammar.read context "g.lark" text = .ok grammar := by
  have closed : draft.link = .ok draft.linked := rfl
  have valid : draft.linked.validate = .ok () := rfl
  rw [Draft.read_of_statements statements_text rfl rfl closed valid]
  rfl

theorem read_other : Grammar.read context "g.lark" other = .ok edited := by
  have closed : draftOther.link = .ok draftOther.linked := rfl
  have valid : draftOther.linked.validate = .ok () := rfl
  rw [Draft.read_of_statements statements_other rfl rfl closed valid]
  rfl

theorem not_definesRule_a : ¬ DefinesRule other "A" := by
  intro defines
  have spells : SymbolKind.terminal.Spells "A" := ⟨'A', [], .inl rfl, by decide, nofun⟩
  cases SymbolKind.eq_of_spells defines.spells spells

theorem comesToText_a : draft.ComesToText (draft.cell 0) "b" := by
  have string : draft.ComesTo (draft.cell 1) (.literal ⟨.string, "\"b\"i"⟩) := .here
  refine .string (.name rfl rfl rfl string) ⟨rfl, ['b'], ?_, rfl⟩
  decide

theorem not_comesToText_c (image : CodeText) : ¬ draft.ComesToText (draft.cell 2) image := by
  have core {found : Body} (comes : draft.ComesTo (draft.cell 2) found)
      : found = .range "\"a\"" "\"c\"" := by
    cases comes with
    | here => rfl
    | name alone => cases alone
    | reference alone => cases alone
  rintro (⟨comes, -⟩ | ⟨comes, -⟩)
  · cases core comes
  · cases core comes

end NestedGrammar

open NestedGrammar Standard in
/-- A terminal that comes to a string in parentheses and behind a name has it for its entry, a range
is a regular expression, and other rules change nothing. -/
theorem entry_of_definition_nested
    : Grammar.read context "g.lark" NestedGrammar.text = .ok grammar
      ∧ ∃ tables retables,
          grammar.tables = .ok tables
          ∧ edited.tables = .ok retables
          ∧ tables.tokens.get? "A" = some (some (.literal "A" "b"))
          ∧ tables.tokens.get? "C" = some (some (.other "C" regexpKind))
          ∧ retables.tokens.get? "A" = tables.tokens.get? "A" := by
  have taken : grammar.tables = .ok _ := bind_eq_ok.mpr ⟨_, compiled_grammar, rfl⟩
  have retaken : edited.tables = .ok _ := bind_eq_ok.mpr ⟨_, compiled_edited, rfl⟩
  obtain ⟨defined, same, entries⟩ := entry_of_definition read_text taken
  cases definitions_text.symm.trans same
  refine ⟨read_text, _, _, taken, retaken, ?_, ?_, ?_⟩
  · obtain ⟨cell, means, literal, -⟩ := entries "A" _ List.mem_cons_self
    cases means
    exact (literal "b").mpr comesToText_a
  · obtain ⟨cell, means, -, other, -⟩ :=
      entries "C" _ (List.mem_cons_of_mem _ (List.mem_cons_of_mem _ List.mem_cons_self))
    cases means
    exact other not_comesToText_c
  · obtain ⟨-, -, -, -, unchanged⟩ := entries "A" _ List.mem_cons_self
    exact (unchanged _ _ _ edits_text read_other retaken).resolve_left not_definesRule_a

-----------------------------------------------------------------------------------------
-- Parentheses around nothing
-----------------------------------------------------------------------------------------

namespace HollowGrammar

open scoped Standard

def text : String := "start: \"x\"\nA: ()\n"

def context : ImportContext :=
  ⟨Load.preparedWith text, (Path.ofString "g.lark").parent.text⟩

def hollow : Body := .choice [.sequence [.choice [.sequence []]]]

def start : Body := .choice [.sequence [.literal ⟨.string, "\"x\""⟩]]

def grammar : Grammar where
  terminals := [("A", some hollow)]
  rules := [⟨"start", [], some start, {}⟩]
  ignored := []

def compiled : Compiled where
  terminals := [⟨"A", .literal "" []⟩, ⟨"X", .literal "x" []⟩]
  expansions := [⟨"start", [(.terminal, "X")], 0⟩]
  ignored := []

/-- The definitions of the text. -/
def draft : Draft where
  meanings :=
    ⟨[("start", .rule [] (some start) {}), ("A", .terminal (some 0))], by decide⟩
  cells := [hollow]

theorem statements_text
    : Draft.statements text
      = .ok [.define (.rule "" "start" [] none start), .define (.terminal "A" none hollow)] :=
  rfl

theorem definitions_text : definitions context (Path.ofString "g.lark").text text = .ok draft := by
  rw [definitions, Draft.unlinked_of_statements statements_text rfl]
  rfl

theorem read_text : Grammar.read context (Path.ofString "g.lark").text text = .ok grammar := by
  have closed : draft.link = .ok draft.linked := rfl
  have valid : draft.linked.validate = .ok () := rfl
  rw [Draft.read_of_statements statements_text rfl rfl closed valid]
  rfl

theorem compiled_grammar : Compiled.ofGrammar grammar = .ok compiled := by
  decide +kernel

theorem loaded_tables
    : (Load.run (Load.treeWith text) (Path.ofString "g.lark") (Path.ofString "scratch") {}).2
      = .ok (grammar.tablesOf compiled) := by
  have readable : readGrammar (Load.treeWith text) (Path.ofString "g.lark") = .ok text := by
    decide +kernel
  have checked : Analysis.check {} compiled = .ok () := by decide +kernel
  exact Load.run_treeWith_of_checked readable read_text compiled_grammar checked

end HollowGrammar

open HollowGrammar Standard in
/-- A load gives a terminal as a literal although its definition comes to no string. -/
theorem literal_of_nothing
    : (Load.run (Load.treeWith HollowGrammar.text) (Path.ofString "g.lark")
            (Path.ofString "scratch") {}).2
        = .ok (grammar.tablesOf compiled)
      ∧ (grammar.tablesOf compiled).tokens.get? "A" = some (some (.literal "A" ""))
      ∧ definitions context (Path.ofString "g.lark").text HollowGrammar.text = .ok draft
      ∧ draft.meanings.get? "A" = some (.terminal (some 0))
      ∧ ∀ text, ¬ draft.ComesTo (draft.cell 0) (.literal text) := by
  refine ⟨loaded_tables, rfl, definitions_text, rfl, fun text comes => ?_⟩
  -- Without its parentheses the definition is an empty sequence.
  generalize found : Body.literal text = core at comes
  cases comes with
  | here => cases found
  | name alone => cases alone
  | reference alone => cases alone

end ReservedWords.Grammar
