import ReservedWords.Proofs.Classification.Acceptance
import ReservedWords.Proofs.Grammar.Drafts
import ReservedWords.Proofs.Grammar.Loading

/-!
What loaded tables look like. Every entry is an item under its own name; a token entry is a literal
or something else, a production is framed by its header and the sentinel, and neither of them stands
inside. This is all that a classification needs, so loaded tables always have one.
-/

namespace ReservedWords

/-- A token that can stand inside a production: it neither opens nor closes one. -/
def Token.IsInner (token : Token) : Prop :=
  token.kind ≠ headerKind ∧ token.kind ≠ endKind

/-- The shape of the tables of a grammar: an entry of the token table is a literal or something
else, and an entry of the production table is something else or a production whose tokens are its
header, the tokens of its body, and the sentinel. Each has the name that it stands under. -/
structure Tables.Represented (tables : Tables) : Prop where
  token
    : ∀ name entry,
        (name, entry) ∈ tables.tokens.entries
        → (∃ image, entry = some (.literal name image)) ∨ ∃ kind, entry = some (.other name kind)
  production
    : ∀ name entry,
        (name, entry) ∈ tables.productions.entries
        → (∃ kind, entry = some (.other name kind))
          ∨ ∃ body : List Token,
              entry = some (.production ⟨name, Token.header name :: body ++ [Token.sentinel]⟩)
              ∧ ∀ token ∈ body, token.IsInner

theorem Tables.Represented.namesItems_tokens {tables : Tables} (shape : tables.Represented)
    : tables.tokens.NamesItems := by
  rintro ⟨name, entry⟩ member
  rcases shape.token name entry member with ⟨image, rfl⟩ | ⟨kind, rfl⟩
  · exact ⟨_, rfl, rfl⟩
  · exact ⟨_, rfl, rfl⟩

theorem Tables.Represented.namesItems_productions {tables : Tables} (shape : tables.Represented)
    : tables.productions.NamesItems := by
  rintro ⟨name, entry⟩ member
  rcases shape.production name entry member with ⟨kind, rfl⟩ | ⟨body, rfl, -⟩
  · exact ⟨_, rfl, rfl⟩
  · exact ⟨_, rfl, rfl⟩

-----------------------------------------------------------------------------------------
-- The tokens of a body
-----------------------------------------------------------------------------------------

namespace Definition

open Grammar (Body)

/-- A leaf whose token, if it has one, can stand inside a production. -/
def Leaf.IsInner (leaf : Leaf) : Prop :=
  ∀ token, leaf.token? = some token → token.IsInner

@[simp]
theorem Leaf.isInner_token_iff {kind text : String}
    : (Leaf.token kind text).IsInner ↔ kind ≠ "RULE_NAME" ∧ kind ≠ "END" := by
  simp [IsInner, token?, Token.IsInner, Token.headerKind, Token.endKind]

@[simp]
theorem Leaf.isInner_symbol (symbol : Grammar.Symbol) : symbol.leaf.IsInner := by
  intro token made
  cases kind : symbol.kind <;> simp only [Grammar.Symbol.leaf, kind] at made <;> cases made <;>
    simp [Token.IsInner, Token.headerKind, Token.endKind]

mutual

/-- No leaf of a body's tree opens or closes a production, by mutual induction on the body: the
leaves are symbols, literals, signs of repetition and numbers. -/
theorem Tree.isInner_of_mem_tree (body : Body) : ∀ leaf ∈ body.tree.leaves, leaf.IsInner := by
  cases body with
  | symbol name => simp [Body.tree, leaves, leavesOf]
  | literal text =>
    cases kind : text.kind <;> simp [Body.tree, Body.literalToken, kind, leaves, leavesOf]
  | range first last => simp [Body.tree, leaves, leavesOf]
  | use template arguments =>
    simpa [Body.tree, leaves, leavesOf] using isInner_of_mem_trees arguments
  | reference cell => simp [Body.tree, leaves, leavesOf]
  | included body | bracket body =>
    simpa [Body.tree, leaves, leavesOf] using isInner_of_mem_tree body
  | sequence parts | choice parts => exact isInner_of_mem_trees parts
  | named body label =>
    simpa [Body.tree, leaves, leavesOf, or_imp, forall_and] using isInner_of_mem_tree body
  | repeated body sign =>
    simpa [Body.tree, leaves, leavesOf, or_imp, forall_and] using isInner_of_mem_tree body
  | counted body low high =>
    have inner := isInner_of_mem_tree body
    cases high <;> simpa [Body.tree, leaves, leavesOf, or_imp, forall_and] using inner

/-- The same for the trees of some bodies. -/
theorem Tree.isInner_of_mem_trees (bodies : List Body)
    : ∀ leaf ∈ leavesOf (Body.trees bodies), leaf.IsInner := by
  cases bodies with
  | nil => simp [Body.trees, leavesOf]
  | cons body rest =>
    have here := isInner_of_mem_tree body
    have later := isInner_of_mem_trees rest
    simp only [Body.trees, leavesOf, List.mem_append]
    rintro leaf (member | member)
    · exact here leaf member
    · exact later leaf member

end

/-- The entry of a rule has its name: it is something else or a production with the tokens of the
definition, which is then no leaf. -/
theorem Rule.item_cases (rule : Rule)
    : (∃ kind, rule.item = .other rule.name kind)
      ∨ (∀ leaf, rule.tree ≠ .leaf leaf)
        ∧ rule.item
          = .production
              ⟨rule.name, Token.header rule.name :: rule.tree.tokens ++ [Token.sentinel]⟩ := by
  by_cases template : rule.parameters ≠ []
  · exact .inl ⟨_, by rw [item, if_pos template]⟩
  · rw [item, if_neg template]
    cases tree : rule.tree with
    | leaf value => exact .inl ⟨_, rfl⟩
    | node label children => exact .inr ⟨nofun, rfl⟩

theorem Tree.isInner_of_mem_tokens (body : Body) : ∀ token ∈ body.tree.tokens, token.IsInner := by
  intro token member
  obtain ⟨leaf, inside, made⟩ := List.mem_filterMap.mp member
  exact isInner_of_mem_tree body leaf inside token made

end Definition

-----------------------------------------------------------------------------------------
-- The tables of a grammar
-----------------------------------------------------------------------------------------

namespace Grammar

/-- The entry of a name in the token table has that name, and is a literal or something else. -/
theorem tokenItem_cases (terminals : List Terminal) (name : String)
    : (∃ image, tokenItem terminals name = .literal name image)
      ∨ ∃ kind, tokenItem terminals name = .other name kind := by
  rw [tokenItem]
  split
  · exact .inr ⟨_, rfl⟩
  · exact .inl ⟨_, rfl⟩
  · exact .inr ⟨_, rfl⟩

/-- A rule of a grammar is defined by the tree of its body; one that is only declared has a leaf. -/
theorem mem_ruleDefinitions {grammar : Grammar} {rule : ReservedWords.Definition.Rule}
    (member : rule ∈ grammar.ruleDefinitions)
    : (∃ leaf, rule.tree = .leaf leaf) ∨ ∃ body : Body, rule.tree = body.tree := by
  obtain ⟨source, -, rfl⟩ := List.mem_map.mp member
  cases source.body with
  | none => exact .inl ⟨_, rfl⟩
  | some body => exact .inr ⟨body, rfl⟩

/-- The tables of every grammar have their shape, since each entry is made for its name. -/
theorem represented_tablesOf (grammar : Grammar) (compiled : Compiled)
    : (grammar.tablesOf compiled).Represented := by
  refine { token := ?_, production := ?_ }
  · intro name entry member
    obtain ⟨⟨source, body⟩, -, same⟩ := List.mem_map.mp (Dictionary.mem_of_mem_ofList member)
    cases same
    rcases tokenItem_cases compiled.terminals name with ⟨image, item⟩ | ⟨kind, item⟩
    · exact .inl ⟨image, congrArg some item⟩
    · exact .inr ⟨kind, congrArg some item⟩
  · intro name entry member
    obtain ⟨rule, defined, same⟩ := List.mem_map.mp (Dictionary.mem_of_mem_ofList member)
    cases same
    rcases rule.item_cases with ⟨kind, item⟩ | ⟨node, item⟩
    · exact .inl ⟨kind, congrArg some item⟩
    · refine .inr ⟨rule.tree.tokens, congrArg some item, ?_⟩
      rcases mem_ruleDefinitions defined with ⟨leaf, tree⟩ | ⟨body, tree⟩
      · exact absurd tree (node leaf)
      · exact tree ▸ Definition.Tree.isInner_of_mem_tokens body

end Grammar

theorem Tables.Loaded.represented [Installation] {tables : Tables} (loaded : tables.Loaded)
    : tables.Represented := by
  obtain ⟨context, name, text, grammar, compiled, -, -, rfl⟩ := loaded.origin
  exact grammar.represented_tablesOf compiled

/-- Loaded tables have their shape, and with it a classification under all options, be they those of
the load or not: its keywords are the literals of the token table that start with a letter, under
their own names. -/
theorem Tables.Loaded.represented_and_classified [Installation]
    {tables : Tables} (loaded : tables.Loaded)
    : tables.Represented
      ∧ ∀ options,
          ∃ classification,
            Classification.ofTables tables options = .ok classification
            ∧ ∀ label image,
                (⟨label, image⟩ : Keyword) ∈ classification.keywords
                ↔ tables.tokens.get? label = some (some (.literal label image))
                  ∧ ∃ first rest, image = .char first :: rest ∧ Text.isAlphabetic first := by
  have shape := loaded.represented
  refine ⟨shape, fun options => ?_⟩
  obtain ⟨classification, classified, keywords⟩ :=
    Classification.ofTables_of_namesItems shape.namesItems_tokens shape.namesItems_productions
      options
  refine ⟨classification, classified, fun label image => ?_⟩
  rw [keywords, Keyword.isWord_iff]

-----------------------------------------------------------------------------------------
-- A grammar with a keyword, a string in a rule and a declared terminal
-----------------------------------------------------------------------------------------

namespace SmallGrammar

open scoped Standard

def text : String := "start: \"go\" NAME\nK_A: \"a\"\n%declare NAME\n"

/-- The grammar that the text defines. -/
def grammar : Grammar where
  terminals :=
    [("K_A", some (.choice [.sequence [.literal ⟨.string, "\"a\""⟩]])), ("NAME", none)]
  rules :=
    [{ name := "start"
       parameters := []
       body :=
        some
          (.choice
            [.sequence [.literal ⟨.string, "\"go\""⟩, .symbol (.ofTerminal "NAME")]])
       options := {} }]
  ignored := []

/-- The string gets a terminal of its own, the declared terminal has none. -/
def compiled : Grammar.Compiled where
  terminals := [⟨"K_A", .literal "a" []⟩, ⟨"GO", .literal "go" []⟩]
  expansions := [⟨"start", [(.terminal, "GO"), (.terminal, "NAME")], 0⟩]
  ignored := []

def start : Grammar.Body :=
  .choice [.sequence [.literal ⟨.string, "\"go\""⟩, .symbol (.ofTerminal "NAME")]]

def literal : Grammar.Body :=
  .choice [.sequence [.literal ⟨.string, "\"a\""⟩]]

theorem statements_text
    : Grammar.Draft.statements text
      = .ok
          [.define (.rule "" "start" [] none start), .define (.terminal "K_A" none literal),
            .declare [.ofTerminal "NAME"]] :=
  rfl

/-- The definitions of the text. -/
def draft : Grammar.Draft where
  meanings :=
    ⟨[("start", .rule [] (some start) {}), ("K_A", .terminal (some 0)),
        ("NAME", .terminal none)],
      by decide⟩
  cells := [literal]

theorem read_text
    : Grammar.read ⟨Load.preparedWith text, (Path.ofString "g.lark").parent.text⟩
        (Path.ofString "g.lark").text text
      = .ok grammar := by
  have closed : draft.link = .ok draft.linked := rfl
  have valid : draft.linked.validate = .ok () := rfl
  rw [Grammar.Draft.read_of_statements statements_text rfl rfl closed valid]
  rfl

theorem compiled_grammar : Grammar.Compiled.ofGrammar grammar = .ok compiled := by
  decide +kernel

theorem loaded_tables
    : (Load.run (Load.treeWith text) (Path.ofString "g.lark") (Path.ofString "scratch") {}).2
      = .ok (grammar.tablesOf compiled) := by
  have readable : readGrammar (Load.treeWith text) (Path.ofString "g.lark") = .ok text := by
    decide +kernel
  have checked : Analysis.check {} compiled = .ok () := by decide +kernel
  exact Load.run_treeWith_of_checked readable read_text compiled_grammar checked

end SmallGrammar

open scoped Standard in
/-- The tables of the small grammar have a classification under options that are not those of its
load, and its only keyword is the named literal. -/
theorem Tables.Loaded.represented_and_classified_small
    : (SmallGrammar.grammar.tablesOf SmallGrammar.compiled).Loaded
      ∧ (SmallGrammar.grammar.tablesOf SmallGrammar.compiled).Represented
      ∧ ∃ classification,
          Classification.ofTables (SmallGrammar.grammar.tablesOf SmallGrammar.compiled)
            { keywordStart := "" }
          = .ok classification
          ∧ (⟨"K_A", "a"⟩ : Keyword) ∈ classification.keywords
          ∧ ∀ image, (⟨"NAME", image⟩ : Keyword) ∉ classification.keywords := by
  have loaded : (SmallGrammar.grammar.tablesOf SmallGrammar.compiled).Loaded :=
    .analysed SmallGrammar.loaded_tables
  obtain ⟨shape, classified⟩ := Tables.Loaded.represented_and_classified loaded
  obtain ⟨classification, done, keywords⟩ := classified { keywordStart := "" }
  refine ⟨loaded, shape, classification, done, ?_, ?_⟩
  · exact (keywords "K_A" "a").mpr ⟨rfl, 'a', [], rfl, by decide⟩
  · intro image member
    cases ((keywords "NAME" image).mp member).1

end ReservedWords
