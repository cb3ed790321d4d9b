import ReservedWords.Grammar.Expansion

/-!
The two tables of a grammar: the named terminals, each a literal if it is one string and something else
otherwise, and the rules with their tokens, both in the order of definition.
-/

namespace ReservedWords.Grammar

variable [Installation]

/-- The word for a terminal without a pattern. -/
def declaredKind : String := "declared"

/-- The word for a terminal whose pattern is a regular expression. -/
def regexpKind : String := "PatternRE"

/-- The table entry of a name: the terminal that has it, if one has a pattern. -/
def tokenItem (terminals : List Terminal) (name : String) : Item :=
  match terminals.find? (·.name == name) with
  | none => .other name declaredKind
  | some ⟨_, .literal value _⟩ => .literal name value
  | some ⟨_, .regexp _ _⟩ => .other name regexpKind

/-- The token table of a grammar. -/
def tokenTable (grammar : Grammar) (compiled : Compiled) : Dictionary Entry :=
  Dictionary.ofList (grammar.terminals.map fun (name, _) =>
    (name, some (tokenItem compiled.terminals name)))

/-- The tables of a grammar that has been taken apart. -/
def tablesOf (grammar : Grammar) (compiled : Compiled) : Tables where
  tokens := grammar.tokenTable compiled
  productions := ReservedWords.Definition.productionTable grammar.ruleDefinitions

/-- The tables of a grammar, unless it is rejected on the way. -/
def tables (grammar : Grammar) : Except Failure Tables := do
  return grammar.tablesOf (← Compiled.ofGrammar grammar)

end ReservedWords.Grammar
