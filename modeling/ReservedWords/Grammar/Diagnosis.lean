import ReservedWords.Grammar.Lexeme
import ReservedWords.Lalr.Table

/-!
Diagnosis of syntax errors: whether the mistake in a grammar text is one that can be explained. The
notation is given here as plain rules, and a parser for it is run up to the lexeme that is out of place.
A mistake is known if the parser then stands as it does at the mistake of an example, or if a literal
would have been possible.
-/

namespace ReservedWords.Grammar.Diagnosis

/-- The constructs of the notation. -/
inductive Construct where
  | text
  | items
  | item
  | rule
  | modifiers
  | priority
  | templateParameters
  | templateNames
  | expansions
  | alternatives
  | labelled
  | expansion
  | expressions
  | expression
  | atom
  | value
  | terminal
  | nonterminal
  | name
  | symbol
  | maybe
  | range
  | templateUse
  | templateArguments
  | term
  | overriding
  | extending
  | ignoring
  | declaration
  | importing
  | importPath
  | libraryPath
  | relativePath
  | pathNames
  | nameList
  | names
  | declared
  | literal
  | finish
  deriving DecidableEq, Repr

/-- A lexeme in a rule. -/
def t (kind : LexemeKind) : Lalr.Symbol := .terminal kind.ctorIdx

/-- A construct in a rule. -/
def c (construct : Construct) : Lalr.Symbol := .rule construct.ctorIdx

/-- The rules of a construct. -/
def rules (construct : Construct) (bodies : List (List Lalr.Symbol)) : List Lalr.Production :=
  bodies.map fun symbols => { origin := construct.ctorIdx, symbols }

/-- The rules of texts and statements. -/
def statementRules : List Lalr.Production :=
  [ rules .text [[c .items]],
    rules .items [[c .item], [c .items, c .item]],
    rules .item
      [[c .rule], [c .term], [c .ignoring], [c .importing], [c .declaration], [c .overriding],
        [c .extending], [t .newline]],
    rules .rule
      [[c .modifiers, t .rule, c .templateParameters, c .priority, t .colon, c .expansions,
        t .newline]],
    rules .modifiers [[t .modifiers], []],
    rules .priority [[t .dot, t .number], []],
    rules .templateParameters [[t .leftBrace, c .templateNames, t .rightBrace], []],
    rules .templateNames [[t .rule], [c .templateNames, t .comma, t .rule]],
    rules .term
      [[t .terminal, t .colon, c .expansions, t .newline],
        [t .terminal, t .dot, t .number, t .colon, c .expansions, t .newline]],
    rules .overriding [[t .override, c .rule], [t .override, c .term]],
    rules .extending [[t .extend, c .rule], [t .extend, c .term]],
    rules .ignoring [[t .ignore, c .expansions, t .newline]],
    rules .declaration [[t .declare, c .declared, t .newline]],
    rules .declared [[c .symbol], [c .declared, c .symbol]],
    rules .importing
      [[t .import, c .importPath, t .newline],
        [t .import, c .importPath, t .leftParenthesis, c .nameList, t .rightParenthesis,
          t .newline],
        [t .import, c .importPath, t .arrow, c .name, t .newline]],
    rules .importPath [[c .libraryPath], [c .relativePath]],
    rules .libraryPath [[c .pathNames]],
    rules .relativePath [[t .dot, c .pathNames]],
    rules .pathNames [[c .name], [c .pathNames, t .dot, c .name]],
    rules .nameList [[c .names]],
    rules .names [[c .name], [c .names, t .comma, c .name]]].flatten

/-- The rules of bodies. -/
def bodyRules : List Lalr.Production :=
  [ rules .expansions [[c .alternatives]],
    rules .alternatives
      [[c .labelled], [c .alternatives, t .bar, c .labelled],
        [c .alternatives, t .newlineBar, c .labelled]],
    rules .labelled [[c .expansion, t .arrow, c .nonterminal], [c .expansion]],
    rules .expansion [[c .expressions]],
    rules .expressions [[], [c .expressions, c .expression]],
    rules .expression
      [[c .atom], [c .atom, t .operator], [c .atom, t .tilde, t .number],
        [c .atom, t .tilde, t .number, t .range, t .number]],
    rules .atom
      [[t .leftParenthesis, c .expansions, t .rightParenthesis], [c .maybe], [c .value]],
    rules .maybe [[t .leftBracket, c .expansions, t .rightBracket]],
    rules .value
      [[c .terminal], [c .nonterminal], [c .literal], [c .range], [c .templateUse]],
    rules .terminal [[t .terminal]],
    rules .nonterminal [[t .rule]],
    rules .name [[t .rule], [t .terminal]],
    rules .symbol [[c .terminal], [c .nonterminal]],
    rules .range [[t .string, t .range, t .string]],
    rules .literal [[t .regexp], [t .string]],
    rules .templateUse [[c .nonterminal, t .leftBrace, c .templateArguments, t .rightBrace]],
    rules .templateArguments [[c .value], [c .templateArguments, t .comma, c .value]]].flatten

/-- The notation as plain rules. -/
def grammarNotation : Lalr.Source where
  terminals := LexemeKind.finish.ctorIdx
  rules := Construct.finish.ctorIdx
  productions := statementRules ++ bodyRules
  start := Construct.text.ctorIdx

/-- The parse table of the notation. -/
def table : Lalr.Table :=
  (Lalr.Table.ofSource? grammarNotation).getD ⟨#[], #[], 0⟩

/-- Texts whose mistakes can be explained. -/
def examples : List String :=
  [ "a: 1\n", "a: (\n", "a: )\n", "a: [)\n", "a: (]\n", "a\n", "A\n", "a->\n", "A->\n", "a A\n",
    "Aa:\n", "a: -> \"a\"\n", "a::\n", "a: b:\n", "a: B:\n", "a: \"a\":\n", "a: b??",
    "a: b(?)", "a:+\n", "a:?\n", "a:*\n", "a:|*\n", "a:a\n()\n", "A.B\n", "\"a\"\n",
    "%import \"a\"\n", "%ignore %import\n"]

/-- How the parser stands where it cannot go on. -/
structure Standing where
  depth : Nat
  state : Nat
  /-- The lexemes that could be taken instead. -/
  accepted : List Nat
  deriving DecidableEq, Repr

/-- The terminals that a parser can take. -/
def accepted (stack : List Nat) : List Nat :=
  match table.rows[stack.head?.getD 0]? with
  | none => []
  | some row =>
    (table.terminalsOf row).filter fun terminal =>
      terminal ≠ table.finish
        && match table.feed terminal (table.reductionBound stack) stack with
          | .shifted _ => true
          | .stuck _ => false

/-- How the parser stands with its stack. -/
def standingOf (stack : List Nat) : Standing :=
  ⟨stack.length, stack.head?.getD 0, accepted stack⟩

/-- How the parser stands at the first lexeme that is out of place; nothing if the text cannot be cut
into lexemes up to there. -/
def standing? (lexemes : List Lexeme) : Option Standing :=
  match lexemes.find? (·.kind = .unknown), table.run (lexemes.map (·.kind.ctorIdx)) [0] with
  | none, .shifted stack | none, .stuck stack => some (standingOf stack)
  | some _, _ =>
    let before := lexemes.takeWhile (·.kind ≠ .unknown)
    match table.run (before.map (·.kind.ctorIdx)) [0] with
    | .shifted _ => none
    | .stuck stack => some (standingOf stack)

/-- Whether a literal has a place in a state. -/
def expectsLiteral (state : Nat) : Bool :=
  match table.rows[state]? with
  | none => false
  | some row => (table.terminalsOf row).contains LexemeKind.string.ctorIdx

/-- The standings of the examples. -/
def exampleStandings : List Standing :=
  examples.filterMap fun text => standing? (Lexeme.list text.toList)

/-- Whether the mistake in a text can be explained. -/
def isKnownMistake (text : String) : Bool :=
  match standing? (Lexeme.list (text.toList ++ ['\n'])) with
  | none => true
  | some standing => expectsLiteral standing.state || exampleStandings.contains standing

end ReservedWords.Grammar.Diagnosis
