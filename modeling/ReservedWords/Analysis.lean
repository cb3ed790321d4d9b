import ReservedWords.Grammar.Expansion
import ReservedWords.Lalr.Table
import ReservedWords.Options

/-!
The analysis of a grammar: whether a parser can be built for it. It decides over acceptance only; what
the tables hold does not depend on it.
-/

namespace ReservedWords.Analysis

variable [Installation]

open Grammar (Compiled Expansion Failure SymbolKind Terminal)

/-- The first rule that is used without a definition, the one to start from included. -/
def undefinedRule? (compiled : Compiled) (start : String) : Option String :=
  let used := Compiled.namesIn .rule compiled.expansions ++ [start]
  used.find? fun name => !compiled.expansions.any (·.origin == name)

/-- Rejects a grammar with a rule that is used without a definition. -/
def checkRules (compiled : Compiled) (start : String) : Except Failure Unit :=
  match undefinedRule? compiled start with
  | some name => .error (.rejected (.undefinedRule name))
  | none => .ok ()

/-- The names of the terminals and of the rules of a grammar, in the order of their numbers. -/
structure Numbering where
  terminals : List String
  rules : List String

namespace Numbering

/-- The numbers of the names in a grammar. -/
def ofCompiled (compiled : Compiled) : Numbering where
  terminals := (Compiled.namesIn .terminal compiled.expansions).eraseDups
  rules := (compiled.expansions.map Expansion.origin).eraseDups

/-- A symbol by its number. -/
def symbol (numbering : Numbering) : SymbolKind × String → Lalr.Symbol
  | (.terminal, name) => .terminal (numbering.terminals.idxOf name)
  | (.rule, name) => .rule (numbering.rules.idxOf name)

/-- The numbered grammar. -/
def source (numbering : Numbering) (compiled : Compiled) (start : String) : Lalr.Source where
  terminals := numbering.terminals.length
  rules := numbering.rules.length
  productions := compiled.expansions.map fun expansion =>
    { origin := numbering.rules.idxOf expansion.origin
      symbols := expansion.symbols.map numbering.symbol
      priority := expansion.priority }
  start := numbering.rules.idxOf start

end Numbering

/-- A fault of a regular expression that is found when its width is asked for alone. -/
def widthDefect : Regexp.Fault → Defect
  | .malformed | .incompatible => .badValue
  | .overflow => .overflow
  | .unsupported => .unsupported
  | .unencodable => .unencodable

/-- Checks the pattern of a terminal for a lexer: it must be well formed and never match nothing. -/
def checkLexer (terminal : Terminal) : Except Failure Unit :=
  match Regexp.measure terminal.pattern.expression with
  | .error .malformed => .error (.rejected .badRegexp)
  | .error fault => .error (.defect (widthDefect fault))
  | .ok measure =>
    if !measure.usable then .error (.rejected .badRegexp)
    else
      match terminal.pattern.width with
      | .error fault => .error (.defect (widthDefect fault))
      | .ok width => if width.least = 0 then .error (.rejected .zeroWidth) else .ok ()

/-- Checks the lexer of a state: the terminals that the state knows, and those to ignore. -/
def checkState (compiled : Compiled) (names : List String) : Except Failure Unit := do
  let known := compiled.terminals.filter fun terminal =>
    names.contains terminal.name || compiled.ignored.contains terminal.name
  known.forM checkLexer
  match compiled.ignored.filter fun name => !known.any (·.name == name) with
  | [] => return
  | missing => throw (.rejected (.ignoredNotDefined missing.eraseDups))

/-- The names of the terminals that a state of a parse table knows. -/
def namesOf (numbering : Numbering) (table : Lalr.Table) (row : Lalr.Row) : List String :=
  (table.terminalsOf row).filterMap fun terminal => numbering.terminals[terminal]?

/-- Checks that every pattern has a width, also those that no state knows. -/
def checkWidth (terminal : Terminal) : Except Failure Unit :=
  match terminal.pattern.width with
  | .error fault => .error (.defect (widthDefect fault))
  | .ok _ => .ok ()

/-- The analysis by a parse table with one terminal of lookahead. -/
def checkLalr (compiled : Compiled) (start : String) : Except Failure Unit := do
  checkRules compiled start
  let numbering := Numbering.ofCompiled compiled
  match Lalr.Table.ofSource? (numbering.source compiled start) with
  | none => throw (.rejected .reduceConflict)
  | some table =>
    table.rows.toList.forM fun row => checkState compiled (namesOf numbering table row)
    compiled.terminals.forM checkWidth

/-- Checks the pattern of a terminal for a parser that matches terminals itself. -/
def checkMatcher (terminal : Terminal) : Except Failure Unit :=
  match Regexp.widthOf terminal.pattern.expression with
  | .error .malformed | .error .incompatible | .error .unencodable => .error (.rejected .badRegexp)
  | .error fault => .error (.defect (widthDefect fault))
  | .ok width =>
    if width.least = 0 then .error (.rejected .zeroWidth)
    else
      match Regexp.measure terminal.pattern.expression with
      | .ok ⟨_, true⟩ => .ok ()
      | _ => .error (.defect .uncompilable)

/-- The analysis for a parser of any grammar: there are no conflicts. -/
def checkEarley (compiled : Compiled) (start : String) : Except Failure Unit := do
  compiled.terminals.forM checkMatcher
  checkRules compiled start

/-- The analysis for a parser of any grammar behind a lexer. -/
def checkCyk (compiled : Compiled) (start : String) : Except Failure Unit := do
  checkRules compiled start
  checkState compiled (compiled.terminals.map Terminal.name)

/-- The analyses there are. -/
def parsers : List String := ["lalr", "earley", "cyk"]

/-- Checks that an analysis exists. -/
def checkParser (options : Options) : Except Failure Unit :=
  if parsers.contains options.parser then .ok ()
  else .error (.rejected (.unknownParser options.parser))

/-- Whether a parser can be built for the part of a grammar that is used. -/
def check (options : Options) (compiled : Compiled) : Except Failure Unit :=
  let used := compiled.usedFrom options.start
  match options.parser with
  | "lalr" => checkLalr used options.start
  | "cyk" => checkCyk used options.start
  | _ => checkEarley used options.start

end ReservedWords.Analysis
