import ReservedWords.Grammar.Expression

/-!
Expansions: the plain rules of a grammar, each a name and a sequence of symbols. Alternatives inside a
sequence are multiplied out, equal alternatives of one rule are merged, and what remains twice is
rejected unless it is empty. Which analysis follows, and from where it starts, does not matter here.
-/

namespace ReservedWords.Grammar

/-- A part of an alternative that has been multiplied out. -/
inductive Part where
  | symbol (kind : SymbolKind) (name : String)
  | gap
  /-- The name of an alternative that is not one of a whole rule. -/
  | misplaced (label : String)
  deriving DecidableEq, Repr

/-- An alternative of a rule. -/
structure Alternative where
  parts : List Part
  label : Option String := none
  deriving DecidableEq, Repr

namespace Expression

mutual

/-- The sequences that an expression stands for, the leftmost choice varying slowest. -/
def lines : Expression → List (List Part)
  | .symbol kind name => [[.symbol kind name]]
  | .gap => [[.gap]]
  | .sequence parts => product parts
  | .choice options => (union options).eraseDups
  | .named body label => (lines body).map (· ++ [.misplaced label])

/-- The sequences that some expressions stand for one after the other. -/
def product : List Expression → List (List Part)
  | [] => [[]]
  | part :: parts =>
    let rest := product parts
    (lines part).flatMap fun line => rest.map (line ++ ·)

/-- The sequences that one or another expression stands for. -/
def union : List Expression → List (List Part)
  | [] => []
  | option :: options => lines option ++ union options

end

mutual

/-- The alternatives of a rule's expression. -/
def options : Expression → List Alternative
  | .choice options => allOptions options
  | .named body label => (lines body).map (⟨·, some label⟩)
  | .symbol kind name => [⟨[.symbol kind name], none⟩]
  | .gap => [⟨[.gap], none⟩]
  | .sequence parts => (product parts).map (⟨·, none⟩)

/-- The alternatives of some expressions. -/
def allOptions : List Expression → List Alternative
  | [] => []
  | option :: others => options option ++ allOptions others

end

/-- The alternatives of a rule's expression, each once. -/
def alternatives (expression : Expression) : List Alternative :=
  expression.options.eraseDups

end Expression

/-- A plain rule. -/
structure Expansion where
  origin : String
  symbols : List (SymbolKind × String)
  priority : Int
  deriving DecidableEq, Repr

namespace Expansion

/-- The symbols of an alternative, without its gaps. -/
def symbolsOf (parts : List Part) : List (SymbolKind × String) :=
  parts.filterMap fun part =>
    match part with
    | .symbol kind name => some (kind, name)
    | _ => none

/-- Whether a part is a name out of place. -/
def isMisplaced : Part → Bool
  | .misplaced _ => true
  | _ => false

/-- The plain rule of an alternative. An inlined rule has no named alternatives. -/
def ofAlternative (origin : String) (priority : Int) (alternative : Alternative)
    : Except Failure Expansion :=
  match alternative.label, isInlined origin with
  | some label, true => .error (.rejected (.labelOfInlined origin label))
  | _, _ =>
    if alternative.parts.any isMisplaced then .error (.defect .brokenAssumption)
    else .ok ⟨origin, symbolsOf alternative.parts, priority⟩

/-- Whether two of some lists of symbols are equal and not empty. -/
def hasRepetition : List (List (SymbolKind × String)) → Bool
  | [] => false
  | symbols :: others => (symbols ≠ [] && others.contains symbols) || hasRepetition others

/-- The plain rules of one rule. -/
def ofRule (origin : String) (expression : Expression) (priority : Int)
    : Except Failure (List Expansion) :=
  expression.alternatives.mapM (ofAlternative origin priority)

end Expansion

/-- What is known while the rules of a grammar are gone through. -/
structure Compilation where
  naming : Terminal.Naming
  rules : List Rule
  helpers : Helpers := {}
  shaped : List (String × Expression × Int) := []

/-- A grammar in plain rules. -/
structure Compiled where
  terminals : List Terminal
  expansions : List Expansion
  ignored : List String
  deriving DecidableEq, Repr

namespace Compilation

/-- Goes through one rule: names its literals, adds the instances of the templates it uses, and takes
its repetitions apart. Templates themselves are left out; a rule that is only declared has no body to
go through. -/
def addRule (work : Compilation) (rule : Rule) : Except Failure Compilation :=
  if rule.parameters ≠ [] then .ok work
  else
    match rule.body with
    | none => .error (.defect .noSuchMember)
    | some body => do
      let keeps := rule.options.keepsTokens
      let (naming, body) ← work.naming.nameLiterals keeps body
      let rules ← Rule.addInstances work.rules body
      body.parts.forM Body.checkRepetition
      let (expression, helpers) := (body.expression rule.name keeps).run work.helpers
      return { naming, rules, helpers,
               shaped := work.shaped ++ [(rule.name, expression, rule.options.priority)] }

/-- More instances of templates than are ever made by a grammar with an end. -/
def instanceLimit : Nat := 10000

/-- Goes through the rules from a position on, those that are added on the way included. -/
def addRulesFrom : (fuel position : Nat) → Compilation → Except Failure Compilation
  | 0, _, _ => .error (.defect .endlessRecursion)
  | fuel + 1, position, work =>
    match work.rules[position]? with
    | none => .ok work
    | some rule => do addRulesFrom fuel (position + 1) (← work.addRule rule)

/-- The expressions of all rules and of the helper rules after them, with their priorities. -/
def expressions (work : Compilation) : List (String × Expression × Int) :=
  work.shaped ++ work.helpers.rules.map fun (name, expression) => (name, expression, (0 : Int))

end Compilation

namespace Compiled

variable [Installation]

/-- The plain rules of some expressions. -/
def expansionsOf (expressions : List (String × Expression × Int))
    : Except Failure (List Expansion) := do
  let groups ← expressions.mapM fun (origin, expression, priority) =>
    Expansion.ofRule origin expression priority
  if groups.any fun group => Expansion.hasRepetition (group.map Expansion.symbols) then
    throw (.rejected .rulesDefinedTwice)
  return groups.flatMap fun group =>
    group.foldl (fun kept expansion =>
      if kept.any (·.symbols = expansion.symbols) then kept else kept ++ [expansion]) []

/-- The plain rules and the terminals of a grammar. -/
def ofGrammar (grammar : Grammar) : Except Failure Compiled := do
  let defined ← Terminal.ofGrammar grammar
  let work ← Compilation.addRulesFrom (grammar.rules.length + Compilation.instanceLimit) 0
    { naming := { terminals := defined }, rules := grammar.rules }
  let expansions ← expansionsOf work.expressions
  return ⟨work.naming.terminals, expansions, grammar.ignored⟩

/-- The names of the symbols of one class in some plain rules. -/
def namesIn (kind : SymbolKind) (expansions : List Expansion) : List String :=
  expansions.flatMap fun expansion =>
    expansion.symbols.filterMap fun (other, name) => if other = kind then some name else none

/-- Whether a rule is used by another one. -/
def isUsed (expansions : List Expansion) (name : String) : Bool :=
  expansions.any fun expansion =>
    expansion.origin ≠ name && expansion.symbols.contains (.rule, name)

/-- Leaves out unused rules until all are used; the rule to start from always is. -/
def usedExpansions (start : String) : (fuel : Nat) → List Expansion → List Expansion
  | 0, expansions => expansions
  | fuel + 1, expansions =>
    let used := expansions.filter fun expansion =>
      expansion.origin = start || isUsed expansions expansion.origin
    if used.length = expansions.length then expansions else usedExpansions start fuel used

/-- The part of a grammar that is used from a rule on: its rules, and the terminals in them or
ignored. -/
def usedFrom (compiled : Compiled) (start : String) : Compiled :=
  let expansions := usedExpansions start (compiled.expansions.length + 1) compiled.expansions
  let names := namesIn .terminal expansions
  { compiled with
    expansions
    terminals := compiled.terminals.filter fun terminal =>
      names.contains terminal.name || compiled.ignored.contains terminal.name }

end Compiled

end ReservedWords.Grammar
