import ReservedWords.Definition
import ReservedWords.Sorting
import ReservedWords.Text.Quoted

/-!
Bodies: what stands to the right of a colon in a grammar. A body keeps every node of the notation, so
that the definition tree that the tables show can be read off it, and so that its parts can be visited
in the order in which faults are found: deepest first, and from left to right within one depth.
-/

namespace ReservedWords.Grammar

/-- The two classes of literals. -/
inductive LiteralKind where
  | string
  | regexp
  deriving DecidableEq, Repr

/-- A literal as written, with its quotes or slashes and its flags. -/
structure Literal where
  kind : LiteralKind
  text : String
  deriving DecidableEq, Repr

/-- The two classes of symbols. -/
inductive SymbolKind where
  | terminal
  | rule
  deriving DecidableEq, Repr

/-- A name in a body. A hidden terminal leaves nothing in the result of parsing. -/
structure Symbol where
  kind : SymbolKind
  name : String
  hidden : Bool := false
  deriving DecidableEq, Repr

namespace Symbol

/-- The symbol of a rule. -/
def ofRule (name : String) : Symbol := ⟨.rule, name, false⟩

/-- The symbol of a terminal as written: a leading underscore hides it. -/
def ofTerminal (name : String) : Symbol := ⟨.terminal, name, name.toList.head? = some '_'⟩

/-- Symbols are the same if kind and name are. -/
def same (first second : Symbol) : Bool :=
  first.kind = second.kind && first.name = second.name

/-- The same symbol under another name. -/
def rename (f : String → String) (symbol : Symbol) : Symbol :=
  { symbol with name := f symbol.name }

/-- The way a message shows a symbol. -/
def text (symbol : Symbol) : String :=
  let kind :=
    match symbol.kind with
    | .terminal => "Terminal"
    | .rule => "NonTerminal"
  kind ++ "(" ++ Text.quoted symbol.name ++ ")"

/-- The leaf of a symbol in a definition tree. -/
def leaf (symbol : Symbol) : Definition.Leaf :=
  match symbol.kind with
  | .terminal => .terminal symbol.name
  | .rule => .rule symbol.name

end Symbol

/-- What is repeated how often, apart from counts. -/
inductive Repeat where
  | optional
  | many
  | some
  deriving DecidableEq, Repr

/-- The sign of a repetition. -/
def Repeat.sign : Repeat → String
  | .optional => "?"
  | .many => "*"
  | .some => "+"

/-- A body of a definition. -/
inductive Body where
  /-- A name. -/
  | symbol (name : Symbol)
  /-- A string or a regular expression. -/
  | literal (text : Literal)
  /-- The characters between two strings of one character each, as written. -/
  | range (first last : String)
  /-- A template with arguments. -/
  | use (template : Symbol) (arguments : List Body)
  /-- The definition of a terminal, standing where its name stood; `cell` says where it is kept. -/
  | reference (cell : Nat)
  /-- The definition of a terminal itself. -/
  | included (body : Body)
  /-- Parts one after the other. -/
  | sequence (parts : List Body)
  /-- Alternatives. -/
  | choice (options : List Body)
  /-- An alternative with a name of its own. -/
  | named (body : Body) (label : Symbol)
  /-- Alternatives in brackets: they may be left out, which leaves gaps. -/
  | bracket (body : Body)
  /-- A part with a sign of repetition. -/
  | repeated (body : Body) (sign : Repeat)
  /-- A part with a count as written, or with the least and the greatest count. -/
  | counted (body : Body) (low : String) (high : Option String)
  deriving Inhabited

namespace Body

open Definition (Tree)

/-- The kind of the token that shows a literal. -/
def literalToken (literal : Literal) : Tree :=
  match literal.kind with
  | .string => .leaf (.token "STRING" literal.text)
  | .regexp => .leaf (.token "REGEXP" literal.text)

mutual

/-- The definition tree of a body. -/
def tree : Body → Tree
  | .symbol name => .node "value" [.leaf name.leaf]
  | .literal text => .node "value" [.node "literal" [literalToken text]]
  | .range first last =>
    .node "value"
      [.node "range" [.leaf (.token "STRING" first), .leaf (.token "STRING" last)]]
  | .use template arguments =>
    .node "value" [.node "template_usage" (.leaf template.leaf :: trees arguments)]
  | .reference _ => .node "value" []
  | .included body => .node "value" [tree body]
  | .sequence parts => .node "expansion" (trees parts)
  | .choice options => .node "expansions" (trees options)
  | .named body label => .node "alias" [tree body, .leaf label.leaf]
  | .bracket body => .node "maybe" [tree body]
  | .repeated body sign => .node "expr" [tree body, .leaf (.token "OP" sign.sign)]
  | .counted body low high =>
    .node "expr"
      (tree body :: .leaf (.token "TILDE" "~") :: .leaf (.token "NUMBER" low)
        :: high.toList.map fun text => .leaf (.token "NUMBER" text))

/-- The definition trees of some bodies. -/
def trees : List Body → List Tree
  | [] => []
  | body :: bodies => tree body :: trees bodies

end

mutual

/-- The parts of a body with their depths, from left to right; an atom is one deeper than the value
that holds it. -/
def partsFrom (depth : Nat) : Body → List (Nat × Body)
  | .symbol name => [(depth, .symbol name)]
  | .literal text => [(depth + 1, .literal text)]
  | .range first last => [(depth + 1, .range first last)]
  | .use template arguments =>
    (depth + 1, .use template arguments) :: partsOfFrom (depth + 2) arguments
  | .reference cell => [(depth, .reference cell)]
  | .included body => (depth, .included body) :: partsFrom (depth + 1) body
  | .sequence parts => (depth, .sequence parts) :: partsOfFrom (depth + 1) parts
  | .choice options => (depth, .choice options) :: partsOfFrom (depth + 1) options
  | .named body label => (depth, .named body label) :: partsFrom (depth + 1) body
  | .bracket body => (depth, .bracket body) :: partsFrom (depth + 1) body
  | .repeated body sign => (depth, .repeated body sign) :: partsFrom (depth + 1) body
  | .counted body low high => (depth, .counted body low high) :: partsFrom (depth + 1) body

/-- The parts of some bodies that stand at one depth. -/
def partsOfFrom (depth : Nat) : List Body → List (Nat × Body)
  | [] => []
  | body :: bodies => partsFrom depth body ++ partsOfFrom depth bodies

end

/-- The parts of a body, the deepest first and from left to right within one depth. -/
def parts (body : Body) : List Body :=
  (sorted (partsFrom 0 body) fun first second => decide (second.1 ≤ first.1)).map Prod.snd

mutual

/-- The symbols of a body from left to right: names, templates and aliases. -/
def symbols : Body → List Symbol
  | .symbol name => [name]
  | .literal _ | .range _ _ | .reference _ => []
  | .use template arguments => template :: symbolsOf arguments
  | .included body => symbols body
  | .sequence parts => symbolsOf parts
  | .choice options => symbolsOf options
  | .named body label => symbols body ++ [label]
  | .bracket body => symbols body
  | .repeated body _ => symbols body
  | .counted body _ _ => symbols body

/-- The symbols of some bodies. -/
def symbolsOf : List Body → List Symbol
  | [] => []
  | body :: bodies => symbols body ++ symbolsOf bodies

end

/-- The symbols that a body uses: those in its sequences. The alias of a whole alternative is not one
of them. -/
def usedSymbols (body : Body) : List Symbol :=
  body.parts.flatMap fun part =>
    match part with
    | .sequence parts => symbolsOf parts
    | _ => []

/-- A change of a body that keeps its shape: what becomes of its atoms, which are names, literals,
ranges and references, of the templates it uses, and of its aliases. -/
structure Rewriting where
  atom : Body → Body := id
  template : Symbol → Symbol := id
  label : Symbol → Symbol := id

mutual

/-- A body after a change. -/
def rewrite (change : Rewriting) : Body → Body
  | .use template arguments => .use (change.template template) (rewriteAll change arguments)
  | .included body => .included (rewrite change body)
  | .sequence parts => .sequence (rewriteAll change parts)
  | .choice options => .choice (rewriteAll change options)
  | .named body label => .named (rewrite change body) (change.label label)
  | .bracket body => .bracket (rewrite change body)
  | .repeated body sign => .repeated (rewrite change body) sign
  | .counted body low high => .counted (rewrite change body) low high
  | .symbol name => change.atom (.symbol name)
  | .literal text => change.atom (.literal text)
  | .range first last => change.atom (.range first last)
  | .reference cell => change.atom (.reference cell)

/-- Some bodies after a change. -/
def rewriteAll (change : Rewriting) : List Body → List Body
  | [] => []
  | body :: bodies => rewrite change body :: rewriteAll change bodies

end

/-- The same body with other names for its symbols. -/
def rename (f : String → String) : Body → Body :=
  rewrite
    { atom := fun atom =>
        match atom with
        | .symbol name => .symbol (name.rename f)
        | atom => atom
      template := Symbol.rename f
      label := Symbol.rename f }

/-- The same body with definitions in the places of references. -/
def withDefinitions (definition : Nat → Body) : Body → Body :=
  rewrite
    { atom := fun atom =>
        match atom with
        | .reference cell => .included (definition cell)
        | atom => atom }

/-- The cells that a body refers to. -/
def cells (body : Body) : List Nat :=
  body.parts.filterMap fun part =>
    match part with
    | .reference cell => some cell
    | _ => none

end Body

end ReservedWords.Grammar
