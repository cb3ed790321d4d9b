import ReservedWords.Item

/-!
Rule definitions and the production table. A definition is a labelled tree over leaves; only its
symbols and tokens reach the table, in the order in which they stand.
-/

namespace ReservedWords.Definition

/-- A leaf of a definition tree. -/
inductive Leaf where
  | terminal (name : String)
  | rule (name : String)
  | token (kind text : String)
  /-- Anything else, with a word for its kind. -/
  | plain (kind : String)
  deriving DecidableEq, Repr

/-- A definition tree. -/
inductive Tree where
  | leaf (value : Leaf)
  | node (label : String) (children : List Tree)
  deriving Inhabited

/-- The token of a leaf: a symbol gives its name, a token its text. -/
def Leaf.token? : Leaf → Option Token
  | .terminal name => some ⟨name, "TERMINAL"⟩
  | .rule name => some ⟨name, "RULE"⟩
  | .token kind text => some ⟨text, kind⟩
  | .plain _ => none

/-- The word for the kind of a leaf that stands for a whole definition. -/
def Leaf.kind : Leaf → String
  | .terminal _ => "Terminal"
  | .rule _ => "NonTerminal"
  | .token _ _ => "Token"
  | .plain kind => kind

namespace Tree

mutual

/-- The leaves of a tree from left to right. -/
def leaves : Tree → List Leaf
  | .leaf value => [value]
  | .node _ children => leavesOf children

/-- The leaves of some trees from left to right. -/
def leavesOf : List Tree → List Leaf
  | [] => []
  | tree :: trees => leaves tree ++ leavesOf trees

end

/-- The tokens of a definition from left to right. -/
def tokens (tree : Tree) : List Token :=
  tree.leaves.filterMap Leaf.token?

end Tree

/-- A rule: its name, the parameters of a template, and its definition. -/
structure Rule where
  name : String
  parameters : List String
  tree : Tree

/-- The table entry of a rule. A template has no tokens of its own, nor has a definition that is a
single leaf. -/
def Rule.item (rule : Rule) : Item :=
  if rule.parameters ≠ [] then .other rule.name "template"
  else
    match rule.tree with
    | .leaf value => .other rule.name value.kind
    | .node _ _ => .production (Production.ofBody rule.name rule.tree.tokens)

/-- The production table of some rules. -/
def productionTable (rules : List Rule) : Dictionary Entry :=
  Dictionary.ofList (rules.map fun rule => (rule.name, some rule.item))

end ReservedWords.Definition
