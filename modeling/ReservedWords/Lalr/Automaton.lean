import ReservedWords.Sorting

/-!
The automaton of a grammar: its states are sets of items, where an item is a rule with a place in it,
and a step goes from a state to the one in which the place has moved over a symbol. Rules and symbols
are numbered.
-/

namespace ReservedWords.Lalr

/-- A symbol by its class and number. -/
inductive Symbol where
  | terminal (number : Nat)
  | rule (number : Nat)
  deriving DecidableEq, Repr

/-- A rule: the symbol it is for, and the symbols it consists of. -/
structure Production where
  origin : Nat
  symbols : List Symbol
  priority : Int := 0
  deriving DecidableEq, Repr

/-- A grammar to be analysed. Terminals and rules are numbered from zero; the number after the last
terminal stands for the end of the text, the one after the last rule for the whole text. -/
structure Source where
  terminals : Nat
  rules : Nat
  productions : List Production
  start : Nat

namespace Source

/-- The number of the end of the text. -/
def finish (source : Source) : Nat := source.terminals

/-- The rule for the whole text. -/
def root (source : Source) : Production := ⟨source.rules, [.rule source.start], 0⟩

/-- All rules, the one for the whole text at the end. -/
def allProductions (source : Source) : List Production :=
  source.productions ++ [source.root]

end Source

/-- A rule, by its number, with a place in it. -/
structure Item where
  production : Nat
  place : Nat
  deriving DecidableEq, Repr

namespace Item

/-- The order of items in a kernel. -/
def isBefore (first second : Item) : Bool :=
  first.production < second.production
    || (first.production == second.production && first.place ≤ second.place)

/-- The same rule with the place moved by one symbol. -/
def advance (item : Item) : Item := { item with place := item.place + 1 }

end Item

/-- A state: the items it is reached with, those that follow from them, and its steps. -/
structure State where
  kernel : List Item
  closure : List Item
  steps : List (Symbol × Nat) := []

/-- An automaton. -/
structure Automaton where
  productions : Array Production
  states : Array State
  finish : Nat

namespace Automaton

/-- The symbol after the place of an item. -/
def nextSymbol? (productions : Array Production) (item : Item) : Option Symbol :=
  (productions[item.production]?).bind fun production => production.symbols[item.place]?

/-- The numbers of the rules for a symbol. -/
def productionsOf (productions : Array Production) (rule : Nat) : List Nat :=
  (List.range productions.size).filter fun index =>
    (productions[index]?.map Production.origin) == some rule

/-- The items that follow from pending symbols, beside those found. Every symbol is followed once. -/
def closeFrom (productions : Array Production) : (fuel : Nat) → (seen : List Nat)
    → (pending : List Symbol) → List Item
  | 0, _, _ => []
  | _, _, [] => []
  | fuel + 1, seen, .terminal _ :: pending => closeFrom productions fuel seen pending
  | fuel + 1, seen, .rule rule :: pending =>
    if seen.contains rule then closeFrom productions fuel seen pending
    else
      let items := (productionsOf productions rule).map fun index => (⟨index, 0⟩ : Item)
      items ++ closeFrom productions fuel (rule :: seen)
        (pending ++ items.filterMap (nextSymbol? productions))

/-- A kernel with all that follows from it. Each rule contributes at most one pending symbol. -/
def closure (productions : Array Production) (kernel : List Item) : List Item :=
  let pending := kernel.filterMap (nextSymbol? productions)
  let more := closeFrom productions (productions.size + pending.length + 1) [] pending
  kernel ++ more.filter fun item => !kernel.contains item

/-- Adds an item to those that wait for the same symbol. -/
def addToGroup (symbol : Symbol) (item : Item)
    : List (Symbol × List Item) → List (Symbol × List Item)
  | [] => [(symbol, [item])]
  | (known, items) :: groups =>
    if known = symbol then (known, items ++ [item]) :: groups
    else (known, items) :: addToGroup symbol item groups

/-- The kernels that a state leads to, by symbol. -/
def successors (productions : Array Production) (state : State) : List (Symbol × List Item) :=
  let groups := state.closure.foldl (fun groups item =>
    match nextSymbol? productions item with
    | some symbol => addToGroup symbol item.advance groups
    | none => groups) []
  groups.map fun (symbol, items) => (symbol, sorted items Item.isBefore)

/-- The number of the state with a kernel, which is added if there is none. -/
def findOrAdd (productions : Array Production) (states : Array State) (kernel : List Item)
    : Array State × Nat :=
  match states.findIdx? (·.kernel == kernel) with
  | some index => (states, index)
  | none => (states.push ⟨kernel, closure productions kernel, []⟩, states.size)

/-- Adds the states that some kernels need, and gives the steps to them. -/
def addSteps (productions : Array Production) (states : Array State)
    : List (Symbol × List Item) → Array State × List (Symbol × Nat)
  | [] => (states, [])
  | (symbol, kernel) :: others =>
    let (states, index) := findOrAdd productions states kernel
    let (states, steps) := addSteps productions states others
    (states, (symbol, index) :: steps)

/-- Goes through the states from a position on, those that are added on the way included. -/
def explore (productions : Array Production) : (fuel position : Nat) → Array State → Array State
  | 0, _, states => states
  | fuel + 1, position, states =>
    match states[position]? with
    | none => states
    | some state =>
      let (states, steps) := addSteps productions states (successors productions state)
      explore productions fuel (position + 1) (states.set! position { state with steps })

/-- The number of items of a grammar. -/
def itemCount (productions : Array Production) : Nat :=
  productions.foldl (fun total production => total + production.symbols.length + 1) 0

/-- The automaton of a grammar. There are no more states than sets of items. -/
def ofSource (source : Source) : Automaton :=
  let productions := source.allProductions.toArray
  let kernel : List Item := [⟨productions.size - 1, 0⟩]
  let first : State := ⟨kernel, closure productions kernel, []⟩
  { productions
    states := explore productions ((1 <<< itemCount productions) + 1) 0 #[first]
    finish := source.finish }

/-- The state that a symbol leads to. -/
def step? (automaton : Automaton) (state : Nat) (symbol : Symbol) : Option Nat :=
  (automaton.states[state]?).bind fun state => state.steps.lookup symbol

/-- The state that some symbols lead to one after the other. -/
def walk? (automaton : Automaton) (state : Nat) (symbols : List Symbol) : Option Nat :=
  symbols.foldlM automaton.step? state

end Automaton

end ReservedWords.Lalr
