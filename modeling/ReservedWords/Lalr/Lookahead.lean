import ReservedWords.Lalr.Automaton

/-!
Lookaheads: which terminals may follow where a rule is complete. They are computed along the steps over
rules: what can be read after such a step, what is read after the empty rules behind it, and what
follows a rule that ends with it. Sets of terminals are numbers, one bit a terminal.
-/

namespace ReservedWords.Lalr

/-- A step over a rule: the state before it, the rule and the state after it. -/
structure RuleStep where
  source : Nat
  rule : Nat
  target : Nat
  deriving DecidableEq, Repr

/-- A set of terminals. -/
abbrev TerminalSet := Nat

namespace TerminalSet

/-- The set of one terminal. -/
def single (terminal : Nat) : TerminalSet := 1 <<< terminal

/-- Whether a terminal is in a set. -/
def contains (set : TerminalSet) (terminal : Nat) : Bool := Nat.testBit set terminal

end TerminalSet

namespace Automaton

/-- Whether all symbols are rules that can be empty. -/
def allEmpty (known : List Nat) (symbols : List Symbol) : Bool :=
  symbols.all fun symbol =>
    match symbol with
    | .rule rule => known.contains rule
    | .terminal _ => false

/-- The rules that can be empty, from those known to be. -/
def emptyRulesFrom (productions : List Production) : (fuel : Nat) → List Nat → List Nat
  | 0, known => known
  | fuel + 1, known =>
    let found := productions.filter fun production =>
      !known.contains production.origin && allEmpty known production.symbols
    if found.isEmpty then known
    else emptyRulesFrom productions fuel (known ++ (found.map Production.origin).eraseDups)

/-- The rules that can be empty. -/
def emptyRules (automaton : Automaton) : List Nat :=
  emptyRulesFrom automaton.productions.toList (automaton.productions.size + 1) []

/-- The steps over rules from a state. -/
def ruleStepsFrom (index : Nat) (state : State) : List RuleStep :=
  state.steps.filterMap fun (symbol, target) =>
    match symbol with
    | .rule rule => some ⟨index, rule, target⟩
    | .terminal _ => none

/-- All steps over rules, state by state. -/
def ruleSteps (automaton : Automaton) : List RuleStep :=
  (automaton.states.toList.zipIdx).flatMap fun (state, index) => ruleStepsFrom index state

/-- The terminals that steps from a state read. -/
def readFrom (automaton : Automaton) (state : Nat) : TerminalSet :=
  match automaton.states[state]? with
  | none => 0
  | some state =>
    state.steps.foldl (fun set (symbol, _) =>
      match symbol with
      | .terminal terminal => set ||| TerminalSet.single terminal
      | .rule _ => set) 0

/-- The terminals that can be read right after a step; the end of the text after the whole. -/
def readAfter (automaton : Automaton) (start : Nat) (step : RuleStep) : TerminalSet :=
  let after := automaton.readFrom step.target
  if step.source = 0 ∧ step.rule = start then after ||| TerminalSet.single automaton.finish else after

/-- Adds to every set those it takes over, once. An edge goes from the set that takes to the other. -/
def sweep (edges : List (Nat × Nat)) (sets : Array TerminalSet) : Array TerminalSet :=
  edges.foldl (fun sets (target, source) =>
    sets.modify target fun set => set ||| (sets[source]?).getD 0) sets

/-- Adds to every set those it takes over, until nothing changes. A terminal passes one more edge with
every sweep. -/
def spread (edges : List (Nat × Nat)) : (sweeps : Nat) → Array TerminalSet → Array TerminalSet
  | 0, sets => sets
  | sweeps + 1, sets =>
    let next := sweep edges sets
    if next == sets then sets else spread edges sweeps next

/-- The numbers of the rule steps that leave each state. -/
def stepNumbers (automaton : Automaton) (steps : List RuleStep) : Array (List (Nat × Nat)) :=
  steps.zipIdx.foldl (fun numbers (step, index) =>
    numbers.modify step.source ((step.rule, index) :: ·))
    (Array.replicate automaton.states.size [])

/-- The number of the step over a rule from a state. -/
def numberOf? (numbers : Array (List (Nat × Nat))) (state rule : Nat) : Option Nat :=
  (numbers[state]?).bind fun known => known.lookup rule

/-- The rule steps along some symbols from a state after which everything can be empty. -/
def endings (automaton : Automaton) (empty : List Nat) (numbers : Array (List (Nat × Nat)))
    : (state : Nat) → List Symbol → List Nat
  | _, [] => []
  | state, symbol :: rest =>
    let here :=
      match symbol with
      | .rule rule => if allEmpty empty rest then (numberOf? numbers state rule).toList else []
      | .terminal _ => []
    match automaton.step? state symbol with
    | some next => here ++ endings automaton empty numbers next rest
    | none => here

/-- The items of a state for a rule, begun or not. -/
def itemsFor (automaton : Automaton) (state rule : Nat) : List Item :=
  match automaton.states[state]? with
  | none => []
  | some state =>
    state.closure.filter fun item =>
      (automaton.productions[item.production]?.map Production.origin) == some rule

/-- The symbols of an item from its place on. -/
def symbolsAfter (automaton : Automaton) (item : Item) : List Symbol :=
  match automaton.productions[item.production]? with
  | none => []
  | some production => production.symbols.drop item.place

/-- Where a rule is complete, and the step whose followers may come there. -/
structure Completion where
  state : Nat
  production : Nat
  step : Nat
  deriving DecidableEq, Repr

/-- The completions of the rules that a step goes over. -/
def completionsOf (automaton : Automaton) (step : RuleStep) (index : Nat) : List Completion :=
  ((automaton.itemsFor step.source step.rule).filter (·.place == 0)).filterMap fun item =>
    (automaton.walk? step.source (automaton.symbolsAfter item)).map fun state =>
      ⟨state, item.production, index⟩

/-- The set of every rule step: what can follow the rule there. -/
def followSets (automaton : Automaton) (start : Nat) (steps : List RuleStep)
    (numbers : Array (List (Nat × Nat))) : Array TerminalSet :=
  let empty := automaton.emptyRules
  let indexed := steps.zipIdx
  let reads := indexed.flatMap fun (step, index) =>
    empty.filterMap fun rule => (numberOf? numbers step.target rule).map fun next => (index, next)
  let includes := indexed.flatMap fun (step, index) =>
    (automaton.itemsFor step.source step.rule).flatMap fun item =>
      (automaton.endings empty numbers step.source (automaton.symbolsAfter item)).map fun ending =>
        (ending, index)
  let direct := (steps.map (automaton.readAfter start)).toArray
  spread includes (steps.length + 1) (spread reads (steps.length + 1) direct)

/-- The lookaheads of a grammar: for every state the rules that are complete in it, each with the
terminals that may follow. -/
def lookaheads (automaton : Automaton) (start : Nat) : Array (List (Nat × TerminalSet)) :=
  let steps := automaton.ruleSteps
  let numbers := automaton.stepNumbers steps
  let follow := automaton.followSets start steps numbers
  let completions := steps.zipIdx.flatMap fun (step, index) => automaton.completionsOf step index
  completions.foldl (fun table completion =>
    table.modify completion.state fun known =>
      let set := (follow[completion.step]?).getD 0
      if known.any (·.1 == completion.production) then
        known.map fun (production, old) =>
          (production, if production = completion.production then old ||| set else old)
      else known ++ [(completion.production, set)])
    (Array.replicate automaton.states.size [])

end Automaton

end ReservedWords.Lalr
