import ReservedWords.Lalr.Lookahead

/-!
Parse tables. A state shifts a terminal if it has a step for it, else it reduces by the complete rule
that the terminal may follow; of several such rules one must have the highest priority, or the grammar
has no table.
-/

namespace ReservedWords.Lalr

/-- What a state does on a terminal. -/
inductive Action where
  | shift (state : Nat)
  | reduce (production : Nat)
  deriving DecidableEq, Repr

/-- A state with its lookaheads resolved. -/
structure Row where
  shifts : List (Nat × Nat)
  gotos : List (Nat × Nat)
  reductions : List (Nat × TerminalSet)

/-- A parse table. -/
structure Table where
  productions : Array Production
  rows : Array Row
  finish : Nat

namespace Table

/-- The rules that are complete and may be followed by a terminal. -/
def candidates (reductions : List (Nat × TerminalSet)) (terminal : Nat) : List Nat :=
  (reductions.filter fun (_, set) => set.contains terminal).map Prod.fst

/-- The one rule with the highest priority, if there is only one. -/
def choose? (productions : Array Production) (rules : List Nat) : Option Nat :=
  let priority (rule : Nat) : Int := ((productions[rule]?).map Production.priority).getD 0
  match sorted rules fun first second => decide (priority second ≤ priority first) with
  | [] => none
  | [rule] => some rule
  | best :: second :: _ => if priority second < priority best then some best else none

/-- The terminals of some steps with the states they lead to. -/
def shiftsOf (steps : List (Symbol × Nat)) : List (Nat × Nat) :=
  steps.filterMap fun (symbol, target) =>
    match symbol with
    | .terminal terminal => some (terminal, target)
    | .rule _ => none

/-- The rules of some steps with the states they lead to. -/
def gotosOf (steps : List (Symbol × Nat)) : List (Nat × Nat) :=
  steps.filterMap fun (symbol, target) =>
    match symbol with
    | .rule rule => some (rule, target)
    | .terminal _ => none

/-- Whether some terminal may follow several rules of a state, none of which goes first. -/
def hasConflict (productions : Array Production) (terminals : Nat)
    (reductions : List (Nat × TerminalSet)) : Bool :=
  (List.range (terminals + 1)).any fun terminal =>
    match candidates reductions terminal with
    | [] | [_] => false
    | rules => (choose? productions rules).isNone

/-- The parse table of a grammar; there is none if two rules can be complete at once. -/
def ofSource? (source : Source) : Option Table :=
  let automaton := Automaton.ofSource source
  let lookaheads := automaton.lookaheads source.start
  if lookaheads.any (hasConflict automaton.productions source.terminals) then none
  else
    some
      { productions := automaton.productions
        finish := source.finish
        rows := automaton.states.mapIdx fun index state =>
          { shifts := shiftsOf state.steps
            gotos := gotosOf state.steps
            reductions := (lookaheads[index]?).getD [] } }

/-- What a state does on a terminal. -/
def action? (table : Table) (state terminal : Nat) : Option Action :=
  (table.rows[state]?).bind fun row =>
    match row.shifts.lookup terminal with
    | some target => some (.shift target)
    | none => (choose? table.productions (candidates row.reductions terminal)).map .reduce

/-- The terminals on which a state does something, the end of the text included. -/
def terminalsOf (table : Table) (row : Row) : List Nat :=
  (List.range (table.finish + 1)).filter fun terminal =>
    (row.shifts.lookup terminal).isSome || row.reductions.any fun (_, set) => set.contains terminal

/-- The result of giving a terminal to a parser. -/
inductive Outcome where
  /-- The terminal has been taken; the states are stacked, the last first. -/
  | shifted (stack : List Nat)
  /-- The terminal is not possible here. -/
  | stuck (stack : List Nat)
  deriving DecidableEq, Repr

/-- Gives a terminal to a parser: it reduces as long as its state says so, then takes the terminal.
`fuel` bounds the number of reductions. -/
def feed (table : Table) (terminal : Nat) : (fuel : Nat) → (stack : List Nat) → Outcome
  | 0, stack => .stuck stack
  | fuel + 1, stack =>
    match table.action? (stack.head?.getD 0) terminal with
    | none => .stuck stack
    | some (.shift target) => .shifted (target :: stack)
    | some (.reduce index) =>
      match table.productions[index]? with
      | none => .stuck stack
      | some production =>
        let below := stack.drop production.symbols.length
        let state := below.head?.getD 0
        match ((table.rows[state]?).bind fun row => row.gotos.lookup production.origin) with
        | some target => table.feed terminal fuel (target :: below)
        | none => .stuck below

/-- More reductions than can follow each other before a terminal is taken. -/
def reductionBound (table : Table) (stack : List Nat) : Nat :=
  (stack.length + 1) * (table.productions.size + 1)

/-- Gives terminals to a parser until one is not possible; gives the states stacked then. -/
def run (table : Table) : List Nat → (stack : List Nat) → Outcome
  | [], stack => .shifted stack
  | terminal :: rest, stack =>
    match table.feed terminal (table.reductionBound stack) stack with
    | .shifted stack => table.run rest stack
    | .stuck stack => .stuck stack

end Table

end ReservedWords.Lalr
