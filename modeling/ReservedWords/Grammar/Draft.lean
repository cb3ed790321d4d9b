import ReservedWords.Grammar.Error
import ReservedWords.Grammar.Statement
import ReservedWords.Json.Reader
import ReservedWords.Options

/-!
Drafts: the definitions of a grammar while its statements are carried out. The bodies of terminals are
kept in numbered cells, so that a terminal which stands inside another one stays the same when either
name is defined anew; an extension changes the cell itself.
-/

namespace ReservedWords.Grammar

/-- The options of a rule. -/
structure RuleOptions where
  /-- Nothing that the rule matches is hidden. -/
  keepsTokens : Bool := false
  priority : Int := 0
  deriving DecidableEq, Repr

/-- What a name stands for. -/
inductive Meaning where
  /-- A terminal, with the cell of its body; without one it is only declared. -/
  | terminal (cell : Option Nat)
  /-- A rule or a template; without a body it is only declared. -/
  | rule (parameters : List String) (body : Option Body) (options : RuleOptions)

/-- The class of symbols that a name belongs to. -/
def Meaning.kind : Meaning → SymbolKind
  | .terminal _ => .terminal
  | .rule _ _ _ => .rule

/-- The parameters of a template. -/
def Meaning.parameters : Meaning → List String
  | .terminal _ => []
  | .rule parameters _ _ => parameters

/-- The definitions made so far. -/
structure Draft where
  meanings : Dictionary Meaning := .empty
  cells : List Body := []
  ignored : List String := []

/-- The number that a text writes; nothing if it has too many digits. -/
def numberOf? (text : String) : Option Int :=
  let chars := text.toList
  let digits := if chars.head? = some '+' ∨ chars.head? = some '-' then chars.tail else chars
  if Json.integerDigits < digits.length then none
  else
    let magnitude : Int := digits.foldl (fun total c => 10 * total + Text.digitValue c) 0
    some (if chars.head? = some '-' then -magnitude else magnitude)

/-- A number that a text writes, or a defect. -/
def numberOf (text : String) : Except Failure Int :=
  match numberOf? text with
  | some number => .ok number
  | none => .error (.defect .badValue)

/-- Whether a name starts with two underscores. -/
def isReserved (name : String) : Bool :=
  Options.startsWith name "__"

/-- Whether a name starts with an underscore. -/
def isInlined (name : String) : Bool :=
  Options.startsWith name "_"

namespace Definition

/-- The class of symbols that a definition is for. -/
def kind : Definition → SymbolKind
  | .rule _ _ _ _ _ => .rule
  | .terminal _ _ _ => .terminal

/-- The name that is defined. -/
def name : Definition → String
  | .rule _ name _ _ _ => name
  | .terminal name _ _ => name

/-- The body of a definition. -/
def body : Definition → Body
  | .rule _ _ _ _ body => body
  | .terminal _ _ body => body

/-- The parameters of a definition. -/
def parameters : Definition → List String
  | .rule _ _ parameters _ _ => parameters
  | .terminal _ _ _ => []

/-- Checks the modifiers and the priority of a definition. -/
def options : Definition → Except Failure RuleOptions
  | .rule modifiers name _ priority _ => do
    if modifiers.toList.contains '?' && isInlined name then
      throw (.rejected .inlinedModifier)
    let priority ←
      match priority with
      | none => pure 0
      | some text => numberOf text
    return ⟨modifiers.toList.contains '!', priority⟩
  | .terminal _ priority _ => do
    match priority with
    | none => return {}
    | some text =>
      discard (numberOf text)
      return {}

/-- The same definition with other names. -/
def rename (f : String → String) : Definition → Definition
  | .rule modifiers name parameters priority body =>
    .rule modifiers (f name) (parameters.map f) priority (body.rename f)
  | .terminal name priority body => .terminal (f name) priority (body.rename f)

end Definition

namespace Draft

/-- Rejects a grammar. -/
def reject {α : Type} (error : Error) : Except Failure α :=
  .error (.rejected error)

/-- Gives a name its meaning. A known name must be overridden, an unknown one must not. -/
def setMeaning (draft : Draft) (name : String) (meaning : Meaning) (overriding : Bool)
    : Except Failure Draft :=
  let known := draft.meanings.contains name
  if known && !overriding then reject (.definedTwice meaning.kind name)
  else if !known && overriding then reject (.overridesNothing meaning.kind name)
  else if isReserved name then reject (.reservedName meaning.kind name)
  else .ok { draft with meanings := draft.meanings.insert name meaning }

/-- Carries out a definition. -/
def define (draft : Draft) (definition : Definition) (options : RuleOptions) (overriding : Bool)
    : Except Failure Draft :=
  match definition with
  | .rule _ name parameters _ body =>
    draft.setMeaning name (.rule parameters (some body) options) overriding
  | .terminal name _ body =>
    let cell := draft.cells.length
    setMeaning { draft with cells := draft.cells ++ [body] } name (.terminal (some cell)) overriding

/-- Puts an alternative before those of a body. -/
def addOption (option : Body) : Body → Body
  | .choice options => .choice (option :: options)
  | body => .choice [option, body]

/-- Carries out an extension of a known definition. -/
def extend (draft : Draft) (definition : Definition) : Except Failure Draft :=
  let kind := definition.kind
  let name := definition.name
  match draft.meanings.get? name with
  | none => reject (.extendsNothing kind name)
  | some meaning =>
    if meaning.kind ≠ kind then reject (.extendsOtherKind kind name)
    else if definition.parameters ≠ meaning.parameters then
      reject (.extendsOtherParameters kind name)
    else
      match meaning with
      | .terminal (some cell) =>
        .ok { draft with cells := draft.cells.modify cell (addOption definition.body) }
      | .rule parameters (some body) known =>
        let body := addOption definition.body body
        .ok { draft with meanings := draft.meanings.insert name (.rule parameters body known) }
      | .terminal none | .rule _ none _ => reject (.extendsAbstract kind name)

/-- The single terminal that a body consists of. -/
def singleTerminal? : Body → Option String
  | .choice [.sequence [.symbol ⟨.terminal, name, _⟩]] => some name
  | _ => none

/-- Marks a terminal to be ignored; a body that is no single terminal becomes one of its own. -/
def ignore (draft : Draft) (body : Body) : Draft :=
  match singleTerminal? body with
  | some name => { draft with ignored := draft.ignored ++ [name] }
  | none =>
    let name := "__IGNORE_" ++ toString draft.ignored.length
    { meanings := draft.meanings.insert name (.terminal (some draft.cells.length))
      cells := draft.cells ++ [body]
      ignored := draft.ignored ++ [name] }

/-- Declares a symbol. -/
def declare (draft : Draft) (symbol : Symbol) : Except Failure Draft :=
  let meaning : Meaning :=
    match symbol.kind with
    | .terminal => .terminal none
    | .rule => .rule [] none {}
  draft.setMeaning symbol.name meaning false

/-- Carries out a statement of a grammar whose names are changed by `rename` if it is imported; what is
checked of a definition alone is checked under its own name. Imports are carried out before, and an
imported grammar ignores nothing. -/
def perform (rename : Option (String → String)) (draft : Draft)
    : Statement → Except Failure Draft
  | .define definition => do
    draft.define (renamed definition) (← definition.options) false
  | .override definition => do
    draft.define (renamed definition) (← definition.options) true
  | .extend definition => do
    discard definition.options
    draft.extend (renamed definition)
  | .ignore body => .ok (if rename.isSome then draft else draft.ignore body)
  | .declare symbols =>
    symbols.foldlM (fun draft symbol =>
      draft.declare (match rename with
        | some f => symbol.rename f
        | none => symbol)) draft
  | .import _ _ _ => .ok draft
where
  renamed (definition : Definition) : Definition :=
    match rename with
    | some f => definition.rename f
    | none => definition

/-- The body in a cell. -/
def cell (draft : Draft) (id : Nat) : Body :=
  draft.cells[id]?.getD (.choice [])

/-- A body with the definitions of all cells in the places of references, to a given depth. -/
def close (draft : Draft) : (depth : Nat) → Body → Body
  | 0, body => body
  | depth + 1, body => body.withDefinitions fun id => draft.close depth (draft.cell id)

/-- The whole definition in a cell. No chain of references is longer than the list of cells. -/
def closedCell (draft : Draft) (id : Nat) : Body :=
  draft.close draft.cells.length (draft.cell id)

/-- Checks one name inside a terminal: it must belong to a terminal that has a definition. -/
def checkName (draft : Draft) (terminal : String) (symbol : Symbol) : Except Failure Unit :=
  match symbol.kind with
  | .rule => reject (.ruleInTerminal symbol terminal)
  | .terminal =>
    match draft.meanings.get? symbol.name with
    | some (.terminal (some _)) => .ok ()
    | some (.terminal none) => .error (.defect .brokenAssumption)
    | _ => reject (.undefinedTerminal symbol.name)

/-- The names that stand as values in a body, in the order in which they are visited. -/
def valueNames (body : Body) : List Symbol :=
  body.parts.filterMap fun part =>
    match part with
    | .symbol symbol => some symbol
    | _ => none

/-- Checks the names inside a terminal. -/
def checkTerminal (draft : Draft) (entry : String × Meaning) : Except Failure Unit :=
  match entry.2 with
  | .terminal (some id) => (valueNames (draft.closedCell id)).forM (draft.checkName entry.1)
  | _ => .ok ()

/-- The reference that a name inside a terminal becomes. -/
def referenceOf (draft : Draft) (symbol : Symbol) : Body :=
  match symbol.kind, draft.meanings.get? symbol.name with
  | .terminal, some (.terminal (some id)) => .reference id
  | _, _ => .symbol symbol

/-- The same draft with references in the places of the names inside terminals. -/
def linked (draft : Draft) : Draft :=
  { draft with
    cells := draft.cells.map fun body =>
      body.rewrite
        { atom := fun atom =>
            match atom with
            | .symbol symbol => draft.referenceOf symbol
            | atom => atom } }

/-- The cells that can be reached from some cells in at most `steps` steps, those included. -/
def reach (draft : Draft) : (steps : Nat) → List Nat → List Nat
  | 0, found => found
  | steps + 1, found =>
    let next := (found.flatMap fun id => (draft.cell id).cells).filter fun id => !found.contains id
    if next = [] then found else draft.reach steps (found ++ next.eraseDups)

/-- Whether a cell can be reached from itself. -/
def isRecursive (draft : Draft) (id : Nat) : Bool :=
  (draft.reach draft.cells.length (draft.cell id).cells).contains id

/-- Rejects a terminal that contains itself. -/
def checkRecursion (draft : Draft) (entry : String × Meaning) : Except Failure Unit :=
  match entry.2 with
  | .terminal (some id) =>
    if draft.isRecursive id then reject (.recursiveTerminal entry.1) else .ok ()
  | _ => .ok ()

/-- Puts references in the places of the names inside terminals, once all of them are defined. -/
def link (draft : Draft) : Except Failure Draft := do
  draft.meanings.entries.forM draft.checkTerminal
  let linked := draft.linked
  linked.meanings.entries.forM linked.checkRecursion
  return linked

end Draft

end ReservedWords.Grammar
