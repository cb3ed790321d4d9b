import ReservedWords.Grammar.Body
import ReservedWords.Grammar.Lexeme

/-!
Statements: what a grammar text says, one after the other. The reader goes through the lexemes once
and stops at the first that no continuation admits, which is the place a syntax error is reported at.
-/

namespace ReservedWords.Grammar

/-- A definition as written. -/
inductive Definition where
  | rule (modifiers name : String) (parameters : List String) (priority : Option String)
      (body : Body)
  | terminal (name : String) (priority : Option String) (body : Body)

/-- What is taken from an imported grammar. -/
inductive ImportNames where
  /-- The last name of the path. -/
  | last
  /-- The last name of the path, under another name. -/
  | as (name : String)
  /-- Several names. -/
  | list (names : List String)
  deriving DecidableEq, Repr

/-- A statement. -/
inductive Statement where
  | define (definition : Definition)
  | override (definition : Definition)
  | extend (definition : Definition)
  | ignore (body : Body)
  | declare (symbols : List Symbol)
  | import (relative : Bool) (path : List String) (names : ImportNames)

namespace Statement

/-- A reader of lexemes fails at a lexeme. -/
abbrev Reader := StateT (List Lexeme) (Except Lexeme)

/-- The lexeme that stands in for one after the end. -/
def afterEnd : Lexeme := ⟨.finish, "", 1, 1⟩

/-- The next lexeme, which stays. -/
def peek : Reader Lexeme := do
  return (← get).head?.getD afterEnd

/-- The kind of the next lexeme. -/
def peekKind : Reader LexemeKind := do
  return (← peek).kind

/-- Takes the next lexeme. -/
def skip : Reader Unit :=
  modify List.tail

/-- Fails at the next lexeme. -/
def refuse {α : Type} : Reader α := do
  throw (← peek)

/-- Takes a lexeme of the given kind. -/
def expect (kind : LexemeKind) : Reader Lexeme := do
  let lexeme ← peek
  if lexeme.kind = kind then
    skip
    return lexeme
  refuse

/-- Takes the next lexeme if it is of the given kind. -/
def accept (kind : LexemeKind) : Reader Bool := do
  if (← peekKind) = kind then
    skip
    return true
  return false

/-- Takes the name of a rule or of a terminal. -/
def anyName : Reader String := do
  let lexeme ← peek
  if lexeme.kind = .rule ∨ lexeme.kind = .terminal then
    skip
    return lexeme.text
  refuse

/-- Takes the symbol of a rule or of a terminal. -/
def anySymbol : Reader Symbol := do
  let lexeme ← peek
  match lexeme.kind with
  | .rule =>
    skip
    return .ofRule lexeme.text
  | .terminal =>
    skip
    return .ofTerminal lexeme.text
  | _ => refuse

/-- Takes items as long as a separator follows. -/
def separated {α : Type} (separator : LexemeKind) (item : Reader α)
    : (fuel : Nat) → Reader (List α)
  | 0 => refuse
  | fuel + 1 => do
    let first ← item
    if ← accept separator then
      return first :: (← separated separator item fuel)
    return [first]

/-- Whether an expression can start with a lexeme. -/
def startsExpression (kind : LexemeKind) : Bool :=
  kind = .leftParenthesis || kind = .leftBracket || kind = .rule || kind = .terminal
    || kind = .string || kind = .regexp

/-- The sign of a repetition. -/
def repeatOf (text : String) : Repeat :=
  if text = "?" then .optional else if text = "*" then .many else .some

mutual

/-- Reads alternatives between bars. -/
def readOptions : (fuel : Nat) → Reader (List Body)
  | 0 => refuse
  | fuel + 1 => do
    let parts ← readParts fuel
    let body : Body := .sequence parts
    let option ←
      if ← accept .arrow then do
        let label ← expect .rule
        pure (Body.named body (.ofRule label.text))
      else pure body
    let more ← if ← accept .bar then pure true else accept .newlineBar
    if more then return option :: (← readOptions fuel)
    return [option]

/-- Reads expressions as long as one can start. -/
def readParts : (fuel : Nat) → Reader (List Body)
  | 0 => refuse
  | fuel + 1 => do
    if startsExpression (← peekKind) then
      let part ← readPart fuel
      return part :: (← readParts fuel)
    return []

/-- Reads an atom with the repetition after it. -/
def readPart : (fuel : Nat) → Reader Body
  | 0 => refuse
  | fuel + 1 => do
    let atom ← readAtom fuel
    let next ← peek
    if next.kind = .operator then
      skip
      return .repeated atom (repeatOf next.text)
    if next.kind = .tilde then
      skip
      let low ← expect .number
      if ← accept .range then
        let high ← expect .number
        return .counted atom low.text (some high.text)
      return .counted atom low.text none
    return atom

/-- Reads a group, a bracket or a value. -/
def readAtom : (fuel : Nat) → Reader Body
  | 0 => refuse
  | fuel + 1 => do
    if ← accept .leftParenthesis then
      let options ← readOptions fuel
      discard (expect .rightParenthesis)
      return .choice options
    if ← accept .leftBracket then
      let options ← readOptions fuel
      discard (expect .rightBracket)
      return .bracket (.choice options)
    readValue fuel

/-- Reads a name, a literal, a range or a template with its arguments. -/
def readValue : (fuel : Nat) → Reader Body
  | 0 => refuse
  | fuel + 1 => do
    let lexeme ← peek
    match lexeme.kind with
    | .terminal =>
      skip
      return .symbol (.ofTerminal lexeme.text)
    | .regexp =>
      skip
      return .literal ⟨.regexp, lexeme.text⟩
    | .string =>
      skip
      if ← accept .range then
        let last ← expect .string
        return .range lexeme.text last.text
      return .literal ⟨.string, lexeme.text⟩
    | .rule =>
      skip
      if ← accept .leftBrace then
        let arguments ← readArguments fuel
        discard (expect .rightBrace)
        return .use (.ofRule lexeme.text) arguments
      return .symbol (.ofRule lexeme.text)
    | _ => refuse

/-- Reads the arguments of a template between commas. -/
def readArguments : (fuel : Nat) → Reader (List Body)
  | 0 => refuse
  | fuel + 1 => do
    let argument ← readValue fuel
    if ← accept .comma then
      return argument :: (← readArguments fuel)
    return [argument]

end

/-- More calls than reading the next lexemes can take: six for each, and some at the end. -/
def fuel : Reader Nat := do
  return 6 * ((← get).length + 2)

/-- Reads the body of a definition after its colon, up to the end of the line. -/
def readBody : Reader Body := do
  let options ← readOptions (← fuel)
  discard (expect .newline)
  return .choice options

/-- Reads a priority. -/
def readPriority : Reader (Option String) := do
  if ← accept .dot then
    return some (← expect .number).text
  return none

/-- Reads a definition. -/
def readDefinition : Reader Definition := do
  let first ← peek
  match first.kind with
  | .terminal =>
    skip
    let priority ← readPriority
    discard (expect .colon)
    return .terminal first.text priority (← readBody)
  | .rule | .modifiers =>
    let modifiers ←
      if first.kind = .modifiers then do
        skip
        pure first.text
      else pure ""
    let name ← expect .rule
    let parameters ←
      if ← accept .leftBrace then do
        let names ← separated .comma (expect .rule) (← fuel)
        discard (expect .rightBrace)
        pure (names.map Lexeme.text)
      else pure []
    let priority ← readPriority
    discard (expect .colon)
    return .rule modifiers name.text parameters priority (← readBody)
  | _ => refuse

/-- Reads what is taken from an imported grammar. -/
def readImportNames : Reader ImportNames := do
  match ← peekKind with
  | .leftParenthesis =>
    skip
    let names ← separated .comma anyName (← fuel)
    discard (expect .rightParenthesis)
    return .list names
  | .arrow =>
    skip
    return .as (← anyName)
  | _ => return .last

/-- Reads an import after its keyword. -/
def readImport : Reader Statement := do
  let relative ← accept .dot
  let path ← separated .dot anyName (← fuel)
  let names ← readImportNames
  discard (expect .newline)
  return .import relative path names

/-- Reads symbols up to the end of the line. -/
def readSymbols : (fuel : Nat) → Reader (List Symbol)
  | 0 => refuse
  | fuel + 1 => do
    let symbol ← anySymbol
    if ← accept .newline then return [symbol]
    return symbol :: (← readSymbols fuel)

/-- Reads statements up to the end of the text. -/
def readAll : (fuel : Nat) → Reader (List Statement)
  | 0 => refuse
  | fuel + 1 => do
    match ← peekKind with
    | .finish => return []
    | .newline =>
      skip
      readAll fuel
    | .ignore =>
      skip
      let body ← readBody
      return .ignore body :: (← readAll fuel)
    | .declare =>
      skip
      let symbols ← readSymbols (← Statement.fuel)
      return .declare symbols :: (← readAll fuel)
    | .import =>
      skip
      let statement ← readImport
      return statement :: (← readAll fuel)
    | .override =>
      skip
      let definition ← readDefinition
      return .override definition :: (← readAll fuel)
    | .extend =>
      skip
      let definition ← readDefinition
      return .extend definition :: (← readAll fuel)
    | _ =>
      let definition ← readDefinition
      return .define definition :: (← readAll fuel)

/-- Reads all statements. There must be something to read. -/
def readText : Reader (List Statement) := do
  if (← peekKind) = .finish then refuse
  readAll ((← get).length + 1)

/-- The statements of a list of lexemes, or the first lexeme that is out of place. -/
def ofLexemes (lexemes : List Lexeme) : Except Lexeme (List Statement) :=
  (readText.run lexemes).map Prod.fst

/-- The statements of a text. A line feed is added to it, so that its last line ends. -/
def ofText (text : String) : Except Lexeme (List Statement) :=
  ofLexemes (Lexeme.list (text.toList ++ ['\n']))

end Statement

end ReservedWords.Grammar
