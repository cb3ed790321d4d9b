import ReservedWords.Grammar.Basic
import ReservedWords.Grammar.Pattern

/-!
Terminals: the patterns of the named terminals, and the names of those that stand in rules without one.
A literal in a rule is the terminal that is defined by it, if there is one; else it gets a name made
from its text, if no terminal has that name, or a numbered one.
-/

namespace ReservedWords.Grammar

variable [Installation]

/-- A terminal with its pattern. -/
structure Terminal where
  name : String
  pattern : Pattern
  deriving DecidableEq, Repr

namespace Body

/-- A step that fails inside the notation's own rules. -/
def visit {α : Type} (result : Option α) : Except Failure α :=
  match result with
  | some value => .ok value
  | none => .error (.rejected .visitFailed)

/-- The number of a repetition inside a terminal. -/
def count (text : String) : Except Failure Int :=
  visit (numberOf? text)

/-- The sign for a counted repetition. -/
def countSign (low : String) (high : Option String) : Except Failure String := do
  let least ← count low
  match high with
  | none => return "\x7b" ++ toString least ++ "\x7d"
  | some high =>
    let most ← count high
    if most < least then throw (.rejected .badRange)
    return "\x7b" ++ toString least ++ "," ++ toString most ++ "\x7d"

mutual

/-- The pattern of a terminal's definition. A template that is used has none, which matters only
where it is part of something else. -/
def pattern : Body → Except Failure (Option Pattern)
  | .literal text => do return some (← text.pattern)
  | .range first last => do return some (← Literal.rangePattern first last)
  | .symbol _ | .use _ _ | .reference _ => .ok none
  | .included body => pattern body
  | .sequence [] => .ok (some (Pattern.concatenate []))
  | .sequence [part] => pattern part
  | .sequence parts => do
    let patterns ← patterns parts
    return some (Pattern.concatenate (← visit (patterns.mapM id)))
  | .choice [option] => pattern option
  | .choice options => do
    let patterns ← patterns options
    let alternatives ← visit (patterns.mapM id)
    return some (← visit (Pattern.alternate alternatives).toOption)
  | .named body _ => do
    discard (pattern body)
    throw (.rejected .aliasInTerminal)
  | .bracket body => do
    let inner ← visit (← pattern body)
    return some (inner.repeated "?")
  | .repeated body sign => do
    let inner ← visit (← pattern body)
    return some (inner.repeated sign.sign)
  | .counted body low high => do
    let inner ← pattern body
    let sign ← countSign low high
    return some ((← visit inner).repeated sign)

/-- The patterns of some bodies. -/
def patterns : List Body → Except Failure (List (Option Pattern))
  | [] => .ok []
  | body :: bodies => do
    let first ← pattern body
    return first :: (← patterns bodies)

end

/-- Whether a body holds one sequence only, and nothing in it. -/
def isEmpty (body : Body) : Bool :=
  let sequences := body.parts.filter fun part =>
    match part with
    | .sequence _ => true
    | _ => false
  match sequences with
  | [.sequence []] => true
  | _ => false

end Body

namespace Terminal

/-- The terminal of a definition. -/
def ofDefinition (name : String) (body : Body) : Except Failure Terminal := do
  discard body.literalPatterns
  match ← body.pattern with
  | some pattern => return ⟨name, pattern⟩
  | none => throw (.defect .brokenAssumption)

/-- The terminals that have a definition. -/
def ofGrammar (grammar : Grammar) : Except Failure (List Terminal) := do
  let defined := grammar.terminals.filterMap fun (name, body) => body.map fun body => (name, body)
  match defined.find? fun (_, body) => body.isEmpty with
  | some (name, _) => throw (.rejected (.emptyTerminal name))
  | none => defined.mapM fun (name, body) => ofDefinition name body

/-- The names of texts that are punctuation or blanks. -/
def punctuationNames : List (String × String) :=
  [ (".", "DOT"), (",", "COMMA"), (":", "COLON"), (";", "SEMICOLON"), ("+", "PLUS"),
    ("-", "MINUS"), ("*", "STAR"), ("/", "SLASH"), ("\\", "BACKSLASH"), ("|", "VBAR"),
    ("?", "QMARK"), ("!", "BANG"), ("@", "AT"), ("#", "HASH"), ("$", "DOLLAR"),
    ("%", "PERCENT"), ("^", "CIRCUMFLEX"), ("&", "AMPERSAND"), ("_", "UNDERSCORE"),
    ("<", "LESSTHAN"), (">", "MORETHAN"), ("=", "EQUAL"), ("\"", "DBLQUOTE"), ("'", "QUOTE"),
    ("\x60", "BACKQUOTE"), ("~", "TILDE"), ("(", "LPAR"), (")", "RPAR"), ("\x7b", "LBRACE"),
    ("\x7d", "RBRACE"), ("[", "LSQB"), ("]", "RSQB"), ("\n", "NEWLINE"), ("\r\n", "CRLF"),
    ("\t", "TAB"), (" ", "SPACE")]

/-- The capital letters of the small ones outside ASCII whose capitals are in ASCII. -/
def foldedCapitals : List (Char × String) :=
  [ ('\u0131', "I"), ('\u017f', "S"), ('\u00df', "SS"), ('\ufb00', "FF"), ('\ufb01', "FI"),
    ('\ufb02', "FL"), ('\ufb03', "FFI"), ('\ufb04', "FFL"), ('\ufb05', "ST"), ('\ufb06', "ST")]

/-- The capital form of one character of a name, if it is in ASCII. -/
def capital? (c : Char) : Option String :=
  if Lexeme.isLower c then some (String.singleton c.toUpper)
  else if Lexeme.isUpper c || Lexeme.isNameDigit c || c = '_' then some (String.singleton c)
  else foldedCapitals.lookup c

/-- The name made from a text that is a word: its capitals. A word with a capital outside ASCII never
meets the name of a defined terminal and needs no name of its own. -/
def wordName? (text : List Char) : Option String :=
  match text with
  | [] => none
  | c :: _ =>
    if Lexeme.isNameDigit c then none else (text.mapM capital?).map fun parts => "".intercalate parts

/-- The name that a pattern suggests: that of a punctuation mark, or the capitals of a word. -/
def suggestion? : Pattern → Option String
  | .literal value _ =>
    value.chars?.bind fun chars =>
      (punctuationNames.lookup (String.ofList chars)).or (wordName? chars)
  | .regexp _ _ => none

/-- A name for a pattern that no terminal has, if it suggests one. -/
def suggestedName? (terminals : List Terminal) (pattern : Pattern) : Option String :=
  (suggestion? pattern).filter fun name => !terminals.any (·.name == name)

/-- The terminal with a pattern; of several, the last. -/
def withPattern? (terminals : List Terminal) (pattern : Pattern) : Option Terminal :=
  terminals.reverse.find? (·.pattern = pattern)

/-- The terminals named so far, and the number of those that have got a numbered name. -/
structure Naming where
  terminals : List Terminal
  numbered : Nat := 0

/-- Names a pattern that stands in a rule, unless it belongs to a terminal already. -/
def Naming.add (naming : Naming) (pattern : Pattern) : Naming :=
  match withPattern? naming.terminals pattern with
  | some _ => naming
  | none =>
    match suggestedName? naming.terminals pattern with
    | some name => { naming with terminals := naming.terminals ++ [⟨name, pattern⟩] }
    | none =>
      { terminals := naming.terminals ++ [⟨"__ANON_" ++ toString naming.numbered, pattern⟩]
        numbered := naming.numbered + 1 }

/-- The symbol for a pattern in a rule: strings are hidden unless the rule keeps everything. -/
def Naming.symbol (naming : Naming) (keepsTokens : Bool) (pattern : Pattern) : Symbol :=
  let hidden :=
    match pattern with
    | .literal _ _ => !keepsTokens
    | .regexp _ _ => false
  ⟨.terminal, ((withPattern? naming.terminals pattern).map Terminal.name).getD "", hidden⟩

/-- Names the literals of a rule and puts symbols in their places. -/
def Naming.nameLiterals (naming : Naming) (keepsTokens : Bool) (body : Body)
    : Except Failure (Naming × Body) := do
  let patterns ← body.literalPatterns
  let naming := patterns.foldl Naming.add naming
  let named := body.rewrite
    { atom := fun atom =>
        match atom.literalPattern? with
        | some (.ok pattern) => .symbol (naming.symbol keepsTokens pattern)
        | _ => atom }
  return (naming, named)

end Terminal

end ReservedWords.Grammar
