import ReservedWords.Text.Blank
import ReservedWords.Text.Digit

/-!
The lexemes of the grammar notation. A text is cut from left to right, at each place by the first
class that fits; blanks, comments and continued lines are skipped. The list of lexemes always ends
with one that says how the text ended: properly, or at a character that starts no lexeme.
-/

namespace ReservedWords.Grammar

/-- The classes of lexemes. -/
inductive LexemeKind where
  | regexp
  | string
  | rule
  | terminal
  | newlineBar
  | newline
  | number
  | override
  | declare
  | extend
  | ignore
  | import
  | modifiers
  | arrow
  | range
  | operator
  | dot
  | leftParenthesis
  | rightParenthesis
  | leftBracket
  | rightBracket
  | leftBrace
  | rightBrace
  | colon
  | comma
  | bar
  | tilde
  /-- The end of the text. -/
  | finish
  /-- A character that starts no lexeme. -/
  | unknown
  deriving DecidableEq, Repr

/-- A lexeme with its text and the place where it starts, counted from one. -/
structure Lexeme where
  kind : LexemeKind
  text : String
  line : Nat
  column : Nat
  deriving DecidableEq, Repr

namespace Lexeme

/-- The result of looking for a lexeme at the start of a text: the text after it. -/
abbrev Match := List Char → Option (List Char)

def isLower (c : Char) : Bool := 'a' ≤ c && c ≤ 'z'

def isUpper (c : Char) : Bool := 'A' ≤ c && c ≤ 'Z'

def isNameDigit (c : Char) : Bool := '0' ≤ c && c ≤ '9'

def isFlag (c : Char) : Bool :=
  c = 'i' || c = 'm' || c = 's' || c = 'l' || c = 'u' || c = 'x'

/-- The text after a given word. -/
def afterWord : (word : List Char) → Match
  | [], text => some text
  | w :: word, c :: text => if w = c then afterWord word text else none
  | _ :: _, [] => none

/-- For a text inside a literal, the text after the quote that ends the literal, and the same for the
text without its first character. An escaped quote or backslash is passed over, unless no quote
comes after it; then the backslash counts as a character of its own. -/
def afterQuote (quote : Char) (allowed : Char → Bool)
    : List Char → Option (List Char) × Option (List Char)
  | [] => (none, none)
  | c :: rest =>
    let (next, afterNext) := afterQuote quote allowed rest
    let here :=
      if c = quote then some rest
      else if !allowed c then none
      else if c = '\\' && (rest.head? = some quote || rest.head? = some '\\') then afterNext.or next
      else next
    (here, next)

/-- A regular expression between slashes, with flags after it. It is not empty. -/
def afterRegexp : Match
  | '/' :: rest =>
    if rest.head? = some '/' then none
    else ((afterQuote '/' (fun _ => true) rest).1).map fun rest => rest.dropWhile isFlag
  | _ => none

/-- A string in double quotes on one line, with or without a mark that its case does not matter. -/
def afterString : Match
  | '"' :: rest =>
    ((afterQuote '"' (· ≠ '\n') rest).1).map fun rest =>
      match rest with
      | 'i' :: rest => rest
      | rest => rest
  | _ => none

/-- A comment to the end of the line, with all blanks before it. -/
def afterComment (text : List Char) : Option (List Char) :=
  match text.dropWhile Text.isBlank with
  | '/' :: '/' :: rest => some (rest.dropWhile (· ≠ '\n'))
  | '#' :: rest => some (rest.dropWhile (· ≠ '\n'))
  | _ => none

/-- A name in letters of one case, with an underscore or not before the first of them. -/
def afterName (isLetter : Char → Bool) (text : List Char) : Option (List Char) :=
  let start := if text.head? = some '_' then text.tail else text
  match start with
  | c :: rest =>
    if isLetter c then some (rest.dropWhile fun d => d = '_' || isLetter d || isNameDigit d)
    else none
  | [] => none

/-- The blanks from the end of a line on. -/
def afterLine (text : List Char) : Option (List Char) :=
  match text with
  | '\n' :: _ | '\r' :: '\n' :: _ => some (text.dropWhile Text.isBlank)
  | _ => none

/-- The end of a line, blanks and a bar. -/
def afterLineBar (text : List Char) : Option (List Char) :=
  match afterLine text with
  | some ('|' :: rest) => some rest
  | _ => none

/-- A backslash at the end of a line. -/
def afterContinuation : Match
  | '\\' :: rest =>
    match rest.dropWhile (· = ' ') with
    | '\n' :: rest => some rest
    | _ => none
  | _ => none

/-- A decimal number with or without a sign. -/
def afterNumber (text : List Char) : Option (List Char) :=
  let start := if text.head? = some '+' || text.head? = some '-' then text.tail else text
  match start with
  | c :: rest => if Text.isDigit c then some (rest.dropWhile Text.isDigit) else none
  | [] => none

/-- Blanks inside a line. -/
def afterGap (text : List Char) : Option (List Char) :=
  match text with
  | c :: _ => if c = ' ' ∨ c = '\t' then some (text.dropWhile fun d => d = ' ' || d = '\t') else none
  | [] => none

/-- The marks before the name of a rule. -/
def afterModifiers (text : List Char) : Option (List Char) :=
  let name (rest : List Char) : Option (List Char) :=
    match rest with
    | c :: _ => if c = '_' || isLower c then some rest else none
    | [] => none
  match text with
  | '!' :: '?' :: rest => name rest
  | '!' :: rest => name rest
  | '?' :: '!' :: rest => name rest
  | '?' :: rest => name rest
  | _ => none

/-- An operator after an expression; a question mark before a name belongs to the name. -/
def afterOperator : Match
  | '+' :: rest | '*' :: rest => some rest
  | '?' :: rest =>
    match rest with
    | c :: _ => if c = '_' || isLower c then none else some rest
    | [] => some rest
  | _ => none

/-- A point that is not followed by another. -/
def afterDot : Match
  | '.' :: rest => if rest.head? = some '.' then none else some rest
  | _ => none

/-- The classes in the order in which they are tried; those without a kind are skipped. -/
def classes : List (Option LexemeKind × Match) :=
  [ (some .regexp, afterRegexp),
    (some .string, afterString),
    (none, afterComment),
    (some .rule, afterName isLower),
    (some .terminal, afterName isUpper),
    (some .newlineBar, afterLineBar),
    (some .newline, afterLine),
    (none, afterContinuation),
    (some .number, afterNumber),
    (none, afterGap),
    (some .override, afterWord "%override".toList),
    (some .declare, afterWord "%declare".toList),
    (some .extend, afterWord "%extend".toList),
    (some .ignore, afterWord "%ignore".toList),
    (some .import, afterWord "%import".toList),
    (some .modifiers, afterModifiers),
    (some .arrow, afterWord ['-', '>']),
    (some .range, afterWord ['.', '.']),
    (some .operator, afterOperator),
    (some .dot, afterDot),
    (some .leftParenthesis, afterWord ['(']),
    (some .rightParenthesis, afterWord [')']),
    (some .leftBracket, afterWord ['[']),
    (some .rightBracket, afterWord [']']),
    (some .leftBrace, afterWord ['\x7b']),
    (some .rightBrace, afterWord ['\x7d']),
    (some .colon, afterWord [':']),
    (some .comma, afterWord [',']),
    (some .bar, afterWord ['|']),
    (some .tilde, afterWord ['~'])]

/-- The class of the lexeme that a text starts with, and the text after it. -/
def first? (text : List Char) : Option (Option LexemeKind × List Char) :=
  classes.findSome? fun (kind, after) => (after text).map fun rest => (kind, rest)

/-- The place after a text that starts at a place. -/
def placeAfter (line column : Nat) (text : List Char) : Nat × Nat :=
  text.foldl (fun (line, column) c => if c = '\n' then (line + 1, 1) else (line, column + 1))
    (line, column)

/-- Cuts a text that starts at a place. `last` is the place of the lexeme before it, where the end of
the text is reported. -/
def cut : (fuel : Nat) → (line column : Nat) → (last : Nat × Nat) → List Char → List Lexeme
  | 0, line, column, _, _ => [⟨.unknown, "", line, column⟩]
  | fuel + 1, line, column, last, text =>
    if text = [] then [⟨.finish, "", last.1, last.2⟩]
    else
      match first? text with
      | none => [⟨.unknown, String.ofList (text.take 1), line, column⟩]
      | some (kind, rest) =>
        let taken := text.take (text.length - rest.length)
        let (nextLine, nextColumn) := placeAfter line column taken
        match kind with
        | none => cut fuel nextLine nextColumn last rest
        | some kind =>
          ⟨kind, String.ofList taken, line, column⟩
            :: cut fuel nextLine nextColumn (line, column) rest

/-- The lexemes of a text. -/
def list (text : List Char) : List Lexeme :=
  cut (text.length + 1) 1 1 (1, 1) text

end Lexeme

end ReservedWords.Grammar
