import ReservedWords.Grammar.Error
import ReservedWords.Regexp
import ReservedWords.Sorting
import ReservedWords.Text.Lines

/-!
Patterns: what terminals match. A terminal that is one string matches just that string; every other
terminal matches a regular expression, which is put together from the parts of its definition.
-/

namespace ReservedWords.Grammar

/-- What a terminal matches: a text or a regular expression, with flags. -/
inductive Pattern where
  | literal (value : Text.CodeText) (flags : List Char)
  | regexp (source : Text.CodeText) (flags : List Char)
  deriving DecidableEq, Repr

namespace Pattern

open Text (CodeText)

variable [Installation]

/-- The characters that have a meaning of their own in a regular expression, and blanks. -/
def isSpecial (c : Char) : Bool :=
  "()[]\x7b\x7d?*+-|^$\\.&~# \t\n\r\x0b\x0c".toList.contains c

/-- The regular expression that matches just a text. -/
def escape (text : CodeText) : CodeText :=
  text.flatMap fun point =>
    match point with
    | .char c => if isSpecial c then [.char '\\', .char c] else [.char c]
    | .surrogate _ => [point]

/-- A regular expression under flags, each in a group of its own. -/
def underFlags (flags : List Char) (expression : CodeText) : CodeText :=
  flags.foldl (fun inner flag => "(?" ++ .char flag :: .char ':' :: inner ++ ")") expression

/-- The regular expression of a pattern. -/
def expression : Pattern → CodeText
  | literal value flags => underFlags flags (escape value)
  | regexp source flags => underFlags flags source

/-- The flags of a pattern. -/
def flags : Pattern → List Char
  | literal _ flags => flags
  | regexp _ flags => flags

/-- The text that a pattern is made of. -/
def source : Pattern → CodeText
  | literal value _ => value
  | regexp source _ => source

/-- The lengths that a pattern can match. -/
def width : Pattern → Except Regexp.Fault Regexp.Width
  | literal value _ => .ok ⟨value.length, value.length⟩
  | pattern => Regexp.widthOf pattern.expression

/-- The order in which alternatives are tried: the longest first, then the longest at least, then the
longest source. -/
def isBefore (first second : Regexp.Width × Nat) : Bool :=
  if first.1.most ≠ second.1.most then decide (second.1.most < first.1.most)
  else if first.1.least ≠ second.1.least then decide (second.1.least < first.1.least)
  else decide (second.2 ≤ first.2)

/-- A pattern with what its place among alternatives depends on. -/
def ranked (pattern : Pattern) : Except Regexp.Fault ((Regexp.Width × Nat) × Pattern) := do
  return ((← pattern.width, pattern.source.length), pattern)

/-- One pattern after the other. -/
def concatenate : List Pattern → Pattern
  | [] => .literal "" []
  | [pattern] => pattern
  | patterns => .regexp (patterns.flatMap expression) []

/-- One pattern or another. -/
def alternate : List Pattern → Except Regexp.Fault Pattern
  | [pattern] => .ok pattern
  | patterns => do
    let ranks ← patterns.mapM ranked
    let ordered := (sorted ranks fun first second => isBefore first.1 second.1).map Prod.snd
    let bars := [.char '|'].intercalate (ordered.map expression)
    return .regexp ("(?:" ++ bars ++ ")") []

/-- A pattern repeated as a sign or a count says. -/
def repeated (pattern : Pattern) (sign : String) : Pattern :=
  .regexp ("(?:" ++ pattern.expression ++ ")" ++ sign) pattern.flags

end Pattern

namespace Literal

open Text (CodePoint CodeText)

/-- Flags as a set. -/
def flagSet (flags : List Char) : List Char :=
  sorted flags.eraseDups fun first second => decide (first.toNat ≤ second.toNat)

/-- Whether a character may close a literal. -/
def isQuote (c : Char) : Bool := c = '"' || c = '/'

/-- The flags after the closing quote. -/
def flags (text : List Char) : List Char :=
  (text.reverse.takeWhile fun c => !isQuote c).reverse

/-- What stands between the quotes. -/
def inner (text : List Char) : List Char :=
  ((text.reverse.dropWhile fun c => !isQuote c).drop 1).reverse.drop 1

/-- Writes every backslash twice unless it starts an escape that is evaluated. A single backslash at
the end starts nothing. -/
def doubleBackslashes : List Char → Option (List Char)
  | [] => some []
  | '\\' :: c :: rest =>
    (doubleBackslashes rest).map fun rest =>
      if c = '\\' then '\\' :: '\\' :: '\\' :: '\\' :: rest
      else if "Uuxnftr".toList.contains c then '\\' :: c :: rest
      else '\\' :: '\\' :: c :: rest
  | ['\\'] => none
  | c :: rest => (doubleBackslashes rest).map (c :: ·)

/-- Drops the backslash before every double quote. -/
def plainQuotes : List Char → List Char
  | [] => []
  | '\\' :: '"' :: rest => '"' :: plainQuotes rest
  | c :: rest => c :: plainQuotes rest

/-- The code point that some hexadecimal digits write, which may be a surrogate. -/
def pointOfDigits? (digits : List Char) : Option CodePoint := do
  let code ← Text.hexNumber? digits
  if code < 0x110000 then return .ofNat code
  failure

/-- Evaluates escapes. One that is not complete has no value, nor has a null character. -/
def evaluate : List Char → Option CodeText
  | [] => some []
  | '\\' :: '\\' :: rest => (evaluate rest).map (.char '\\' :: ·)
  | '\\' :: '"' :: rest => (evaluate rest).map (.char '"' :: ·)
  | '\\' :: 'n' :: rest => (evaluate rest).map (.char '\n' :: ·)
  | '\\' :: 't' :: rest => (evaluate rest).map (.char '\t' :: ·)
  | '\\' :: 'f' :: rest => (evaluate rest).map (.char '\x0c' :: ·)
  | '\\' :: 'r' :: rest => (evaluate rest).map (.char '\r' :: ·)
  | '\\' :: 'x' :: a :: b :: rest => do
    return (← pointOfDigits? [a, b]) :: (← evaluate rest)
  | '\\' :: 'u' :: a :: b :: c :: d :: rest => do
    return (← pointOfDigits? [a, b, c, d]) :: (← evaluate rest)
  | '\\' :: 'U' :: a :: b :: c :: d :: e :: f :: g :: h :: rest => do
    return (← pointOfDigits? [a, b, c, d, e, f, g, h]) :: (← evaluate rest)
  | '\\' :: _ | '\x00' :: _ => none
  | c :: rest => (evaluate rest).map (.char c :: ·)

/-- The value of what stands between quotes. -/
def value (inner : List Char) : Except Failure CodeText :=
  match (doubleBackslashes inner).bind (evaluate <| Text.normalizeNewlines <| plainQuotes ·) with
  | some value => .ok value
  | none => .error (.rejected .badEscape)

/-- Two backslashes in a row become one. -/
def singleBackslashes : CodeText → CodeText
  | [] => []
  | .char '\\' :: .char '\\' :: rest => .char '\\' :: singleBackslashes rest
  | point :: rest => point :: singleBackslashes rest

/-- The pattern of a literal. -/
def pattern (literal : Literal) : Except Failure Pattern := do
  let text := literal.text.toList
  let flags := flagSet (flags text)
  if literal.kind = .regexp && text.contains '\n' && !flags.contains 'x' then
    throw (.rejected .newlineInRegexp)
  let value ← value (inner text)
  if value = [] then throw (.rejected (.emptyLiteral literal.text))
  match literal.kind with
  | .string => return .literal (singleBackslashes value) flags
  | .regexp => return .regexp value flags

/-- What stands between the first and the last character of a text. -/
def withoutEnds (text : String) : List Char :=
  text.toList.tail.dropLast

/-- The pattern of a range. Both ends must be one character, and stand in it as written. -/
def rangePattern (first last : String) : Except Failure Pattern := do
  let low := withoutEnds first
  let high := withoutEnds last
  let lowValue ← value low
  let highValue ← value high
  if lowValue.length = 1 ∧ highValue.length = 1 then
    return .regexp (('[' :: low ++ '-' :: high ++ [']']).map .char) []
  throw (.rejected .visitFailed)

end Literal

namespace Body

/-- The pattern of a literal or a range; nothing for other parts. -/
def literalPattern? : Body → Option (Except Failure Pattern)
  | .literal text => some text.pattern
  | .range first last => some (Literal.rangePattern first last)
  | _ => none

/-- The patterns of the literals and ranges of a body, in the order in which they are evaluated. -/
def literalPatterns (body : Body) : Except Failure (List Pattern) :=
  (body.parts.filterMap literalPattern?).mapM id

end Body

end ReservedWords.Grammar
