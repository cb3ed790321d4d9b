import ReservedWords.Dictionary
import ReservedWords.Json.Value
import ReservedWords.Text.CodePoint
import ReservedWords.Text.Hexadecimal

/-!
Reading JSON. The reader follows the grammar from left to right and refuses a text with the cause
and the place of its first fault. It admits `NaN`, `Infinity` and `-Infinity` as numbers, takes the
last value of a repeated member at the place of the first, and bounds the length of an integer.
-/

namespace ReservedWords.Json

open Text (CodePoint CodeText)

/-- What a text lacks, or has too much of, to be JSON. -/
inductive Cause where
  | value
  | memberName
  | colon
  | comma
  | unterminated
  | control
  | escape
  | unicodeEscape
  | extra
  | byteOrderMark
  deriving DecidableEq, Repr

/-- Why reading stopped: a fault of the text, with the number of characters from the faulty place to
the end, or an integer with more digits than are converted. -/
inductive Stop where
  | fault (cause : Cause) (remaining : Nat)
  | longInteger
  deriving DecidableEq, Repr

/-- A fault of the text at a character, counted from zero. -/
inductive Error where
  | fault (cause : Cause) (line column offset : Nat)
  | longInteger
  deriving DecidableEq, Repr

/-- The wording of a cause. -/
def Cause.message : Cause → String
  | .value => "Expecting value"
  | .memberName => "Expecting property name enclosed in double quotes"
  | .colon => "Expecting ':' delimiter"
  | .comma => "Expecting ',' delimiter"
  | .unterminated => "Unterminated string starting at"
  | .control => "Invalid control character at"
  | .escape => "Invalid \\escape"
  | .unicodeEscape => "Invalid \\uXXXX escape"
  | .extra => "Extra data"
  | .byteOrderMark => "Unexpected UTF-8 BOM (decode using utf-8-sig)"

/-- The longest integer that is converted, in digits. -/
def integerDigits : Nat := 4300

/-- What may stand between the parts of a text. -/
def isGap (c : Char) : Bool :=
  c = ' ' || c = '\t' || c = '\n' || c = '\r'

/-- The rest of a text after the blanks it starts with. -/
def skipGap (text : List Char) : List Char :=
  text.dropWhile isGap

/-- An ASCII digit. -/
def isDigit (c : Char) : Bool :=
  '0' ≤ c && c ≤ '9'

/-- The number written by ASCII digits. -/
def natOfDigits (digits : List Char) : Nat :=
  digits.foldl (fun total c => 10 * total + (c.toNat - 0x30)) 0

/-- The text of some code units: a high surrogate is joined with a low one after it, and a surrogate
left alone stays. -/
def joinUnits (units : List Nat) : CodeText :=
  CodeText.joined (units.map CodePoint.ofNat)

/-- The character that a one-letter escape stands for. -/
def simpleEscape? (c : Char) : Option Char :=
  if c = '"' ∨ c = '\\' ∨ c = '/' then some c
  else if c = 'b' then some '\x08'
  else if c = 'f' then some '\x0c'
  else if c = 'n' then some '\n'
  else if c = 'r' then some '\r'
  else if c = 't' then some '\t'
  else none

/-- Reads the code units of a string up to its closing quote, and gives the text after the quote.
`whole` is the length of the text from the opening quote on. A character is one unit, an escape of
four digits is the unit it writes. -/
def readUnits (whole : Nat) : List Char → Except Stop (List Nat × List Char)
  | [] => .error (.fault .unterminated whole)
  | c :: rest =>
    if c = '"' then .ok ([], rest)
    else if c = '\\' then
      match rest with
      | [] => .error (.fault .unterminated whole)
      | 'u' :: digits =>
        match digits with
        | a :: b :: c :: d :: next :: rest =>
          match Text.hexNumber? [a, b, c, d] with
          | some unit => do
            let (units, after) ← readUnits whole (next :: rest)
            return (unit :: units, after)
          | none => .error (.fault .unicodeEscape (digits.length + 1))
        | _ => .error (.fault .unicodeEscape (digits.length + 1))
      | e :: rest =>
        match simpleEscape? e with
        | some unit => do
          let (units, after) ← readUnits whole rest
          return (unit.toNat :: units, after)
        | none => .error (.fault .escape (rest.length + 2))
    else if c.toNat < 0x20 then .error (.fault .control (rest.length + 1))
    else do
      let (units, after) ← readUnits whole rest
      return (c.toNat :: units, after)

/-- Reads a string after its opening quote. -/
def readString (text : List Char) : Except Stop (CodeText × List Char) := do
  let (units, after) ← readUnits (text.length + 1) text
  return (joinUnits units, after)

/-- The fraction of a number: a point counts only before a digit. -/
def readFraction : List Char → List Char × List Char
  | '.' :: d :: rest =>
    if isDigit d then
      ('.' :: d :: rest.takeWhile isDigit, rest.dropWhile isDigit)
    else ([], '.' :: d :: rest)
  | text => ([], text)

/-- The exponent of a number: its mark counts only if digits follow, after a sign or not. -/
def readExponent (text : List Char) : List Char × List Char :=
  match text with
  | mark :: rest =>
    if mark = 'e' ∨ mark = 'E' then
      let (sign, digits) :=
        match rest with
        | '-' :: digits => (['-'], digits)
        | '+' :: digits => (['+'], digits)
        | digits => ([], digits)
      match digits.takeWhile isDigit with
      | [] => ([], text)
      | found => (mark :: sign ++ found, digits.dropWhile isDigit)
    else ([], text)
  | [] => ([], text)

/-- The digits before the point: a zero stands alone. -/
def readWhole : List Char → Option (List Char × List Char)
  | '0' :: rest => some (['0'], rest)
  | text =>
    match text.takeWhile isDigit with
    | [] => none
    | digits => some (digits, text.dropWhile isDigit)

/-- Reads a number. -/
def readNumber (text : List Char) : Except Stop (Value CodeText × List Char) :=
  let (negative, digitsOn) :=
    match text with
    | '-' :: rest => (true, rest)
    | _ => (false, text)
  match readWhole digitsOn with
  | none => .error (.fault .value text.length)
  | some (digits, rest) =>
    let (fraction, rest) := readFraction rest
    let (exponent, rest) := readExponent rest
    if fraction.isEmpty && exponent.isEmpty then
      if integerDigits < digits.length then .error .longInteger
      else
        let magnitude : Int := natOfDigits digits
        .ok (.integer (if negative then -magnitude else magnitude), rest)
    else
      let sign := if negative then ['-'] else []
      .ok (.decimal (String.ofList (sign ++ digits ++ fraction ++ exponent)), rest)

/-- The words that are values. -/
def words : List (List Char × Value CodeText) :=
  [("null".toList, .null), ("true".toList, .bool true), ("false".toList, .bool false),
    ("NaN".toList, .decimal "NaN"), ("Infinity".toList, .decimal "Infinity"),
    ("-Infinity".toList, .decimal "-Infinity")]

/-- The text after a word it starts with. -/
def afterWord? : (word text : List Char) → Option (List Char)
  | [], text => some text
  | w :: word, c :: text => if w = c then afterWord? word text else none
  | _ :: _, [] => none

/-- Reads one of the words that are values. -/
def readWord? (text : List Char) : Option (Value CodeText × List Char) :=
  words.findSome? fun (word, value) => (afterWord? word text).map fun rest => (value, rest)

/-- The members of an object: a repeated name has the last value, at its first place. -/
def lastMembers (members : List (CodeText × Value CodeText)) : List (CodeText × Value CodeText) :=
  members.foldl (fun known member => Dictionary.upsert member.1 member.2 known) []

mutual

/-- Reads a value; `fuel` bounds the depth of the calls; two for every character are enough. -/
def readValue : (fuel : Nat) → List Char → Except Stop (Value CodeText × List Char)
  | 0, text => .error (.fault .value text.length)
  | fuel + 1, text =>
    match text with
    | '"' :: rest => do
      let (content, rest) ← readString rest
      return (.string content, rest)
    | '[' :: rest =>
      match skipGap rest with
      | ']' :: rest => .ok (.array [], rest)
      | rest => do
        let (items, rest) ← readItems fuel rest
        return (.array items, rest)
    | '\x7b' :: rest =>
      match skipGap rest with
      | '\x7d' :: rest => .ok (.object [], rest)
      | rest => do
        let (members, rest) ← readMembers fuel rest
        return (.object (lastMembers members), rest)
    | _ =>
      match readWord? text with
      | some result => .ok result
      | none => readNumber text

/-- Reads the items of an array up to its closing bracket. -/
def readItems : (fuel : Nat) → List Char → Except Stop (List (Value CodeText) × List Char)
  | 0, text => .error (.fault .value text.length)
  | fuel + 1, text => do
    let (item, rest) ← readValue fuel text
    match skipGap rest with
    | ']' :: rest => return ([item], rest)
    | ',' :: rest =>
      let (items, rest) ← readItems fuel (skipGap rest)
      return (item :: items, rest)
    | rest => .error (.fault .comma rest.length)

/-- Reads the members of an object up to its closing brace. -/
def readMembers : (fuel : Nat) → List Char
    → Except Stop (List (CodeText × Value CodeText) × List Char)
  | 0, text => .error (.fault .memberName text.length)
  | fuel + 1, text =>
    match text with
    | '"' :: rest => do
      let (name, rest) ← readString rest
      match skipGap rest with
      | ':' :: rest =>
        let (value, rest) ← readValue fuel (skipGap rest)
        match skipGap rest with
        | '\x7d' :: rest => return ([(name, value)], rest)
        | ',' :: rest =>
          let (members, rest) ← readMembers fuel (skipGap rest)
          return ((name, value) :: members, rest)
        | rest => .error (.fault .comma rest.length)
      | rest => .error (.fault .colon rest.length)
    | _ => .error (.fault .memberName text.length)

end

/-- Reads a whole text: one value with blanks around it. -/
def readText (text : List Char) : Except Stop (Value CodeText) :=
  if text.head? = some '\ufeff' then .error (.fault .byteOrderMark text.length)
  else do
    let start := skipGap text
    let (value, rest) ← readValue (2 * start.length + 2) start
    match skipGap rest with
    | [] => return value
    | rest => .error (.fault .extra rest.length)

/-- The place of a character: its line, its column and its offset, the first two from one. -/
def place (text : List Char) (remaining : Nat) : Nat × Nat × Nat :=
  let offset := text.length - remaining
  let before := text.take offset
  let column := (before.reverse.takeWhile (· ≠ '\n')).length + 1
  (before.count '\n' + 1, column, offset)

/-- The value that a text stands for. -/
def read (text : String) : Except Error (Value CodeText) :=
  match readText text.toList with
  | .ok value => .ok value
  | .error .longInteger => .error .longInteger
  | .error (.fault cause remaining) =>
    let (line, column, offset) := place text.toList remaining
    .error (.fault cause line column offset)

/-- The wording of a fault names its line, column and offset. -/
def Error.message : Error → String
  | .fault cause line column offset =>
    cause.message ++ ": line " ++ toString line ++ " column " ++ toString column ++ " (char "
      ++ toString offset ++ ")"
  | .longInteger =>
    "Exceeds the limit (" ++ toString integerDigits ++ " digits) for integer string conversion"

end ReservedWords.Json
