import ReservedWords.Json.Value
import ReservedWords.Text.CodePoint
import ReservedWords.Text.Hexadecimal

/-!
The indented form of a JSON value: two blanks a level, one member or item a line, empty containers
closed at once, and nothing but ASCII.
-/

namespace ReservedWords.Json

open Text (CodePoint CodeText)

/-- The UTF-16 units of a code point: one, or a high and a low surrogate. -/
def units (point : CodePoint) : List Nat :=
  if point.toNat < 0x10000 then [point.toNat]
  else
    [0xD800 + (point.toNat - 0x10000) / 0x400, 0xDC00 + (point.toNat - 0x10000) % 0x400]

/-- The escape of one UTF-16 unit. -/
def unitEscape (unit : Nat) : List Char :=
  '\\' :: 'u' :: Text.hexDigits 4 unit

/-- What stands for a character that is written without its number. -/
def shortForm? (c : Char) : Option (List Char) :=
  if c = '"' ∨ c = '\\' then some ['\\', c]
  else if c = '\n' then some ['\\', 'n']
  else if c = '\r' then some ['\\', 'r']
  else if c = '\t' then some ['\\', 't']
  else if c = '\x0c' then some ['\\', 'f']
  else if c = '\x08' then some ['\\', 'b']
  else if 0x20 ≤ c.toNat ∧ c.toNat < 0x7F then some [c]
  else none

/-- What stands for one code point inside a string. -/
def stringPoint (point : CodePoint) : List Char :=
  match point.char?.bind shortForm? with
  | some form => form
  | none => (units point).flatMap unitEscape

/-- A text between double quotes. -/
def stringForm (text : CodeText) : List Char :=
  '"' :: text.flatMap stringPoint ++ ['"']

/-- The text of an integer. -/
def integerForm (value : Int) : List Char :=
  (toString value).toList

/-- The start of a line at a depth. -/
def newline (depth : Nat) : List Char :=
  '\n' :: List.replicate (2 * depth) ' '

/-- Closes a container: on a line of its own unless nothing stands in it. -/
def enclose (first last : Char) (depth : Nat) : List (List Char) → List Char
  | [] => [first, last]
  | item :: items =>
    first :: newline (depth + 1) ++ item
      ++ items.flatMap (fun next => ',' :: newline (depth + 1) ++ next)
      ++ newline depth ++ [last]

mutual

/-- The form of a value that starts inside a line at the given depth. -/
def form (depth : Nat) : Value CodeText → List Char
  | .null => "null".toList
  | .bool true => "true".toList
  | .bool false => "false".toList
  | .integer value => integerForm value
  | .decimal text => text.toList
  | .string text => stringForm text
  | .array items => enclose '[' ']' depth (itemForms (depth + 1) items)
  | .object members => enclose '\x7b' '\x7d' depth (memberForms (depth + 1) members)

/-- The forms of the items of an array. -/
def itemForms (depth : Nat) : List (Value CodeText) → List (List Char)
  | [] => []
  | item :: items => form depth item :: itemForms depth items

/-- The forms of the members of an object. -/
def memberForms (depth : Nat) : List (CodeText × Value CodeText) → List (List Char)
  | [] => []
  | (name, value) :: members =>
    (stringForm name ++ ':' :: ' ' :: form depth value) :: memberForms depth members

end

/-- The indented form of a value, without a line feed at its end. -/
def print (value : Value CodeText) : String :=
  String.ofList (form 0 value)

end ReservedWords.Json
