import ReservedWords.Text.CodePoint
import ReservedWords.Text.Hexadecimal
import ReservedWords.Text.Printable

/-!
Quoted texts, as messages show names and images. A text stands in single quotes unless it holds a
single quote and no double quote; what is not printable is written by its code point.
-/

namespace ReservedWords.Text

/-- Single quotes are preferred, double quotes spare an escape. -/
def quoteFor (text : CodeText) : Char :=
  if text.contains (.char '\x27') && !text.contains (.char '"') then '"' else '\x27'

/-- The shortest of the three numeric escapes that holds the code point. -/
def numericEscape (code : Nat) : List Char :=
  if code < 0x100 then '\\' :: 'x' :: hexDigits 2 code
  else if code < 0x10000 then '\\' :: 'u' :: hexDigits 4 code
  else '\\' :: 'U' :: hexDigits 8 code

/-- What stands for one code point between the quotes. No surrogate is printable. -/
def quotedPoint (quote : Char) : CodePoint → List Char
  | .char c =>
    if c = quote ∨ c = '\\' then ['\\', c]
    else if c = '\n' then ['\\', 'n']
    else if c = '\r' then ['\\', 'r']
    else if c = '\t' then ['\\', 't']
    else if isPrintable c then [c]
    else numericEscape c.toNat
  | .surrogate index => numericEscape (CodePoint.surrogate index).toNat

/-- The quoted form of a text. -/
def quoted (text : CodeText) : String :=
  let quote := quoteFor text
  String.ofList (quote :: text.flatMap (quotedPoint quote) ++ [quote])

end ReservedWords.Text
