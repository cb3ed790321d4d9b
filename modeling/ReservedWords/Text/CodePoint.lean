/-!
Texts of code points. Numeric escapes can write every code point, also a surrogate, which is half of a
pair and no character of its own; a text that comes from escapes is therefore a list of code points,
and a text of characters is one without surrogates.
-/

namespace ReservedWords.Text

/-- A code point: a character, or a surrogate by its distance from the first one. -/
inductive CodePoint where
  | char (c : Char)
  | surrogate (index : Fin 0x800)
  deriving DecidableEq, Repr

namespace CodePoint

instance : Coe Char CodePoint := ⟨char⟩

/-- The number of a code point. -/
def toNat : CodePoint → Nat
  | char c => c.toNat
  | surrogate index => 0xD800 + index

/-- The code point with a number; the numbers end below 0x110000. -/
def ofNat (code : Nat) : CodePoint :=
  if surrogate : 0xD800 ≤ code ∧ code < 0xE000 then .surrogate ⟨code - 0xD800, by omega⟩
  else .char (Char.ofNat code)

/-- The character that a code point is; a surrogate is none. -/
def char? : CodePoint → Option Char
  | char c => some c
  | surrogate _ => none

/-- The first half of a pair. -/
def IsHigh (point : CodePoint) : Prop :=
  0xD800 ≤ point.toNat ∧ point.toNat < 0xDC00

/-- The second half of a pair. -/
def IsLow (point : CodePoint) : Prop :=
  0xDC00 ≤ point.toNat ∧ point.toNat < 0xE000

instance (point : CodePoint) : Decidable point.IsHigh := instDecidableAnd

instance (point : CodePoint) : Decidable point.IsLow := instDecidableAnd

/-- The code point that a pair stands for, which is a character beyond the first 0x10000. -/
def paired (high low : CodePoint) : CodePoint :=
  .char (Char.ofNat (0x10000 + (high.toNat - 0xD800) * 0x400 + (low.toNat - 0xDC00)))

end CodePoint

/-- A text of code points. -/
abbrev CodeText := List CodePoint

/-- The code points of a text of characters. -/
def codes (text : String) : CodeText :=
  text.toList.map .char

instance : Coe String CodeText := ⟨codes⟩

namespace CodeText

/-- The characters of a text without surrogates. -/
def chars? (text : CodeText) : Option (List Char) :=
  text.mapM CodePoint.char?

/-- A text with the replacement character for every surrogate. -/
def shown (text : CodeText) : String :=
  String.ofList (text.map fun point => point.char?.getD '\ufffd')

/-- A text with every pair in it joined: a first half that the second one follows. -/
def joined : CodeText → CodeText
  | [] => []
  | [point] => [point]
  | high :: low :: rest =>
    if high.IsHigh ∧ low.IsLow then .paired high low :: joined rest
    else high :: joined (low :: rest)

end CodeText

end ReservedWords.Text
