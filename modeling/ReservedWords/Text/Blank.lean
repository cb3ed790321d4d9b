import ReservedWords.Text.Interval

/-!
Blanks: the separators of Unicode, the line and tabulation controls and the four information
separators. `trim` takes them off both ends of a text.
-/

namespace ReservedWords.Text

/-- Every blank, in increasing order of code points. -/
def blanks : List Interval :=
  [ ⟨0x9, 0xD⟩, ⟨0x1C, 0x20⟩, ⟨0x85, 0x85⟩, ⟨0xA0, 0xA0⟩, ⟨0x1680, 0x1680⟩, ⟨0x2000, 0x200A⟩,
    ⟨0x2028, 0x2029⟩, ⟨0x202F, 0x202F⟩, ⟨0x205F, 0x205F⟩, ⟨0x3000, 0x3000⟩]

/-- A character is blank when it only separates. -/
def isBlank (c : Char) : Bool :=
  Interval.covers blanks c

/-- A text without the blanks it starts and ends with. -/
def trim (text : List Char) : List Char :=
  ((text.dropWhile isBlank).reverse.dropWhile isBlank).reverse

end ReservedWords.Text
