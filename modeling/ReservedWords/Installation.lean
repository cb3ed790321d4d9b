import ReservedWords.Grammar.Library
import ReservedWords.Text.CharacterNames

/-!
What comes with the parser besides its code: the names of the characters, which regular expressions
may use, and a library of grammars to import from. Both grow from version to version, so that what is
said about grammars is said for all of them; `Standard` knows the names of the Latin characters and the
grammar of common terminals.
-/

namespace ReservedWords

/-- What comes with the parser. -/
class Installation where
  /-- The character with a name. -/
  character? : String → Option Char
  /-- The text of the library's grammar under a relative path. -/
  grammar? : String → Option String

namespace Standard

scoped instance : Installation where
  character? := Text.Latin.character?
  grammar? := Grammar.commonGrammar?

end Standard

end ReservedWords
