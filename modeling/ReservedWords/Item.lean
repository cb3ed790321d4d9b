import ReservedWords.Dictionary
import ReservedWords.Text.CodePoint

/-!
The entries of a grammar's two tables. A token entry is a literal token or something else, a
production entry is a production with its tokens or something else; a table may also hold an entry
that is none of these, which the collectors refuse.
-/

namespace ReservedWords

/-- A lexical unit of a production: its text as written and what kind of unit it is. -/
structure Token where
  image : String
  kind : String
  deriving DecidableEq, Repr

namespace Token

/-- The kind of the token that opens a production. -/
def headerKind : String := "RULE_NAME"

/-- The kind of the token that closes a production. -/
def endKind : String := "END"

/-- The token that opens the production of a rule. -/
def header (name : String) : Token := ⟨name, headerKind⟩

/-- The token that closes every production. -/
def sentinel : Token := ⟨"", endKind⟩

end Token

/-- A rule as the sequence of its tokens. -/
structure Production where
  name : String
  tokens : List Token
  deriving DecidableEq, Repr

namespace Production

/-- The production of a rule with the given body: its header, the body and the sentinel. -/
def ofBody (name : String) (body : List Token) : Production :=
  ⟨name, Token.header name :: body ++ [Token.sentinel]⟩

/-- The position of the first token. -/
def firstToken (_ : Production) : Nat := 0

/-- The position of the last token; zero if there is no token. -/
def lastToken (production : Production) : Nat :=
  production.tokens.length - 1

/-- The tokens from the first up to, but not including, the last. -/
def scanned (production : Production) : List Token :=
  (production.tokens.take production.lastToken).drop production.firstToken

/-- Only the last token is left out. -/
theorem scanned_eq_dropLast (production : Production)
    : production.scanned = production.tokens.dropLast := by
  simp [scanned, firstToken, lastToken, List.dropLast_eq_take]

/-- Of a production with header and sentinel, the header and the body are scanned. -/
theorem scanned_ofBody (name : String) (body : List Token)
    : (ofBody name body).scanned = Token.header name :: body := by
  rw [scanned_eq_dropLast]
  exact List.dropLast_concat

end Production

/-- An entry of a table. -/
inductive Item where
  /-- A token defined by one string literal, with the literal's value as its image. -/
  | literal (name : String) (image : Text.CodeText)
  /-- A rule with its tokens. -/
  | production (rule : Production)
  /-- Anything else, with a word that says what it is. -/
  | other (name kind : String)
  deriving DecidableEq, Repr

/-- The name of an entry. -/
def Item.name : Item → String
  | .literal name _ => name
  | .production rule => rule.name
  | .other name _ => name

/-- The word for the shape of an entry, as the log shows it. -/
def Item.shape : Item → String
  | .literal _ _ => "LiteralTokenDefinition"
  | .production _ => "ProductionDefinition"
  | .other _ _ => "OtherItem"

/-- What a table holds under a name: an item, or nothing that could be one. -/
abbrev Entry := Option Item

/-- The two tables of a grammar. -/
structure Tables where
  tokens : Dictionary Entry
  productions : Dictionary Entry

end ReservedWords
