/-!
The naming options: how a grammar is analysed and which names in it mark object-name productions and
keyword tokens.
-/

namespace ReservedWords

/-- The options of a grammar. -/
structure Options where
  /-- The analysis: `lalr` or `earley`. -/
  parser : String := "lalr"
  /-- The rule that everything starts from. -/
  start : String := "start"
  /-- The names of object-name productions start with this. -/
  productionStart : String := "relobjectname"
  /-- A name that ends with this is an aggregate, never an object-name production. -/
  aggregateEnd : String := "list"
  /-- The names of keyword tokens start with this. -/
  keywordStart : String := "K_"
  deriving DecidableEq, Repr

namespace Options

/-- Whether a text starts with another. -/
def startsWith (text start : String) : Bool :=
  start.toList.isPrefixOf text.toList

/-- Whether a text ends with another. -/
def endsWith (text tail : String) : Bool :=
  tail.toList.isSuffixOf text.toList

/-- A production names objects if its name starts so and does not end like an aggregate. -/
def namesObjects (options : Options) (name : String) : Bool :=
  startsWith name options.productionStart && !endsWith name options.aggregateEnd

/-- A token refers to a keyword if its text starts like a keyword token. -/
def refersToKeyword (options : Options) (image : String) : Bool :=
  startsWith image options.keywordStart

end Options

end ReservedWords
