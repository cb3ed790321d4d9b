/-!
Log records: what the library reports while it works, beside its results.
-/

namespace ReservedWords.Log

/-- How much a record matters. -/
inductive Level where
  | debug
  | info
  deriving DecidableEq, Repr

/-- The parts of the library that keep a log. -/
inductive Source where
  | loader
  | collectors
  | classification
  | extractor
  deriving DecidableEq, Repr

/-- One record. -/
structure Record where
  level : Level
  source : Source
  message : String
  deriving DecidableEq, Repr

def Level.name : Level → String
  | .debug => "DEBUG"
  | .info => "INFO"

/-- The name under which a part of the library keeps its log. -/
def Source.name : Source → String
  | .loader => "grammar_keywords.loader"
  | .collectors => "grammar_keywords.collectors"
  | .classification => "grammar_keywords.classification"
  | .extractor => "grammar_keywords.extractor"

/-- The line that shows a record. -/
def Record.line (record : Record) : String :=
  record.level.name ++ " " ++ record.source.name ++ ": " ++ record.message

end ReservedWords.Log
