import ReservedWords.Classification
import ReservedWords.Json.Printer

/-!
The document: the summary of a classification as indented JSON.
-/

namespace ReservedWords.Document

open Classification (Summary)
open Text (CodeText codes)

/-- The JSON object of a keyword. -/
def keywordValue (keyword : Keyword) : Json.Value CodeText :=
  .object [("label", .string keyword.label), ("image", .string keyword.image)]

/-- The JSON array of some labels. -/
def labelsValue (labels : List String) : Json.Value CodeText :=
  Json.Value.strings (labels.map codes)

/-- The JSON object of a summary. -/
def value (summary : Summary) : Json.Value CodeText :=
  .object
    [ ("keywords", .array (summary.keywords.map keywordValue)),
      ("whitelist",
        .object (summary.whitelist.map fun (name, labels) => (codes name, labelsValue labels))),
      ("restricted", labelsValue summary.restricted)]

/-- The text of a summary, without a line feed at its end. -/
def print (summary : Summary) : String :=
  Json.print (value summary)

end ReservedWords.Document
