import ReservedWords.Document

/-!
Queries: what can be asked of a classification, and the answers. No query changes anything.
-/

namespace ReservedWords

/-- A question about a classification. -/
inductive Query where
  | keywords
  | imageForLabel (label : String)
  | whitelist
  | whitelistFor (names : List String)
  | restrictedKeywords
  | compareRestricted (expected : List String)
  | summary
  | document
  deriving DecidableEq, Repr

/-- The answer to a question. -/
inductive Answer where
  | keywords (keywords : List Keyword)
  | image (image : Option Text.CodeText)
  | whitelist (buckets : List (String × List String))
  | labels (labels : List String)
  | difference (difference : Difference)
  | summary (summary : Classification.Summary)
  | text (text : String)
  deriving DecidableEq, Repr

namespace Query

/-- Answers a question. -/
def answer (classification : Classification) : Query → Answer
  | .keywords => .keywords classification.keywords
  | .imageForLabel label => .image (classification.imageForLabel label)
  | .whitelist => .whitelist classification.whitelist
  | .whitelistFor names => .labels (classification.whitelistFor names)
  | .restrictedKeywords => .labels classification.restrictedKeywords
  | .compareRestricted expected => .difference (classification.compareRestricted expected)
  | .summary => .summary classification.summary
  | .document => .text (Document.print classification.summary)

/-- What is reported when a question is answered. -/
def records (classification : Classification) : Query → List Log.Record
  | .imageForLabel label => classification.imageRecords label
  | _ => []

end Query

end ReservedWords
