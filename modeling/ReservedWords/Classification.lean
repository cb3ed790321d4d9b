import ReservedWords.Json.Value
import ReservedWords.Sorting
import ReservedWords.Whitelist

/-!
The classification of a grammar's keywords. A keyword is restricted if no bucket of the whitelist
holds it; every list that is shown is sorted by code point and free of repetitions, apart from the
buckets, which keep the order of their productions.
-/

namespace ReservedWords

/-- The keywords of a grammar and the whitelists of its object-name productions. -/
structure Classification where
  keywordTable : Dictionary Keyword
  buckets : Dictionary (List String)

/-- What an expectation and the restricted keywords do not share. -/
structure Difference where
  /-- Expected, but not restricted. -/
  missing : List String
  /-- Restricted, but not expected. -/
  unexpected : List String
  deriving DecidableEq, Repr

/-- An expectation is met if nothing is missing and nothing unexpected. -/
def Difference.isEmpty (difference : Difference) : Bool :=
  difference.missing.isEmpty && difference.unexpected.isEmpty

namespace Classification

/-- The classification of two tables, unless one of their entries forbids it. -/
def ofTables (tables : Tables) (options : Options) : Except CollectError Classification := do
  let keywordTable ← Keyword.collect tables.tokens.values
  let buckets ← Whitelist.collect tables.productions options
  return ⟨keywordTable, buckets⟩

/-- What is reported while tables are classified. -/
def records (tables : Tables) (options : Options) : List Log.Record :=
  Keyword.records tables.tokens.values
    ++ match Keyword.collect tables.tokens.values with
      | .ok _ => Whitelist.records tables.productions options
      | .error _ => []

/-- The labels of the keywords, sorted. -/
def labels (classification : Classification) : List String :=
  sortTexts classification.keywordTable.keys

/-- The keywords, sorted by label. -/
def keywords (classification : Classification) : List Keyword :=
  classification.labels.filterMap classification.keywordTable.get?

/-- The image of a keyword. -/
def imageForLabel (classification : Classification) (label : String) : Option Text.CodeText :=
  (classification.keywordTable.get? label).map Keyword.image

/-- What is reported when an image is asked for. -/
def imageRecords (classification : Classification) (label : String) : List Log.Record :=
  match classification.imageForLabel label with
  | some _ => []
  | none => [⟨.debug, .classification, "no keyword image found for " ++ label⟩]

/-- The buckets with the names of their productions, in table order. -/
def whitelist (classification : Classification) : List (String × List String) :=
  classification.buckets.entries

/-- Adds a label to those already seen unless it is one of them. -/
def see (seen : List String) (label : String) : List String :=
  if seen.contains label then seen else seen ++ [label]

/-- The union of some buckets in the order in which labels are first seen. A name without a bucket
contributes nothing. -/
def whitelistFor (classification : Classification) (names : List String) : List String :=
  (names.flatMap fun name => (classification.buckets.get? name).getD []).foldl see []

/-- Whether some bucket holds a label. -/
def isWhitelisted (classification : Classification) (label : String) : Bool :=
  classification.buckets.values.any (·.contains label)

/-- The labels of the keywords that no object-name production accepts, sorted. -/
def restrictedKeywords (classification : Classification) : List String :=
  sortTexts (classification.keywordTable.keys.filter fun label =>
    !classification.isWhitelisted label)

/-- Compares the restricted keywords with the labels that are expected to be so. -/
def compareRestricted (classification : Classification) (expected : List String) : Difference :=
  let actual := classification.restrictedKeywords
  { missing := sortTexts (expected.filter fun label => !actual.contains label).eraseDups
    unexpected := sortTexts (actual.filter fun label => !expected.contains label) }

/-- What the document shows: the sorted keywords, the buckets sorted by the names of their
productions, and the restricted keywords. -/
structure Summary where
  keywords : List Keyword
  whitelist : List (String × List String)
  restricted : List String
  deriving DecidableEq, Repr

/-- The summary of a classification. -/
def summary (classification : Classification) : Summary where
  keywords := classification.keywords
  whitelist := (sortTexts classification.buckets.keys).filterMap fun name =>
    (classification.buckets.get? name).map fun labels => (name, labels)
  restricted := classification.restrictedKeywords

end Classification

end ReservedWords
