import ReservedWords.Item
import ReservedWords.Log
import ReservedWords.Text.Alphabetic
import ReservedWords.Text.Quoted

/-!
Keywords: the literal tokens whose image starts with a letter. `Keyword.collect` goes through a token
table once and stops at the first entry that is no item, or that gives a known label another image.
-/

namespace ReservedWords

open Text (CodeText)

/-- A keyword: the name of its token and its text. -/
structure Keyword where
  label : String
  image : CodeText
  deriving DecidableEq, Repr

/-- Why tables have no classification. -/
inductive CollectError where
  /-- An entry is no item. -/
  | malformedEntry
  /-- Two literal tokens of one name have different images. -/
  | duplicateKeyword (label : String) (first second : CodeText)
  deriving DecidableEq, Repr

/-- The wording of a failed collection. -/
def CollectError.message : CollectError → String
  | .malformedEntry => "not a grammar item"
  | .duplicateKeyword label first second =>
    "keyword " ++ label ++ " defined twice with different images: " ++ Text.quoted first ++ " and "
      ++ Text.quoted second

namespace Keyword

/-- An image is a word if it starts with a letter. -/
def isWord (image : CodeText) : Bool :=
  match image with
  | .char c :: _ => Text.isAlphabetic c
  | _ => false

/-- Takes one entry into the keywords found so far. -/
def add (found : Dictionary Keyword) : Entry → Except CollectError (Dictionary Keyword)
  | none => .error .malformedEntry
  | some (.literal name image) =>
    if isWord image then
      match found.get? name with
      | some known =>
        if known.image = image then .ok (found.insert name ⟨name, image⟩)
        else .error (.duplicateKeyword name known.image image)
      | none => .ok (found.insert name ⟨name, image⟩)
    else .ok found
  | some _ => .ok found

/-- The keywords of a list of entries, by label, in the order of their first occurrence. -/
def collect (entries : List Entry) : Except CollectError (Dictionary Keyword) :=
  entries.foldlM add Dictionary.empty

/-- What is reported of one entry. -/
def entryRecords : Entry → List Log.Record
  | none | some (.literal _ _) => []
  | some item =>
    [⟨.debug, .collectors, "unknown token kind " ++ item.shape ++ " for " ++ item.name⟩]

/-- What is reported of the entries up to the one that stops the collection. -/
def recordsFrom (found : Dictionary Keyword) : List Entry → List Log.Record
  | [] => []
  | entry :: entries =>
    match add found entry with
    | .ok found => entryRecords entry ++ recordsFrom found entries
    | .error _ => entryRecords entry

/-- What is reported while keywords are collected. -/
def records (entries : List Entry) : List Log.Record :=
  ⟨.info, .collectors, ">>> extracting keywords"⟩ :: recordsFrom Dictionary.empty entries

end Keyword

end ReservedWords
