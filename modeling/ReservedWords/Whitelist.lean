import ReservedWords.Keyword
import ReservedWords.Options

/-!
Whitelists: for every object-name production, the keyword tokens that it accepts as names, in the
order of its body and with repetitions.
-/

namespace ReservedWords

/-- The keyword references of a production; its last token closes it and is never one. -/
def Production.keywordReferences (production : Production) (keywordStart : String)
    : List String :=
  (production.scanned.map Token.image).filter (Options.startsWith · keywordStart)

namespace Whitelist

/-- The bucket of an object-name production: the references of a production, nothing for another
item. -/
def bucket (options : Options) : Entry → Except CollectError (List String)
  | none => .error .malformedEntry
  | some (.production production) => .ok (production.keywordReferences options.keywordStart)
  | some _ => .ok []

/-- The buckets of the object-name productions among the entries, in their order. -/
def bucketsFrom (options : Options)
    : List (String × Entry) → Except CollectError (List (String × List String))
  | [] => .ok []
  | (name, entry) :: entries =>
    if options.namesObjects name then do
      let labels ← bucket options entry
      let buckets ← bucketsFrom options entries
      return (name, labels) :: buckets
    else bucketsFrom options entries

/-- The buckets of a production table. -/
def collect (productions : Dictionary Entry) (options : Options)
    : Except CollectError (Dictionary (List String)) := do
  let buckets ← bucketsFrom options productions.entries
  return Dictionary.ofList buckets

/-- What is reported of the references of a production. -/
def referenceRecords (production : Production) (keywordStart : String) : List Log.Record :=
  (production.keywordReferences keywordStart).map fun image =>
    ⟨.debug, .collectors, "    >> found " ++ image⟩

/-- What is reported of one object-name production. -/
def entryRecords (options : Options) (name : String) : Entry → List Log.Record
  | none => [⟨.debug, .collectors, ">>>> whitelisted in " ++ name ++ " type=NoneType"⟩]
  | some item =>
    ⟨.debug, .collectors, ">>>> whitelisted in " ++ name ++ " type=" ++ item.shape⟩
      :: match item with
        | .production production => referenceRecords production options.keywordStart
        | _ =>
          [⟨.debug, .collectors,
            "no token sequence for " ++ name ++ ", whitelist left empty"⟩]

/-- What is reported of the entries up to the one that stops the collection. -/
def recordsFrom (options : Options) : List (String × Entry) → List Log.Record
  | [] => []
  | (name, entry) :: entries =>
    if options.namesObjects name then
      entryRecords options name entry
        ++ if entry.isSome then recordsFrom options entries else []
    else recordsFrom options entries

/-- What is reported while whitelists are collected. -/
def records (productions : Dictionary Entry) (options : Options) : List Log.Record :=
  ⟨.info, .collectors, ">>> extracting whitelisted keywords"⟩
    :: recordsFrom options productions.entries

end Whitelist

end ReservedWords
