import ReservedWords.Proofs.Classification.Acceptance
import ReservedWords.Proofs.Classification.Partition
import ReservedWords.Query

/-!
The order of tables. Keywords are collected from the entries one after the other and buckets follow
the production table, but no answer shows this order apart from the whitelist as a whole: tables with
the same entries are refused together, and are classified alike.
-/

namespace ReservedWords

-----------------------------------------------------------------------------------------
-- What collecting keywords comes to
-----------------------------------------------------------------------------------------

namespace Keyword

/-- The keywords of some entries: under each name the image of the words of that name. -/
def Collected (entries : List Entry) (found : Dictionary Keyword) : Prop :=
  ∀ label keyword,
    found.get? label = some keyword
    ↔ keyword.label = label
      ∧ isWord keyword.image
      ∧ some (.literal label keyword.image) ∈ entries

/-- Two words of one name have different images. -/
structure Conflict (entries : List Entry) (label : String) (first second : Text.CodeText)
    : Prop where
  firstEntry : some (.literal label first) ∈ entries
  firstWord : isWord first
  secondEntry : some (.literal label second) ∈ entries
  secondWord : isWord second
  differ : first ≠ second

/-- What is wrong with entries whose keywords cannot be collected. -/
inductive Fault (entries : List Entry) : CollectError → Prop
  | malformed (member : none ∈ entries) : Fault entries .malformedEntry
  | conflict {label : String} {first second : Text.CodeText}
    (conflict : Conflict entries label first second)
    : Fault entries (.duplicateKeyword label first second)

variable {before entries : List Entry} {found after : Dictionary Keyword} {entry : Entry}

theorem collected_empty : Collected [] Dictionary.empty := by
  intro label keyword
  simp [Dictionary.get?, Dictionary.empty]

/-- An entry that makes no keyword changes nothing. -/
theorem Collected.skip (collected : Collected before found)
    (other : ∀ name image, entry = some (.literal name image) → ¬ isWord image)
    : Collected (before ++ [entry]) found := by
  intro label keyword
  rw [collected label keyword, List.mem_append, List.mem_singleton]
  refine and_congr Iff.rfl (and_congr_right fun word => (or_iff_left ?_).symm)
  intro same
  exact other label keyword.image same.symm word

/-- A word whose name has no other image is found under its name. -/
theorem Collected.insert (collected : Collected before found) {name : String} {image : Text.CodeText}
    (word : isWord image) (same : ∀ known, found.get? name = some known → known.image = image)
    : Collected (before ++ [some (.literal name image)]) (found.insert name ⟨name, image⟩) := by
  intro label ⟨text, shown⟩
  rw [Dictionary.get?_insert, List.mem_append, List.mem_singleton]
  by_cases here : label = name
  · subst here
    rw [if_pos rfl]
    constructor
    · intro made
      cases made
      exact ⟨rfl, word, .inr rfl⟩
    · rintro ⟨rfl, shows, earlier | added⟩
      · have known := (collected _ ⟨_, shown⟩).mpr ⟨rfl, shows, earlier⟩
        cases same _ known
        rfl
      · cases added
        rfl
  · rw [if_neg here, collected label ⟨text, shown⟩]
    have apart : some (.literal label shown) ≠ some (Item.literal name image) := by
      intro equal
      cases equal
      exact here rfl
    rw [or_iff_left apart]

/-- What one entry comes to: it is taken in, or the entries up to it are at fault. -/
theorem Collected.add_cases (collected : Collected before found) (entry : Entry)
    : (∃ after, add found entry = .ok after ∧ Collected (before ++ [entry]) after)
      ∨ ∃ error, add found entry = .error error ∧ Fault (before ++ [entry]) error := by
  match entry with
  | none => exact .inr ⟨_, rfl, .malformed (by simp)⟩
  | some (.production _) | some (.other _ _) =>
    exact .inl ⟨found, rfl, collected.skip nofun⟩
  | some (.literal name image) =>
    by_cases word : isWord image
    · cases known : found.get? name with
      | none =>
        refine .inl ⟨_, by simp only [add, if_pos word, known]; rfl, ?_⟩
        exact collected.insert word fun other present => by cases known.symm.trans present
      | some keyword =>
        by_cases same : keyword.image = image
        · refine .inl ⟨_, by simp only [add, if_pos word, known, if_pos same]; rfl, ?_⟩
          refine collected.insert word fun other present => ?_
          cases known.symm.trans present
          exact same
        · refine .inr ⟨_, by simp only [add, if_pos word, known, if_neg same]; rfl, ?_⟩
          obtain ⟨-, shown, earlier⟩ := (collected name keyword).mp known
          exact .conflict
            { firstEntry := List.mem_append_left _ earlier
              firstWord := shown
              secondEntry := by simp
              secondWord := word
              differ := same }
    · refine .inl ⟨found, by rw [add, if_neg word], collected.skip ?_⟩
      rintro _ _ ⟨⟩
      exact word

theorem Fault.append {error : CollectError} (fault : Fault before error) (more : List Entry)
    : Fault (before ++ more) error := by
  cases fault with
  | malformed member => exact .malformed (List.mem_append_left _ member)
  | conflict conflict =>
    exact .conflict
      { conflict with
        firstEntry := List.mem_append_left _ conflict.firstEntry
        secondEntry := List.mem_append_left _ conflict.secondEntry }

/-- By induction on the entries that are still to come. -/
theorem Collected.foldlM_cases (collected : Collected before found) (entries : List Entry)
    : (∃ after, entries.foldlM add found = .ok after ∧ Collected (before ++ entries) after)
      ∨ ∃ error, entries.foldlM add found = .error error ∧ Fault (before ++ entries) error := by
  induction entries generalizing before found with
  | nil => exact .inl ⟨found, rfl, (List.append_nil before).symm ▸ collected⟩
  | cons entry rest ih =>
    rw [List.foldlM_cons, List.append_cons]
    rcases collected.add_cases entry with ⟨next, added, taken⟩ | ⟨error, refused, fault⟩
    · rw [added]
      exact ih taken
    · rw [refused]
      exact .inr ⟨error, rfl, fault.append rest⟩

/-- Entries give their keywords or are at fault. -/
theorem collect_cases (entries : List Entry)
    : (∃ found, collect entries = .ok found ∧ Collected entries found)
      ∨ ∃ error, collect entries = .error error ∧ Fault entries error :=
  collected_empty.foldlM_cases entries

theorem collected_of_collect (done : collect entries = .ok found) : Collected entries found := by
  rcases collect_cases entries with ⟨other, redone, collected⟩ | ⟨error, refused, -⟩
  · cases done.symm.trans redone
    exact collected
  · cases done.symm.trans refused

/-- Where keywords are found no two words conflict, since a name has one keyword. -/
theorem Collected.not_conflict (collected : Collected entries found) {label : String}
    {first second : Text.CodeText}
    : ¬ Conflict entries label first second := by
  intro conflict
  have one := (collected label ⟨label, first⟩).mpr ⟨rfl, conflict.firstWord, conflict.firstEntry⟩
  have other := (collected label ⟨label, second⟩).mpr ⟨rfl, conflict.secondWord, conflict.secondEntry⟩
  cases one.symm.trans other
  exact conflict.differ rfl

end Keyword

-----------------------------------------------------------------------------------------
-- Tables that can only have conflicts
-----------------------------------------------------------------------------------------

/-- Every entry of a table is an item. -/
def Dictionary.HasItems (table : Dictionary Entry) : Prop :=
  ∀ entry ∈ table.entries, entry.2 ≠ none

/-- The same entries in some order. -/
structure Tables.Reorders (tables other : Tables) : Prop where
  tokens : tables.tokens.entries.Perm other.tokens.entries
  productions : tables.productions.entries.Perm other.productions.entries

namespace Classification

variable {tables : Tables} {options : Options}

/-- Tables of items are classified unless two of their words conflict; the buckets are those of the
object-name productions. -/
theorem ofTables_of_items (tokens : tables.tokens.HasItems)
    (productions : tables.productions.HasItems) (options : Options)
    : (∃ classification,
        ofTables tables options = .ok classification
        ∧ Keyword.Collected tables.tokens.values classification.keywordTable
        ∧ classification.buckets.entries
          = (tables.productions.entries.filter fun entry => options.namesObjects entry.1).map
              fun entry => (entry.1, Whitelist.labelsOf options entry.2))
      ∨ ∃ label first second,
          ofTables tables options = .error (.duplicateKeyword label first second)
          ∧ Keyword.Conflict tables.tokens.values label first second := by
  rcases Keyword.collect_cases tables.tokens.values with
    ⟨found, done, collected⟩ | ⟨error, refused, fault⟩
  · obtain ⟨buckets, gathered, shape⟩ :=
      @Whitelist.collect_ok options tables.productions fun entry member _ => productions entry member
    exact .inl ⟨⟨found, buckets⟩, ofTables_of_collect done gathered, collected, shape⟩
  · cases fault with
    | malformed member =>
      obtain ⟨entry, present, empty⟩ := List.mem_map.mp member
      exact absurd empty (tokens entry present)
    | conflict conflict =>
      refine .inr ⟨_, _, _, ?_, conflict⟩
      rw [ofTables, refused]
      rfl

/-- Such tables are refused for a duplicate if and only if two of their words conflict. -/
theorem duplicate_iff_conflict (tokens : tables.tokens.HasItems)
    (productions : tables.productions.HasItems)
    : (∃ label first second,
        ofTables tables options = .error (.duplicateKeyword label first second))
      ↔ ∃ label first second, Keyword.Conflict tables.tokens.values label first second := by
  rcases ofTables_of_items tokens productions options with
    ⟨classification, done, collected, -⟩ | ⟨label, first, second, refused, conflict⟩
  · constructor
    · rintro ⟨_, _, _, refused⟩
      cases done.symm.trans refused
    · rintro ⟨_, _, _, conflict⟩
      exact absurd conflict collected.not_conflict
  · exact ⟨fun _ => ⟨_, _, _, conflict⟩, fun _ => ⟨_, _, _, refused⟩⟩

-----------------------------------------------------------------------------------------
-- Classifications that differ in their order
-----------------------------------------------------------------------------------------

/-- Two classifications with the same keywords, and with the same buckets in some order. -/
structure Alike (classification other : Classification) : Prop where
  keywords
    : ∀ label, classification.keywordTable.get? label = other.keywordTable.get? label
  buckets : classification.buckets.entries.Perm other.buckets.entries

variable {classification other : Classification}

theorem Alike.keys (alike : classification.Alike other)
    : classification.keywordTable.keys.Perm other.keywordTable.keys := by
  have same (label : String)
      : label ∈ classification.keywordTable.keys ↔ label ∈ other.keywordTable.keys := by
    rw [← Dictionary.isSome_get?_iff, ← Dictionary.isSome_get?_iff, alike.keywords]
  exact (List.perm_ext_iff_of_nodup classification.keywordTable.nodup
    other.keywordTable.nodup).mpr same

theorem Alike.bucket (alike : classification.Alike other) (name : String)
    : classification.buckets.get? name = other.buckets.get? name := by
  ext labels
  rw [Dictionary.get?_eq_some_iff, Dictionary.get?_eq_some_iff, alike.buckets.mem_iff]

theorem Alike.labels (alike : classification.Alike other)
    : classification.labels = other.labels :=
  sortTexts_eq_of_perm alike.keys

theorem Alike.shown (alike : classification.Alike other)
    : classification.keywords = other.keywords := by
  rw [Classification.keywords, Classification.keywords, alike.labels]
  exact List.filterMap_congr fun label _ => alike.keywords label

theorem Alike.restricted (alike : classification.Alike other)
    : classification.restrictedKeywords = other.restrictedKeywords := by
  have whitelisted (label : String)
      : classification.isWhitelisted label = other.isWhitelisted label :=
    (alike.buckets.map Prod.snd).any_eq
  rw [restrictedKeywords, restrictedKeywords]
  refine sortTexts_eq_of_perm ?_
  simp only [whitelisted]
  exact alike.keys.filter _

theorem Alike.summary (alike : classification.Alike other)
    : classification.summary = other.summary := by
  have names : sortTexts classification.buckets.keys = sortTexts other.buckets.keys :=
    sortTexts_eq_of_perm (alike.buckets.map Prod.fst)
  rw [Classification.summary, Classification.summary, alike.shown, alike.restricted, names]
  simp only [alike.bucket]

/-- Only the whitelist as a whole shows the order of the buckets. -/
theorem Alike.answer (alike : classification.Alike other) {query : Query}
    (narrow : query ≠ .whitelist)
    : query.answer classification = query.answer other := by
  cases query with
  | keywords => exact congrArg Answer.keywords alike.shown
  | imageForLabel label =>
    simp only [Query.answer, Classification.imageForLabel, alike.keywords]
  | whitelist => exact absurd rfl narrow
  | whitelistFor names => simp only [Query.answer, Classification.whitelistFor, alike.bucket]
  | restrictedKeywords => exact congrArg Answer.labels alike.restricted
  | compareRestricted expected =>
    simp only [Query.answer, Classification.compareRestricted, alike.restricted]
  | summary => exact congrArg Answer.summary alike.summary
  | document => simp only [Query.answer, alike.summary]

-----------------------------------------------------------------------------------------
-- The order of tables
-----------------------------------------------------------------------------------------

variable {rearranged : Tables}

theorem hasItems_of_perm {table other : Dictionary Entry} (items : table.HasItems)
    (same : table.entries.Perm other.entries)
    : other.HasItems :=
  fun entry member => items entry (same.mem_iff.mpr member)

theorem conflict_of_perm {entries others : List Entry} (same : entries.Perm others)
    {label : String} {first second : Text.CodeText}
    (conflict : Keyword.Conflict entries label first second)
    : Keyword.Conflict others label first second :=
  { conflict with
    firstEntry := same.mem_iff.mp conflict.firstEntry
    secondEntry := same.mem_iff.mp conflict.secondEntry }

/-- Conflicts do not depend on the order of entries. -/
theorem conflict_iff_of_perm {entries others : List Entry} (same : entries.Perm others)
    {label : String} {first second : Text.CodeText}
    : Keyword.Conflict entries label first second ↔ Keyword.Conflict others label first second :=
  ⟨conflict_of_perm same, conflict_of_perm same.symm⟩

/-- Keywords collected from the same entries in another order are the same, label by label. -/
theorem get?_of_perm {entries others : List Entry} {found rediscovered : Dictionary Keyword}
    (collected : Keyword.Collected entries found)
    (recollected : Keyword.Collected others rediscovered) (same : entries.Perm others)
    (label : String)
    : found.get? label = rediscovered.get? label := by
  ext keyword
  rw [collected label keyword, recollected label keyword, same.mem_iff]

/-- Tables of items and the same tables in another order are refused for a duplicate together, or
else they answer every query alike, up to the order of the whitelist as a whole. -/
theorem answers_of_reorders (reorders : tables.Reorders rearranged)
    (tokens : tables.tokens.HasItems) (productions : tables.productions.HasItems)
    (options : Options)
    : ((∃ label first second,
          ofTables tables options = .error (.duplicateKeyword label first second))
        ↔ ∃ label first second,
            ofTables rearranged options = .error (.duplicateKeyword label first second))
      ∧ ((∀ label first second,
            ofTables tables options ≠ .error (.duplicateKeyword label first second))
          → ∃ classification other,
              ofTables tables options = .ok classification
              ∧ ofTables rearranged options = .ok other
              ∧ (∀ query : Query,
                  query ≠ .whitelist
                  → query.answer classification = query.answer other)
              ∧ classification.whitelist.Perm other.whitelist) := by
  have values := reorders.tokens.map Prod.snd
  have otherTokens := hasItems_of_perm tokens reorders.tokens
  have otherProductions := hasItems_of_perm productions reorders.productions
  refine ⟨?_, fun unrefused => ?_⟩
  · rw [duplicate_iff_conflict tokens productions,
      duplicate_iff_conflict otherTokens otherProductions]
    exact exists_congr fun _ => exists_congr fun _ => exists_congr fun _ =>
      conflict_iff_of_perm values
  · rcases ofTables_of_items tokens productions options with
      ⟨classification, done, collected, shape⟩ | ⟨_, _, _, refused, -⟩
    · rcases ofTables_of_items otherTokens otherProductions options with
        ⟨other, redone, recollected, reshape⟩ | ⟨_, _, _, -, conflict⟩
      · have alike : classification.Alike other :=
          { keywords := get?_of_perm collected recollected values
            buckets := by
              rw [shape, reshape]
              exact (reorders.productions.filter _).map _ }
        exact ⟨classification, other, done, redone, fun _ narrow => alike.answer narrow,
          alike.buckets⟩
      · exact absurd ((conflict_iff_of_perm values).mpr conflict) collected.not_conflict
    · exact absurd refused (unrefused _ _ _)

/-- Tables with a word under two keys, another word, and two buckets. -/
def severalTables : Tables where
  tokens :=
    Dictionary.ofList
      [("K_SELECT", some (.literal "K_SELECT" "select")),
        ("K_ABORT", some (.literal "K_ABORT" "abort")),
        ("SELECT", some (.literal "K_SELECT" "select"))]
  productions :=
    Dictionary.ofList
      [("relobjectname",
          some (.production (Production.ofBody "relobjectname" [⟨"K_ABORT", "TERMINAL"⟩]))),
        ("relobjectname_any",
          some (.production (Production.ofBody "relobjectname_any" [⟨"K_OTHER", "TERMINAL"⟩])))]

/-- The same tables backwards. -/
def severalTablesBackwards : Tables where
  tokens := Dictionary.ofList severalTables.tokens.entries.reverse
  productions := Dictionary.ofList severalTables.productions.entries.reverse

/-- `severalTables` is classified alike in both directions. -/
theorem answers_of_reorders_several
    : severalTables.Reorders severalTablesBackwards
      ∧ severalTables.tokens.HasItems
      ∧ severalTables.productions.HasItems
      ∧ ∃ classification other,
          ofTables severalTables {} = .ok classification
          ∧ ofTables severalTablesBackwards {} = .ok other
          ∧ (∀ query : Query,
              query ≠ .whitelist → query.answer classification = query.answer other)
          ∧ classification.whitelist.Perm other.whitelist := by
  have reorders : severalTables.Reorders severalTablesBackwards := ⟨by decide, by decide⟩
  have tokens : severalTables.tokens.HasItems := by unfold Dictionary.HasItems; decide
  have productions : severalTables.productions.HasItems := by unfold Dictionary.HasItems; decide
  have unrefused (label : String) (first second : Text.CodeText)
      : ofTables severalTables {} ≠ .error (.duplicateKeyword label first second) :=
    nofun
  exact ⟨reorders, tokens, productions,
    (answers_of_reorders reorders tokens productions {}).2 unrefused⟩

end Classification

end ReservedWords
