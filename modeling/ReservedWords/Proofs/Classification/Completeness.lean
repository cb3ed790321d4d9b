import ReservedWords.Proofs.Classification.Canonical
import ReservedWords.Proofs.Classification.Gathering

/-!
Completeness. The restricted keywords and the buckets have every keyword label between them, but a
bucket may also have texts that only start like keywords: there is nothing else in the buckets if
and only if every such text of an object-name production is the name of a literal that is a word.
-/

namespace ReservedWords

/-- A bucket has the texts of a production's tokens, but for the last, that start like keywords. -/
theorem Whitelist.mem_labelsOf {options : Options} {entry : Entry} {label : String}
    : label ∈ labelsOf options entry
      ↔ ∃ production,
          entry = some (.production production)
          ∧ options.keywordStart.toList <+: label.toList
          ∧ ∃ token ∈ production.tokens.dropLast, token.image = label := by
  match entry with
  | none | some (.literal _ _) | some (.other _ _) => simp [labelsOf]
  | some (.production production) =>
    simp only [labelsOf, Production.keywordReferences, Production.scanned_eq_dropLast,
      List.mem_filter, List.mem_map, Options.startsWith, List.isPrefixOf_iff_prefix]
    grind

namespace Classification

variable {tables : Tables} {options : Options} {classification : Classification} {label : String}

/-- The labels of a classification's keywords are the names of the literals that are words. -/
theorem mem_labels_of_classified (classified : ofTables tables options = .ok classification)
    : label ∈ classification.keywords.map Keyword.label
      ↔ ∃ image, some (.literal label image) ∈ tables.tokens.values ∧ Keyword.isWord image := by
  have keywords := (ofTables_ok classified).1
  have collected := Keyword.collected_of_collect keywords
  rw [map_label_keywords (Keyword.labelled_collect keywords), mem_labels,
    ← Dictionary.isSome_get?_iff, Option.isSome_iff_exists]
  constructor
  · intro known
    obtain ⟨keyword, found⟩ := known
    obtain ⟨-, word, member⟩ := (collected label keyword).mp found
    exact ⟨keyword.image, member, word⟩
  · intro present
    obtain ⟨image, member, word⟩ := present
    exact ⟨⟨label, image⟩, (collected label ⟨label, image⟩).mpr ⟨rfl, word, member⟩⟩

/-- The buckets of a classification are those of its object-name entries. -/
theorem mem_whitelist_of_classified (classified : ofTables tables options = .ok classification)
    {bucket : String × List String}
    : bucket ∈ classification.whitelist
      ↔ ∃ entry ∈ tables.productions.entries,
          options.namesObjects entry.1
          ∧ (entry.1, Whitelist.labelsOf options entry.2) = bucket := by
  rw [whitelist, Whitelist.entries_of_collect (ofTables_ok classified).2, List.mem_map]
  simp only [List.mem_filter, and_assoc]

/-- A text that an object-name production refers to as to a keyword: it starts like one and is the
text of a token that is not the last. -/
def Refers (tables : Tables) (options : Options) (label : String) : Prop :=
  ∃ name production,
    (name, some (.production production)) ∈ tables.productions.entries
    ∧ options.namesObjects name
    ∧ options.keywordStart.toList <+: label.toList
    ∧ ∃ token ∈ production.tokens.dropLast, token.image = label

/-- The buckets of a classification have the texts that the object-name productions refer to. -/
theorem mem_buckets_of_classified (classified : ofTables tables options = .ok classification)
    : (∃ bucket ∈ classification.whitelist, label ∈ bucket.2) ↔ Refers tables options label := by
  simp only [mem_whitelist_of_classified classified]
  constructor
  · intro whitelisted
    obtain ⟨_, ⟨⟨name, entry⟩, present, objects, rfl⟩, inside⟩ := whitelisted
    obtain ⟨production, rfl, starts, token⟩ := Whitelist.mem_labelsOf.mp inside
    exact ⟨name, production, present, objects, starts, token⟩
  · intro refers
    obtain ⟨name, production, present, objects, starts, token⟩ := refers
    refine ⟨_, ⟨_, present, objects, rfl⟩, ?_⟩
    exact Whitelist.mem_labelsOf.mpr ⟨production, rfl, starts, token⟩

/-- The restricted keywords and the buckets have the labels of all keywords between them, and no
other texts. -/
def Complete (classification : Classification) : Prop :=
  ∀ label,
    (label ∈ classification.restrictedKeywords
      ∨ ∃ bucket ∈ classification.whitelist, label ∈ bucket.2)
    ↔ label ∈ classification.keywords.map Keyword.label

/-- Every keyword is restricted or in a bucket, since it is restricted where no bucket has it. -/
theorem restricted_or_whitelisted
    (labelled : Keyword.Labelled classification.keywordTable)
    (known : label ∈ classification.keywords.map Keyword.label)
    : label ∈ classification.restrictedKeywords
      ∨ ∃ bucket ∈ classification.whitelist, label ∈ bucket.2 := by
  rw [map_label_keywords labelled] at known
  by_cases whitelisted : ∃ bucket ∈ classification.whitelist, label ∈ bucket.2
  · exact .inr whitelisted
  · exact .inl (mem_restrictedKeywords.mpr ⟨known, whitelisted⟩)

/-- A classification is complete if and only if its buckets have nothing but keyword labels, since
restricted keywords are keywords in any case. -/
theorem complete_iff_buckets (labelled : Keyword.Labelled classification.keywordTable)
    : classification.Complete
      ↔ ∀ label,
          (∃ bucket ∈ classification.whitelist, label ∈ bucket.2)
          → label ∈ classification.keywords.map Keyword.label := by
  constructor
  · intro complete label whitelisted
    exact (complete label).mp (.inr whitelisted)
  · intro only label
    refine ⟨?_, restricted_or_whitelisted labelled⟩
    rintro (restricted | whitelisted)
    · rw [map_label_keywords labelled]
      exact (mem_restrictedKeywords.mp restricted).1
    · exact only label whitelisted

/-- Of a classification that comes from tables every keyword label is restricted or in a bucket. The
classification is complete if and only if every text that an object-name production refers to is the
name of a literal that is a word; that is, if and only if every label of a union of buckets has an
image. -/
theorem complete_iff_words_referred {tables : Tables} {options : Options}
    {classification : Classification}
    (classified : ofTables tables options = .ok classification)
    : (∀ label ∈ classification.keywords.map Keyword.label,
        label ∈ classification.restrictedKeywords
        ∨ ∃ bucket ∈ classification.whitelist, label ∈ bucket.2)
      ∧ (classification.Complete
        ↔ ∀ label,
            Refers tables options label
            → ∃ image,
                some (.literal label image) ∈ tables.tokens.values ∧ Keyword.isWord image)
      ∧ (classification.Complete
        ↔ ∀ names, ∀ label ∈ classification.whitelistFor names,
            classification.imageForLabel label ≠ none) := by
  have labelled : Keyword.Labelled classification.keywordTable :=
    Keyword.labelled_collect (ofTables_ok classified).1
  refine ⟨fun label => restricted_or_whitelisted labelled, ?_, ?_⟩
  · rw [complete_iff_buckets labelled]
    simp only [mem_buckets_of_classified classified, mem_labels_of_classified classified]
  · rw [complete_iff_buckets labelled]
    constructor
    · intro only names label member
      obtain ⟨name, -, labels, present, inside⟩ := mem_whitelistFor.mp member
      rw [ne_eq, imageForLabel_eq_none_iff labelled, not_not]
      exact only label ⟨_, present, inside⟩
    · intro shown label whitelisted
      have image := shown _ label (mem_whitelistFor_all.mpr whitelisted)
      rwa [ne_eq, imageForLabel_eq_none_iff labelled, not_not] at image

/-- Tables with a word that an object-name production refers to, and no other text in it that starts
like a keyword. -/
def plainTables : Tables where
  tokens :=
    Dictionary.ofList
      [("K_ACTION", some (.literal "K_ACTION" "action")),
        ("NAME", some (.other "NAME" "PatternRE"))]
  productions :=
    Dictionary.ofList
      [("relobjectname",
          some (.production (Production.ofBody "relobjectname"
            [⟨"NAME", "TERMINAL"⟩, ⟨"K_ACTION", "TERMINAL"⟩])))]

/-- The classification of the plain tables is complete: the only text referred to is the word. -/
theorem complete_iff_words_referred_plain
    : ∃ classification,
        ofTables plainTables {} = .ok classification ∧ classification.Complete := by
  have classified : ofTables plainTables {} = .ok ⟨_, _⟩ := rfl
  refine ⟨_, classified, (complete_iff_words_referred classified).2.1.mpr ?_⟩
  rintro label ⟨name, production, member, -, starts, token, inside, rfl⟩
  cases List.mem_singleton.mp member
  have scanned
      : token
        ∈ [Token.header "relobjectname", ⟨"NAME", "TERMINAL"⟩, ⟨"K_ACTION", "TERMINAL"⟩] := inside
  simp only [List.mem_cons, List.not_mem_nil, or_false] at scanned
  rcases scanned with rfl | rfl | rfl
  · exact absurd starts (by decide)
  · exact absurd starts (by decide)
  · exact ⟨"action", List.mem_cons_self, by decide⟩

/-- Tables whose object-name production refers to a pattern that is named like a keyword. -/
def patternTables : Tables where
  tokens := Dictionary.ofList [("K_NAME", some (.other "K_NAME" "PatternRE"))]
  productions :=
    Dictionary.ofList
      [("relobjectname",
          some (.production (Production.ofBody "relobjectname" [⟨"K_NAME", "TERMINAL"⟩])))]

/-- The tables with the pattern have a classification that is not complete: the pattern is in a
bucket, and no keyword. -/
theorem not_complete_pattern
    : ∃ classification,
        ofTables patternTables {} = .ok classification
        ∧ ¬ classification.Complete
        ∧ "K_NAME" ∈ classification.whitelistFor ["relobjectname"]
        ∧ classification.imageForLabel "K_NAME" = none := by
  have classified : ofTables patternTables {} = .ok ⟨_, _⟩ := rfl
  refine ⟨_, classified, ?_, by decide, rfl⟩
  intro complete
  have known := (complete "K_NAME").mp (.inr ⟨("relobjectname", ["K_NAME"]), by decide, by decide⟩)
  obtain ⟨image, member, -⟩ := (mem_labels_of_classified classified).mp known
  cases List.mem_singleton.mp member

end Classification

end ReservedWords
