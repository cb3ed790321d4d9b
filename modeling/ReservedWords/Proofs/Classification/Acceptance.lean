import ReservedWords.Proofs.Classification.Buckets
import ReservedWords.Proofs.Classification.Queries

/-!
Tables that have a classification. Where every entry is an item under its own name, no two literals
have one name, so collecting finds no fault and every literal that is a word becomes a keyword.
-/

namespace ReservedWords

/-- Every entry of a table is an item under its own name. -/
def Dictionary.NamesItems (table : Dictionary Entry) : Prop :=
  ∀ entry ∈ table.entries, ∃ item, entry.2 = some item ∧ item.name = entry.1

namespace Keyword

/-- An image is a word if and only if there is a first character and it is a letter. -/
theorem isWord_iff {image : Text.CodeText}
    : isWord image ↔ ∃ first rest, image = .char first :: rest ∧ Text.isAlphabetic first := by
  rcases image with _ | ⟨c | index, rest⟩ <;> simp [isWord]

/-- The keyword that an entry makes, with its label. -/
def wordOf? : Entry → Option (String × Keyword)
  | some (.literal name image) => if isWord image then some (name, ⟨name, image⟩) else none
  | _ => none

theorem wordOf?_eq_some_iff {entry : Entry} {label : String} {keyword : Keyword}
    : wordOf? entry = some (label, keyword)
      ↔ entry = some (.literal label keyword.image)
        ∧ isWord keyword.image
        ∧ keyword.label = label := by
  obtain ⟨name, image⟩ := keyword
  match entry with
  | none | some (.production _) | some (.other _ _) => simp [wordOf?]
  | some (.literal known text) =>
    by_cases word : isWord text
    · simp only [wordOf?, if_pos word]
      grind
    · simp only [wordOf?, if_neg word]
      grind

/-- An item of a new name adds the keyword that it makes, if it makes one. -/
theorem add_of_not_mem {found : Dictionary Keyword} {item : Item} (fresh : item.name ∉ found.keys)
    : ∃ after,
        add found (some item) = .ok after
        ∧ after.entries = found.entries ++ (wordOf? (some item)).toList := by
  cases item with
  | production rule => exact ⟨found, rfl, (List.append_nil _).symm⟩
  | other name kind => exact ⟨found, rfl, (List.append_nil _).symm⟩
  | literal name image =>
    by_cases word : isWord image
    · have absent : found.get? name = none :=
        Option.not_isSome_iff_eq_none.mp (mt Dictionary.isSome_get?_iff.mp fresh)
      refine ⟨found.insert name ⟨name, image⟩, by simp only [add, if_pos word, absent], ?_⟩
      rw [wordOf?, if_pos word]
      exact Dictionary.upsert_of_not_mem fresh
    · refine ⟨found, by rw [add, if_neg word], ?_⟩
      rw [wordOf?, if_neg word]
      exact (List.append_nil _).symm

/-- Items with distinct names add just the keywords that they make, by induction on the entries: the
names found so far are those of earlier entries. -/
theorem foldlM_add_ok {entries : List (String × Entry)} {found : Dictionary Keyword}
    (named : ∀ entry ∈ entries, ∃ item, entry.2 = some item ∧ item.name = entry.1)
    (distinct : (found.keys ++ entries.map Prod.fst).Nodup)
    : ∃ after,
        (entries.map Prod.snd).foldlM add found = .ok after
        ∧ after.entries = found.entries ++ entries.filterMap fun entry => wordOf? entry.2 := by
  induction entries generalizing found with
  | nil => exact ⟨found, rfl, (List.append_nil _).symm⟩
  | cons entry rest ih =>
    obtain ⟨item, content, name⟩ := named entry List.mem_cons_self
    have fresh : item.name ∉ found.keys := by
      rw [name]
      exact fun known => (List.nodup_append.mp distinct).2.2 _ known _ (by simp) rfl
    obtain ⟨next, added, grown⟩ := add_of_not_mem fresh
    have keys : ∀ label ∈ next.keys, label ∈ found.keys ∨ label = entry.1 := by
      intro label member
      rw [Dictionary.keys, grown, List.map_append, List.mem_append] at member
      refine member.imp_right fun made => ?_
      obtain ⟨⟨known, keyword⟩, made, same⟩ := List.mem_map.mp made
      obtain ⟨literal, -, -⟩ := wordOf?_eq_some_iff.mp (Option.mem_toList.mp made)
      cases literal
      exact same.symm.trans name
    have apart : (next.keys ++ rest.map Prod.fst).Nodup := by
      rw [List.map_cons, List.nodup_append, List.nodup_cons] at distinct
      refine List.nodup_append.mpr ⟨next.nodup, distinct.2.1.2, ?_⟩
      rintro label member _ later rfl
      rcases keys label member with known | rfl
      · exact distinct.2.2 _ known _ (List.mem_cons_of_mem _ later) rfl
      · exact distinct.2.1.1 later
    obtain ⟨after, collected, shape⟩ :=
      ih (fun later member => named later (List.mem_cons_of_mem _ member)) apart
    refine ⟨after, ?_, ?_⟩
    · rw [List.map_cons, List.foldlM_cons, content, added]
      exact collected
    · rw [shape, grown, List.append_assoc]
      cases made : wordOf? (some item) <;> simp [content, made]

end Keyword

namespace Classification

/-- Tables whose entries are items under their own names have a classification, whatever the
options, and its keywords are the literals of the token table that are words. -/
theorem ofTables_of_namesItems {tables : Tables} (tokens : tables.tokens.NamesItems)
    (productions : tables.productions.NamesItems) (options : Options)
    : ∃ classification,
        ofTables tables options = .ok classification
        ∧ ∀ label image,
            (⟨label, image⟩ : Keyword) ∈ classification.keywords
            ↔ tables.tokens.get? label = some (some (.literal label image))
              ∧ Keyword.isWord image := by
  obtain ⟨found, collected, shape⟩ :=
    @Keyword.foldlM_add_ok _ Dictionary.empty tokens tables.tokens.nodup
  have items
      : ∀ entry ∈ tables.productions.entries, options.namesObjects entry.1 → entry.2 ≠ none := by
    intro entry member _
    obtain ⟨item, content, -⟩ := productions entry member
    exact content ▸ Option.some_ne_none item
  obtain ⟨buckets, gathered, -⟩ := Whitelist.collect_ok items
  have keywords : Keyword.collect tables.tokens.values = .ok found := collected
  have classified : ofTables tables options = .ok ⟨found, buckets⟩ :=
    ofTables_of_collect keywords gathered
  refine ⟨⟨found, buckets⟩, classified, fun label image => ?_⟩
  rw [mem_keywords (Keyword.labelled_collect keywords), Dictionary.get?_eq_some_iff, shape,
    Dictionary.get?_eq_some_iff]
  simp only [Dictionary.empty, List.nil_append, List.mem_filterMap, Keyword.wordOf?_eq_some_iff,
    Prod.exists]
  constructor
  · rintro ⟨key, entry, member, rfl, word, -⟩
    obtain ⟨item, content, name⟩ := tokens _ member
    cases content
    cases name
    exact ⟨member, word⟩
  · rintro ⟨member, word⟩
    exact ⟨label, _, member, rfl, word, trivial⟩

end Classification

end ReservedWords
