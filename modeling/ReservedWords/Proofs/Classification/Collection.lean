import ReservedWords.Classification
import ReservedWords.Proofs.Dictionary
import ReservedWords.Proofs.Outcome

/-!
Collecting keywords. Every keyword stands under its own label, whatever the entries are.
-/

namespace ReservedWords

namespace Keyword

/-- Every keyword stands under its own label. -/
def Labelled (found : Dictionary Keyword) : Prop :=
  ∀ label keyword, (label, keyword) ∈ found.entries → keyword.label = label

theorem labelled_empty : Labelled Dictionary.empty := by
  intro label keyword member
  cases member

theorem Labelled.insert {found : Dictionary Keyword} (labelled : Labelled found)
    (name : String) (image : Text.CodeText)
    : Labelled (found.insert name ⟨name, image⟩) := by
  intro label keyword member
  rcases Dictionary.mem_entries_insert.mp member with ⟨rfl, rfl⟩ | ⟨-, earlier⟩
  · rfl
  · exact labelled label keyword earlier

/-- A literal that is a word adds its keyword, unless its name already has another image. -/
theorem add_word_ok {found after : Dictionary Keyword} {name : String} {image : Text.CodeText}
    (word : isWord image) (added : add found (some (.literal name image)) = .ok after)
    : after = found.insert name ⟨name, image⟩ := by
  rw [add, if_pos word] at added
  cases known : found.get? name with
  | none =>
    rw [known] at added
    exact (Except.ok.inj added).symm
  | some keyword =>
    rw [known] at added
    by_cases same : keyword.image = image
    · simp only [if_pos same] at added
      exact (Except.ok.inj added).symm
    · simp only [if_neg same] at added
      cases added

/-- What an entry adds: nothing, or a keyword under the name of a literal, by cases on the entry. -/
theorem add_ok {found after : Dictionary Keyword} {entry : Entry}
    (added : add found entry = .ok after)
    : after = found
      ∨ ∃ name image,
          entry = some (.literal name image)
          ∧ isWord image
          ∧ after = found.insert name ⟨name, image⟩ := by
  match entry with
  | none => cases added
  | some (.production _) | some (.other _ _) =>
    cases added
    exact .inl rfl
  | some (.literal name image) =>
    by_cases word : isWord image
    · exact .inr ⟨name, image, rfl, word, add_word_ok word added⟩
    · rw [add, if_neg word] at added
      exact .inl (Except.ok.inj added).symm

/-- Each entry keeps the keywords under their labels. -/
theorem Labelled.add {found after : Dictionary Keyword} {entry : Entry} (labelled : Labelled found)
    (added : add found entry = .ok after)
    : Labelled after := by
  rcases add_ok added with rfl | ⟨name, image, -, -, rfl⟩
  · exact labelled
  · exact labelled.insert name image

theorem labelled_collect {entries : List Entry} {found : Dictionary Keyword}
    (collected : collect entries = .ok found)
    : Labelled found :=
  foldlM_preserves (fun _ _ _ _ labelled added => labelled.add added) labelled_empty collected

end Keyword

namespace Classification

/-- A classification holds the keywords and the buckets that are collected from its tables. -/
theorem ofTables_ok {tables : Tables} {options : Options} {classification : Classification}
    (classified : ofTables tables options = .ok classification)
    : Keyword.collect tables.tokens.values = .ok classification.keywordTable
      ∧ Whitelist.collect tables.productions options = .ok classification.buckets := by
  obtain ⟨keywordTable, keywords, classified⟩ := bind_eq_ok.mp classified
  obtain ⟨buckets, collected, classified⟩ := bind_eq_ok.mp classified
  cases classified
  exact ⟨keywords, collected⟩

theorem ofTables_of_collect {tables : Tables} {options : Options}
    {keywordTable : Dictionary Keyword} {buckets : Dictionary (List String)}
    (keywords : Keyword.collect tables.tokens.values = .ok keywordTable)
    (collected : Whitelist.collect tables.productions options = .ok buckets)
    : ofTables tables options = .ok ⟨keywordTable, buckets⟩ := by
  rw [ofTables, keywords, collected]
  rfl

end Classification

end ReservedWords
