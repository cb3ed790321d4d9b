import ReservedWords.Proofs.Classification.Collection
import ReservedWords.Proofs.Sorting

/-!
What the queries have in common. The keywords, their images, the buckets, the restricted keywords
and the summary are views of the same two tables, and they agree with each other.
-/

namespace ReservedWords.Classification

variable {classification : Classification} {label : String}

-----------------------------------------------------------------------------------------
-- Keywords and images
-----------------------------------------------------------------------------------------

theorem mem_labels : label ∈ classification.labels ↔ label ∈ classification.keywordTable.keys :=
  mem_sortTexts

theorem pairwise_lt_labels (classification : Classification)
    : classification.labels.Pairwise (· < ·) :=
  pairwise_lt_sortTexts classification.keywordTable.nodup

/-- Keywords under their own labels are shown with the sorted labels, none left out. -/
theorem map_label_keywords (labelled : Keyword.Labelled classification.keywordTable)
    : classification.keywords.map Keyword.label = classification.labels := by
  have found
      : ∀ label ∈ classification.labels,
          (classification.keywordTable.get? label).map Keyword.label = some label := by
    intro label member
    obtain ⟨keyword, present⟩ := Dictionary.exists_get?_of_mem_keys (mem_labels.mp member)
    rw [present, Option.map_some, labelled label keyword (Dictionary.get?_eq_some_iff.mp present)]
  rw [keywords, List.map_filterMap, List.filterMap_congr found, List.filterMap_some]

/-- A keyword under its own label is shown if and only if the table has it there. -/
theorem mem_keywords (labelled : Keyword.Labelled classification.keywordTable) {keyword : Keyword}
    : keyword ∈ classification.keywords
      ↔ classification.keywordTable.get? keyword.label = some keyword := by
  rw [keywords, List.mem_filterMap]
  constructor
  · rintro ⟨label, -, present⟩
    rwa [labelled label keyword (Dictionary.get?_eq_some_iff.mp present)]
  · intro present
    exact ⟨keyword.label, mem_labels.mpr (Dictionary.mem_keys_of_get? present), present⟩

/-- The image of a label is that of the keyword that is shown with it. -/
theorem imageForLabel_eq_some_iff (labelled : Keyword.Labelled classification.keywordTable)
    {image : Text.CodeText}
    : classification.imageForLabel label = some image
      ↔ (⟨label, image⟩ : Keyword) ∈ classification.keywords := by
  rw [mem_keywords labelled, imageForLabel, Option.map_eq_some_iff]
  constructor
  · rintro ⟨keyword, present, rfl⟩
    have named := labelled label keyword (Dictionary.get?_eq_some_iff.mp present)
    subst named
    exact present
  · intro present
    exact ⟨_, present, rfl⟩

theorem imageForLabel_eq_none_iff (labelled : Keyword.Labelled classification.keywordTable)
    : classification.imageForLabel label = none
      ↔ label ∉ classification.keywords.map Keyword.label := by
  rw [map_label_keywords labelled, mem_labels, ← Dictionary.isSome_get?_iff, imageForLabel,
    Option.map_eq_none_iff, Option.not_isSome_iff_eq_none]

-----------------------------------------------------------------------------------------
-- Buckets and restricted keywords
-----------------------------------------------------------------------------------------

theorem mem_see {seen : List String} {first : String}
    : label ∈ see seen first ↔ label ∈ seen ∨ label = first := by
  by_cases known : first ∈ seen
  · have already : label = first → label ∈ seen := fun same => same ▸ known
    rw [see, if_pos (List.contains_iff_mem.mpr known), or_iff_left_of_imp already]
  · rw [see, if_neg (mt List.contains_iff_mem.mp known), List.mem_append, List.mem_singleton]

/-- Seeing labels one after the other adds just these, by induction on them. -/
theorem mem_foldl_see {labels seen : List String}
    : label ∈ labels.foldl see seen ↔ label ∈ seen ∨ label ∈ labels := by
  induction labels generalizing seen with
  | nil => simp
  | cons first rest ih => rw [List.foldl_cons, ih, mem_see, List.mem_cons, or_assoc]

/-- The union of some buckets has the labels of those that there are. -/
theorem mem_whitelistFor {names : List String}
    : label ∈ classification.whitelistFor names
      ↔ ∃ name ∈ names, ∃ labels, (name, labels) ∈ classification.whitelist ∧ label ∈ labels := by
  rw [whitelistFor, mem_foldl_see, List.mem_flatMap]
  simp only [List.not_mem_nil, false_or, whitelist, ← Dictionary.get?_eq_some_iff]
  refine exists_congr fun name => and_congr Iff.rfl ?_
  cases classification.buckets.get? name <;> simp

theorem mem_whitelistFor_all
    : label ∈ classification.whitelistFor (classification.whitelist.map Prod.fst)
      ↔ ∃ bucket ∈ classification.whitelist, label ∈ bucket.2 := by
  rw [mem_whitelistFor]
  constructor
  · rintro ⟨name, -, labels, member, inside⟩
    exact ⟨(name, labels), member, inside⟩
  · rintro ⟨⟨name, labels⟩, member, inside⟩
    exact ⟨name, List.mem_map_of_mem member, labels, member, inside⟩

theorem isWhitelisted_iff
    : classification.isWhitelisted label
      ↔ ∃ bucket ∈ classification.whitelist, label ∈ bucket.2 := by
  simp [isWhitelisted, Dictionary.values, whitelist]

/-- A restricted keyword is a keyword that no bucket holds. -/
theorem mem_restrictedKeywords
    : label ∈ classification.restrictedKeywords
      ↔ label ∈ classification.labels
        ∧ ¬ ∃ bucket ∈ classification.whitelist, label ∈ bucket.2 := by
  rw [restrictedKeywords, mem_sortTexts, List.mem_filter, mem_labels, Bool.not_eq_true',
    ← Bool.not_eq_true, isWhitelisted_iff]

theorem pairwise_lt_restrictedKeywords (classification : Classification)
    : classification.restrictedKeywords.Pairwise (· < ·) :=
  pairwise_lt_sortTexts (classification.keywordTable.nodup.filter _)

-----------------------------------------------------------------------------------------
-- The summary
-----------------------------------------------------------------------------------------

/-- The summary shows every bucket under its name. -/
theorem mem_whitelist_summary {bucket : String × List String}
    : bucket ∈ classification.summary.whitelist ↔ bucket ∈ classification.whitelist := by
  obtain ⟨name, labels⟩ := bucket
  simp only [summary, List.mem_filterMap, mem_sortTexts, Option.map_eq_some_iff, Prod.mk.injEq,
    whitelist, ← Dictionary.get?_eq_some_iff]
  constructor
  · rintro ⟨key, -, bucket, present, rfl, rfl⟩
    exact present
  · intro present
    exact ⟨name, Dictionary.mem_keys_of_get? present, labels, present, rfl, rfl⟩

/-- The names in the summary are those of the buckets, sorted. -/
theorem map_fst_whitelist_summary (classification : Classification)
    : classification.summary.whitelist.map Prod.fst = sortTexts classification.buckets.keys := by
  have found
      : ∀ name ∈ sortTexts classification.buckets.keys,
          ((classification.buckets.get? name).map fun labels => (name, labels)).map Prod.fst
          = some name := by
    intro name member
    obtain ⟨labels, present⟩ := Dictionary.exists_get?_of_mem_keys (mem_sortTexts.mp member)
    rw [present]
    rfl
  rw [summary, List.map_filterMap, List.filterMap_congr found, List.filterMap_some]

theorem pairwise_lt_whitelist_summary (classification : Classification)
    : (classification.summary.whitelist.map Prod.fst).Pairwise (· < ·) := by
  rw [map_fst_whitelist_summary]
  exact pairwise_lt_sortTexts classification.buckets.nodup

end ReservedWords.Classification
