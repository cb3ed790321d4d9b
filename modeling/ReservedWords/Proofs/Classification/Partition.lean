import ReservedWords.Proofs.Classification.Queries
import Mathlib.Data.List.Nodup

/-!
Whitelisted or restricted. The queries of a classification that comes from tables divide its
keywords exactly, and the summary shows the same division.
-/

namespace ReservedWords.Classification

/-- The queries of a classification are exact and agree with each other: keywords are shown by
increasing labels, and a text has the image of its keyword or none; the restricted keywords are
those that no bucket holds, so every keyword is either restricted or in the union of all buckets;
and the summary shows the same keywords, buckets and restricted keywords, the buckets by increasing
names. -/
structure Exact (classification : Classification) : Prop where
  increasing : (classification.keywords.map Keyword.label).Pairwise (· < ·)
  image
    : ∀ label image,
        classification.imageForLabel label = some image
        ↔ (⟨label, image⟩ : Keyword) ∈ classification.keywords
  noImage
    : ∀ label,
        classification.imageForLabel label = none
        ↔ label ∉ classification.keywords.map Keyword.label
  restrictedIncreasing : classification.restrictedKeywords.Pairwise (· < ·)
  restricted
    : ∀ label,
        label ∈ classification.restrictedKeywords
        ↔ label ∈ classification.keywords.map Keyword.label
          ∧ ∀ bucket ∈ classification.whitelist, label ∉ bucket.2
  apart
    : classification.restrictedKeywords.Disjoint
        (classification.whitelistFor (classification.whitelist.map Prod.fst))
  divided
    : ∀ label ∈ classification.keywords.map Keyword.label,
        label ∈ classification.restrictedKeywords
        ↔ label ∉ classification.whitelistFor (classification.whitelist.map Prod.fst)
  summaryKeywords : classification.summary.keywords = classification.keywords
  summaryWhitelist
    : classification.summary.whitelist.Perm classification.whitelist
      ∧ (classification.summary.whitelist.map Prod.fst).Pairwise (· < ·)
  summaryRestricted : classification.summary.restricted = classification.restrictedKeywords

/-- The summary and the whitelist have the same buckets, since neither has one twice. -/
theorem perm_whitelist_summary (classification : Classification)
    : classification.summary.whitelist.Perm classification.whitelist := by
  have names : (classification.summary.whitelist.map Prod.fst).Nodup :=
    (pairwise_lt_whitelist_summary classification).imp ne_of_lt
  have distinct : classification.summary.whitelist.Nodup := names.of_map Prod.fst
  have others : classification.whitelist.Nodup := classification.buckets.nodup.of_map Prod.fst
  exact (List.perm_ext_iff_of_nodup distinct others).mpr fun _ => mem_whitelist_summary

/-- The queries of every classification that comes from tables are exact: keywords stand under their
own labels in the keyword table, so the sorted labels are those of the keywords, and a keyword is
restricted if and only if the union of all buckets lacks it. -/
theorem exact_of_classified {tables : Tables} {options : Options} {classification : Classification}
    (classified : ofTables tables options = .ok classification)
    : classification.Exact := by
  have labelled : Keyword.Labelled classification.keywordTable :=
    Keyword.labelled_collect (ofTables_ok classified).1
  have labels := map_label_keywords labelled
  refine
    { increasing := labels ▸ pairwise_lt_labels classification
      image := fun label image => imageForLabel_eq_some_iff labelled
      noImage := fun label => imageForLabel_eq_none_iff labelled
      restrictedIncreasing := pairwise_lt_restrictedKeywords classification
      restricted := ?_
      apart := ?_
      divided := ?_
      summaryKeywords := rfl
      summaryWhitelist :=
        ⟨perm_whitelist_summary classification, pairwise_lt_whitelist_summary classification⟩
      summaryRestricted := rfl }
  · intro label
    rw [mem_restrictedKeywords, labels]
    simp only [not_exists, not_and]
  · intro label restricted whitelisted
    exact (mem_restrictedKeywords.mp restricted).2 (mem_whitelistFor_all.mp whitelisted)
  · intro label known
    rw [labels] at known
    rw [mem_restrictedKeywords, mem_whitelistFor_all, and_iff_right known]

/-- Tables with two words, one of them under two keys, and a pattern. The object-name production
repeats a word and refers to a token that is no keyword; the aggregate is no object-name production.
-/
def fewTables : Tables where
  tokens :=
    Dictionary.ofList
      [("K_SELECT", some (.literal "K_SELECT" "select")),
        ("K_ABORT", some (.literal "K_ABORT" "abort")),
        ("SELECT", some (.literal "K_SELECT" "select")),
        ("NAME", some (.other "NAME" "PatternRE"))]
  productions :=
    Dictionary.ofList
      [("relobjectname",
          some (.production (Production.ofBody "relobjectname"
            [⟨"K_ABORT", "TERMINAL"⟩, ⟨"K_ABORT", "TERMINAL"⟩, ⟨"K_OTHER", "TERMINAL"⟩]))),
        ("relobjectnamelist",
          some (.production (Production.ofBody "relobjectnamelist" [⟨"K_SELECT", "TERMINAL"⟩])))]

/-- What `fewTables` holds: two keywords and one bucket. -/
def fewClassification : Classification where
  keywordTable :=
    Dictionary.ofList [("K_SELECT", ⟨"K_SELECT", "select"⟩), ("K_ABORT", ⟨"K_ABORT", "abort"⟩)]
  buckets := Dictionary.ofList [("relobjectname", ["K_ABORT", "K_ABORT", "K_OTHER"])]

/-- The classification of `fewTables` is exact. -/
theorem exact_of_classified_few
    : ofTables fewTables {} = .ok fewClassification ∧ fewClassification.Exact := by
  have classified : ofTables fewTables {} = .ok fewClassification := rfl
  exact ⟨classified, exact_of_classified classified⟩

end ReservedWords.Classification
