import ReservedWords.Proofs.Classification.Queries
import Mathlib.Data.List.Sort

/-!
Restricted keywords and expected labels. Their difference is the least change that makes the
restricted keywords out of the expected labels, and it depends on nothing but which labels are
expected.
-/

namespace ReservedWords

/-- The expected labels after the change that a difference shows: what is missing is left out, what is
unexpected is added. -/
def Difference.patch (difference : Difference) (expected : List String) : List String :=
  expected.filter (· ∉ difference.missing) ++ difference.unexpected

theorem Difference.mem_patch {difference : Difference} {expected : List String} {label : String}
    : label ∈ difference.patch expected
      ↔ label ∈ expected ∧ label ∉ difference.missing ∨ label ∈ difference.unexpected := by
  rw [patch, List.mem_append, List.mem_filter, decide_eq_true_iff]

namespace Classification

variable {classification : Classification} {expected other : List String} {label : String}

-----------------------------------------------------------------------------------------
-- The two sides of a difference
-----------------------------------------------------------------------------------------

theorem mem_missing
    : label ∈ (classification.compareRestricted expected).missing
      ↔ label ∈ expected ∧ label ∉ classification.restrictedKeywords := by
  simp [compareRestricted, List.mem_eraseDups]

theorem mem_unexpected
    : label ∈ (classification.compareRestricted expected).unexpected
      ↔ label ∈ classification.restrictedKeywords ∧ label ∉ expected := by
  simp [compareRestricted]

theorem pairwise_lt_missing (classification : Classification) (expected : List String)
    : (classification.compareRestricted expected).missing.Pairwise (· < ·) :=
  pairwise_lt_sortTexts (nodup_eraseDups _)

theorem pairwise_lt_unexpected (classification : Classification) (expected : List String)
    : (classification.compareRestricted expected).unexpected.Pairwise (· < ·) := by
  have distinct : classification.restrictedKeywords.Nodup :=
    (pairwise_lt_restrictedKeywords classification).imp ne_of_lt
  exact pairwise_lt_sortTexts (distinct.filter _)

theorem isEmpty_compareRestricted_iff
    : (classification.compareRestricted expected).isEmpty
      ↔ ∀ label, label ∈ expected ↔ label ∈ classification.restrictedKeywords := by
  rw [Difference.isEmpty, Bool.and_eq_true, List.isEmpty_iff, List.isEmpty_iff,
    List.eq_nil_iff_forall_not_mem, List.eq_nil_iff_forall_not_mem]
  simp only [mem_missing, mem_unexpected]
  constructor
  · rintro ⟨nothing, none⟩ label
    exact ⟨fun given => by_contra fun other => nothing label ⟨given, other⟩,
      fun restricted => by_contra fun other => none label ⟨restricted, other⟩⟩
  · intro same
    exact ⟨fun label ⟨given, other⟩ => other ((same label).mp given),
      fun label ⟨restricted, other⟩ => other ((same label).mpr restricted)⟩

/-- Each side has its labels once and sorted, so the expected labels decide about both. -/
theorem compareRestricted_congr (same : ∀ label, label ∈ other ↔ label ∈ expected)
    : classification.compareRestricted other = classification.compareRestricted expected := by
  rw [Difference.mk.injEq]
  constructor
  · apply (pairwise_lt_missing classification other).eq_of_mem_iff
      (pairwise_lt_missing classification expected)
    intro label
    rw [mem_missing, mem_missing, same]
  · apply (pairwise_lt_unexpected classification other).eq_of_mem_iff
      (pairwise_lt_unexpected classification expected)
    intro label
    rw [mem_unexpected, mem_unexpected, same]

-----------------------------------------------------------------------------------------
-- The least repair
-----------------------------------------------------------------------------------------

/-- Leaving some labels out of the expected ones and adding others makes the restricted keywords. -/
def Repairs (classification : Classification) (expected : List String) (removed added : String → Prop)
    : Prop :=
  ∀ label,
    label ∈ expected ∧ ¬ removed label ∨ added label ↔ label ∈ classification.restrictedKeywords

theorem repairs_compareRestricted (classification : Classification) (expected : List String)
    : classification.Repairs expected (· ∈ (classification.compareRestricted expected).missing)
        (· ∈ (classification.compareRestricted expected).unexpected) := by
  intro label
  simp only [mem_missing, mem_unexpected, not_and, not_not]
  constructor
  · rintro (⟨given, still⟩ | ⟨restricted, -⟩)
    · exact still given
    · exact restricted
  · intro restricted
    by_cases given : label ∈ expected
    · exact .inl ⟨given, fun _ => restricted⟩
    · exact .inr ⟨restricted, given⟩

/-- A repair leaves out what is expected wrongly and adds what is not expected. -/
theorem Repairs.covers {removed added : String → Prop}
    (repairs : classification.Repairs expected removed added)
    : (∀ label ∈ (classification.compareRestricted expected).missing, removed label)
      ∧ ∀ label ∈ (classification.compareRestricted expected).unexpected, added label := by
  constructor
  · intro label missing
    obtain ⟨given, other⟩ := mem_missing.mp missing
    by_contra kept
    exact other ((repairs label).mp (.inl ⟨given, kept⟩))
  · intro label unexpected
    obtain ⟨restricted, other⟩ := mem_unexpected.mp unexpected
    refine ((repairs label).mpr restricted).resolve_left fun earlier => ?_
    exact other earlier.1

theorem mem_patch_compareRestricted
    : label ∈ (classification.compareRestricted expected).patch expected
      ↔ label ∈ classification.restrictedKeywords := by
  rw [Difference.mem_patch]
  exact repairs_compareRestricted classification expected label

/-- A difference is the exact patch of expected labels: it shows, each side sorted and without
repetitions, the labels that are expected but not restricted and those that are restricted but not
expected; it makes the restricted keywords out of the expected labels, and no other change that does
so leaves out or adds less; it is empty if and only if the expected labels are the restricted ones, as
they are once it has been made; and neither the order nor the repetitions of the expected labels
matter. -/
structure ExactPatch (classification : Classification) (expected : List String)
    (difference : Difference) : Prop where
  missingIncreasing : difference.missing.Pairwise (· < ·)
  unexpectedIncreasing : difference.unexpected.Pairwise (· < ·)
  missing
    : ∀ label,
        label ∈ difference.missing
        ↔ label ∈ expected ∧ label ∉ classification.restrictedKeywords
  unexpected
    : ∀ label,
        label ∈ difference.unexpected
        ↔ label ∈ classification.restrictedKeywords ∧ label ∉ expected
  apart : difference.missing.Disjoint difference.unexpected
  restricted
    : ∀ label,
        label ∈ classification.restrictedKeywords
        ↔ label ∈ classification.labels ∧ ∀ bucket ∈ classification.whitelist, label ∉ bucket.2
  repairs
    : classification.Repairs expected (· ∈ difference.missing) (· ∈ difference.unexpected)
  least
    : ∀ removed added : String → Prop,
        classification.Repairs expected removed added
        → (∀ label ∈ difference.missing, removed label)
          ∧ ∀ label ∈ difference.unexpected, added label
  fewest
    : ∀ removed added : List String,
        classification.Repairs expected (· ∈ removed) (· ∈ added)
        → difference.missing.length ≤ removed.length
          ∧ difference.unexpected.length ≤ added.length
  met
    : difference.isEmpty ↔ ∀ label, label ∈ expected ↔ label ∈ classification.restrictedKeywords
  patched
    : ∀ label,
        label ∈ difference.patch expected ↔ label ∈ classification.restrictedKeywords
  again : (classification.compareRestricted (difference.patch expected)).isEmpty
  sameLabels
    : ∀ other,
        (∀ label, label ∈ other ↔ label ∈ expected)
        → classification.compareRestricted other = difference

/-- Comparing gives the exact patch, since both sides of a difference are known by their members and
come out sorted. -/
theorem exactPatch_compareRestricted (classification : Classification) (expected : List String)
    : classification.ExactPatch expected (classification.compareRestricted expected) := by
  have missingIncreasing := pairwise_lt_missing classification expected
  have unexpectedIncreasing := pairwise_lt_unexpected classification expected
  refine
    { missingIncreasing
      unexpectedIncreasing
      missing := fun label => mem_missing
      unexpected := fun label => mem_unexpected
      apart := ?_
      restricted := ?_
      repairs := repairs_compareRestricted classification expected
      least := fun removed added repairs => repairs.covers
      fewest := ?_
      met := isEmpty_compareRestricted_iff
      patched := fun label => mem_patch_compareRestricted
      again := isEmpty_compareRestricted_iff.mpr fun label => mem_patch_compareRestricted
      sameLabels := fun other => compareRestricted_congr }
  · intro label missing unexpected
    exact (mem_missing.mp missing).2 (mem_unexpected.mp unexpected).1
  · intro label
    rw [mem_restrictedKeywords]
    simp only [not_exists, not_and]
  · intro removed added repairs
    obtain ⟨left, right⟩ := repairs.covers
    exact ⟨(List.subperm_of_subset (missingIncreasing.imp ne_of_lt) left).length_le,
      (List.subperm_of_subset (unexpectedIncreasing.imp ne_of_lt) right).length_le⟩

end Classification

end ReservedWords
