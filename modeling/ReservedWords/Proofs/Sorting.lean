import Mathlib.Data.List.Sort
import Mathlib.Data.String.Basic
import ReservedWords.Sorting

/-!
Sorted items. Sorting keeps every item as often as it occurs, and distinct texts come out strictly
increasing.
-/

namespace ReservedWords

section

variable {α : Type} {items : List α} {order : α → α → Bool}

theorem sorted_eq_insertionSort (items : List α) (order : α → α → Bool)
    : sorted items order = items.insertionSort fun first second => order first second := by
  have insert (item : α) (rest : List α)
      : insertSorted order item rest
        = rest.orderedInsert (fun first second => order first second) item := by
    induction rest with
    | nil => rfl
    | cons next rest ih => rw [insertSorted, List.orderedInsert_cons, ih]
  induction items with
  | nil => rfl
  | cons item rest ih => rw [List.insertionSort_cons, ← ih, ← insert, sorted, List.foldr_cons, sorted]

theorem sorted_perm (items : List α) (order : α → α → Bool) : (sorted items order).Perm items := by
  rw [sorted_eq_insertionSort]
  exact List.perm_insertionSort _ items

theorem mem_sorted {item : α} : item ∈ sorted items order ↔ item ∈ items :=
  (sorted_perm items order).mem_iff

end

theorem sortTexts_perm (texts : List String) : (sortTexts texts).Perm texts :=
  sorted_perm texts _

@[simp]
theorem mem_sortTexts {text : String} {texts : List String}
    : text ∈ sortTexts texts ↔ text ∈ texts :=
  (sortTexts_perm texts).mem_iff

/-- Sorted texts do not decrease, since the order of texts is total. -/
theorem pairwise_le_sortTexts (texts : List String) : (sortTexts texts).Pairwise (· ≤ ·) := by
  rw [sortTexts, sorted_eq_insertionSort]
  simp only [decide_eq_true_eq]
  exact List.pairwise_insertionSort (· ≤ ·) texts

/-- Distinct texts increase strictly once they are sorted. -/
theorem pairwise_lt_sortTexts {texts : List String} (distinct : texts.Nodup)
    : (sortTexts texts).Pairwise (· < ·) := by
  have apart : (sortTexts texts).Pairwise (· ≠ ·) := (sortTexts_perm texts).nodup_iff.mpr distinct
  exact (pairwise_le_sortTexts texts).imp₂ (fun _ _ => lt_of_le_of_ne) apart

/-- What is left of texts without their repetitions is distinct, by recursion on the number of texts.
-/
theorem nodup_eraseDups (texts : List String) : texts.eraseDups.Nodup := by
  match texts with
  | [] => exact List.nodup_nil
  | first :: rest =>
    have fewer : (rest.filter fun text => !text == first).length < (first :: rest).length :=
      Nat.lt_succ_of_le (List.length_filter_le _ rest)
    rw [List.eraseDups_cons, List.nodup_cons]
    exact ⟨by simp, nodup_eraseDups _⟩
termination_by texts.length
decreasing_by exact fewer

/-- The order before sorting leaves no trace. -/
theorem sortTexts_eq_of_perm {texts others : List String} (same : texts.Perm others)
    : sortTexts texts = sortTexts others := by
  have permuted : (sortTexts texts).Perm (sortTexts others) :=
    (sortTexts_perm texts).trans (same.trans (sortTexts_perm others).symm)
  exact permuted.eq_of_pairwise (fun _ _ _ _ => le_antisymm) (pairwise_le_sortTexts texts)
    (pairwise_le_sortTexts others)

end ReservedWords
