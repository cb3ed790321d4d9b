import ReservedWords.Proofs.Classification.Queries

/-!
Texts in the order in which they are first seen. Going through a list and keeping every text that
is new gives the texts of the list once each, ordered by their first places; whatever is gone
through later only adds texts at the end.
-/

namespace ReservedWords

/-- Some texts are those of a list, each of them once, in the order of their first places in it. -/
structure FirstSeen (texts given : List String) : Prop where
  distinct : texts.Nodup
  complete : ∀ text, text ∈ texts ↔ text ∈ given
  ordered : texts.Pairwise fun first second => given.idxOf first < given.idxOf second

namespace Classification

variable {seen labels : List String} {label : String}

theorem see_of_mem (known : label ∈ seen) : see seen label = seen :=
  if_pos (List.contains_iff_mem.mpr known)

theorem see_of_not_mem (fresh : label ∉ seen) : see seen label = seen ++ [label] :=
  if_neg (mt List.contains_iff_mem.mp fresh)

/-- Labels that are seen already add nothing, by induction on them. -/
theorem foldl_see_of_subset (known : ∀ label ∈ labels, label ∈ seen)
    : labels.foldl see seen = seen := by
  induction labels with
  | nil => rfl
  | cons first rest ih =>
    rw [List.foldl_cons, see_of_mem (known first List.mem_cons_self)]
    exact ih fun later member => known later (List.mem_cons_of_mem _ member)

/-- What labels add to those already seen are the labels seen among themselves, without those
already seen, by induction on the labels. -/
theorem foldl_see (labels seen : List String)
    : labels.foldl see seen = seen ++ (labels.foldl see []).filter (· ∉ seen) := by
  induction labels generalizing seen with
  | nil => simp
  | cons first rest ih =>
    have alone : see [] first = [first] := see_of_not_mem List.not_mem_nil
    rw [List.foldl_cons, List.foldl_cons, alone, ih (see seen first), ih [first], List.filter_append,
      List.filter_filter]
    by_cases known : first ∈ seen
    · rw [see_of_mem known, List.filter_cons_of_neg (by simpa using known), List.filter_nil,
        List.nil_append]
      refine congrArg (seen ++ ·) (List.filter_congr fun label _ => ?_)
      have apart : label ∉ seen → label ≠ first := fun fresh same => fresh (same ▸ known)
      simpa using apart
    · rw [see_of_not_mem known, List.filter_cons_of_pos (by simpa using known), List.filter_nil,
        List.append_assoc]
      refine congrArg (fun rest => seen ++ ([first] ++ rest)) (List.filter_congr fun label _ => ?_)
      simp

end Classification

namespace FirstSeen

variable {texts given : List String}

theorem nil : FirstSeen [] [] :=
  ⟨List.nodup_nil, fun _ => Iff.rfl, .nil⟩

/-- One more text is seen at the end, unless it is known. -/
theorem see (seen : FirstSeen texts given) (text : String)
    : FirstSeen (Classification.see texts text) (given ++ [text]) := by
  have places : texts.Pairwise fun first second =>
      (given ++ [text]).idxOf first < (given ++ [text]).idxOf second := by
    refine seen.ordered.imp_of_mem fun {first second} left right before => ?_
    rwa [List.idxOf_append_of_mem ((seen.complete first).mp left),
      List.idxOf_append_of_mem ((seen.complete second).mp right)]
  by_cases known : text ∈ texts
  · rw [Classification.see_of_mem known]
    refine ⟨seen.distinct, fun other => ?_, places⟩
    rw [List.mem_append, List.mem_singleton, ← seen.complete other]
    exact ⟨.inl, fun either => either.elim id fun same => same ▸ known⟩
  · rw [Classification.see_of_not_mem known]
    have absent : text ∉ given := mt (seen.complete text).mpr known
    refine ⟨?_, fun other => ?_, ?_⟩
    · rw [List.nodup_append]
      refine ⟨seen.distinct, List.pairwise_singleton _ _, ?_⟩
      intro first member last same
      cases List.mem_singleton.mp same
      exact fun equal => known (equal ▸ member)
    · rw [List.mem_append, List.mem_append, seen.complete other]
    · rw [List.pairwise_append]
      refine ⟨places, List.pairwise_singleton _ _, ?_⟩
      intro first member last same
      cases List.mem_singleton.mp same
      have earlier : first ∈ given := (seen.complete first).mp member
      rw [List.idxOf_append_of_mem earlier, List.idxOf_append_of_notMem absent]
      exact Nat.lt_add_right _ (List.idxOf_lt_length_of_mem earlier)

/-- Going on through more texts, by induction on them. -/
theorem foldl_see (seen : FirstSeen texts given) (more : List String)
    : FirstSeen (more.foldl Classification.see texts) (given ++ more) := by
  induction more generalizing texts given with
  | nil => rwa [List.append_nil]
  | cons text rest ih =>
    rw [List.foldl_cons, List.append_cons]
    exact ih (seen.see text)

end FirstSeen

end ReservedWords
