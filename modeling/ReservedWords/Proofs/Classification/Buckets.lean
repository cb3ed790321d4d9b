import ReservedWords.Proofs.Dictionary
import ReservedWords.Whitelist

/-!
Collecting buckets. Unless an object-name entry is no item, there is one bucket for each object-name
key, in table order.
-/

namespace ReservedWords

variable {options : Options} {name : String}

/-- A production names objects if its name has the one end and lacks the other. -/
theorem Options.namesObjects_iff
    : options.namesObjects name
      ↔ options.productionStart.toList <+: name.toList
        ∧ ¬ options.aggregateEnd.toList <:+ name.toList := by
  rw [namesObjects, startsWith, endsWith, Bool.and_eq_true, Bool.not_eq_true', ← Bool.not_eq_true,
    List.isPrefixOf_iff_prefix, List.isSuffixOf_iff_suffix]

namespace Whitelist

/-- The labels of an entry: the keyword references of a production, none for anything else. -/
def labelsOf (options : Options) : Entry → List String
  | some (.production production) => production.keywordReferences options.keywordStart
  | _ => []

theorem bucket_of_some {item : Item}
    : bucket options (some item) = .ok (labelsOf options (some item)) := by
  cases item <;> rfl

/-- The object-name entries have their buckets, in their order and nothing else, by induction on the
entries. -/
theorem bucketsFrom_ok {entries : List (String × Entry)}
    (sound : ∀ entry ∈ entries, options.namesObjects entry.1 → entry.2 ≠ none)
    : bucketsFrom options entries
      = .ok
          ((entries.filter fun entry => options.namesObjects entry.1).map fun entry =>
            (entry.1, labelsOf options entry.2)) := by
  induction entries with
  | nil => rfl
  | cons entry rest ih =>
    have others := ih fun later member => sound later (List.mem_cons_of_mem _ member)
    obtain ⟨name, content⟩ := entry
    by_cases objects : options.namesObjects name
    · obtain ⟨item, rfl⟩ :=
        Option.ne_none_iff_exists'.mp (sound (name, content) List.mem_cons_self objects)
      rw [bucketsFrom, if_pos objects, bucket_of_some, others, List.filter_cons, if_pos objects]
      rfl
    · rw [bucketsFrom, if_neg objects, others, List.filter_cons, if_neg objects]

/-- A table whose object-name entries are items has just these buckets, since its keys are distinct.
-/
theorem collect_ok {productions : Dictionary Entry}
    (sound : ∀ entry ∈ productions.entries, options.namesObjects entry.1 → entry.2 ≠ none)
    : ∃ buckets,
        collect productions options = .ok buckets
        ∧ buckets.entries
          = (productions.entries.filter fun entry => options.namesObjects entry.1).map fun entry =>
              (entry.1, labelsOf options entry.2) := by
  refine ⟨_, by rw [collect, bucketsFrom_ok sound]; rfl, Dictionary.entries_ofList ?_⟩
  rw [List.map_map]
  exact (List.filter_sublist.map Prod.fst).nodup productions.nodup

end Whitelist

end ReservedWords
