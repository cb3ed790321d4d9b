import ReservedWords.Dictionary

/-!
Looking up in a dictionary. Since no key occurs twice, the value of a key is that of its only entry,
and a dictionary made from entries with distinct keys has just these entries.
-/

namespace ReservedWords.Dictionary

variable {α : Type} {dictionary : Dictionary α} {key : String} {value : α}

/-- Among entries with distinct keys the value of a key is that of its only entry, by induction on
the entries. -/
theorem lookup_eq_some_iff_mem {entries : List (String × α)}
    (distinct : (entries.map Prod.fst).Nodup)
    : entries.lookup key = some value ↔ (key, value) ∈ entries := by
  induction entries with
  | nil => simp
  | cons entry rest ih =>
    obtain ⟨known, old⟩ := entry
    rw [List.map_cons, List.nodup_cons] at distinct
    by_cases same : key = known
    · subst same
      have others : (key, value) ∉ rest := fun member =>
        distinct.1 (List.mem_map.mpr ⟨(key, value), member, rfl⟩)
      simp [others, eq_comm]
    · simp [List.lookup_cons, beq_eq_false_iff_ne.mpr same, same, ih distinct.2]

theorem get?_eq_some_iff : dictionary.get? key = some value ↔ (key, value) ∈ dictionary.entries :=
  lookup_eq_some_iff_mem dictionary.nodup

theorem isSome_get?_iff : (dictionary.get? key).isSome ↔ key ∈ dictionary.keys := by
  simp only [Option.isSome_iff_exists, get?_eq_some_iff, keys, List.mem_map, Prod.exists,
    exists_and_right, exists_eq_right]

theorem exists_get?_of_mem_keys (present : key ∈ dictionary.keys)
    : ∃ value, dictionary.get? key = some value :=
  Option.isSome_iff_exists.mp (isSome_get?_iff.mpr present)

theorem mem_keys_of_get? (found : dictionary.get? key = some value) : key ∈ dictionary.keys :=
  isSome_get?_iff.mp (Option.isSome_of_eq_some found)

theorem mem_entries_insert {known : String} {old : α}
    : (known, old) ∈ (dictionary.insert key value).entries
      ↔ known = key ∧ old = value ∨ known ≠ key ∧ (known, old) ∈ dictionary.entries := by
  rw [← get?_eq_some_iff, get?_insert, ← get?_eq_some_iff]
  by_cases same : known = key <;> simp [same, eq_comm]

/-- Giving a key the value that it has changes nothing, by induction on the entries. -/
theorem upsert_of_lookup {entries : List (String × α)} (found : entries.lookup key = some value)
    : upsert key value entries = entries := by
  induction entries with
  | nil => cases found
  | cons entry rest ih =>
    obtain ⟨known, old⟩ := entry
    by_cases same : known = key
    · subst same
      rw [List.lookup_cons_self] at found
      cases found
      exact if_pos rfl
    · rw [List.lookup_cons, beq_eq_false_iff_ne.mpr (Ne.symm same)] at found
      rw [upsert, if_neg same, ih found]

theorem insert_of_get? (found : dictionary.get? key = some value)
    : dictionary.insert key value = dictionary := by
  obtain ⟨entries, nodup⟩ := dictionary
  simp only [insert, upsert_of_lookup found]

section

variable {κ : Type} [DecidableEq κ]

/-- Inserting under a new key adds the entry at the end, by induction on the entries. -/
theorem upsert_of_not_mem {key : κ} {entries : List (κ × α)} (absent : key ∉ entries.map Prod.fst)
    : upsert key value entries = entries ++ [(key, value)] := by
  induction entries with
  | nil => rfl
  | cons entry rest ih =>
    rw [List.map_cons, List.mem_cons, not_or] at absent
    rw [upsert, if_neg (Ne.symm absent.1), ih absent.2, List.cons_append]

/-- Entries with distinct keys, none of them known, are all added at the end, by induction on them.
-/
theorem foldl_upsert (entries known : List (κ × α))
    (distinct : ((known ++ entries).map Prod.fst).Nodup)
    : entries.foldl (fun known entry => upsert entry.1 entry.2 known) known = known ++ entries := by
  induction entries generalizing known with
  | nil => simp
  | cons entry rest ih =>
    have absent : entry.1 ∉ known.map Prod.fst := by
      rw [List.map_append, List.nodup_append] at distinct
      intro member
      exact distinct.2.2 _ member _ (List.mem_map_of_mem List.mem_cons_self) rfl
    have added : upsert entry.1 entry.2 known = known ++ [entry] := upsert_of_not_mem absent
    rw [List.foldl_cons, added, ih _ (by rwa [List.append_assoc]), List.append_assoc]
    rfl

end

/-- Entries with distinct keys are the entries of their dictionary. -/
theorem entries_ofList {entries : List (String × α)} (distinct : (entries.map Prod.fst).Nodup)
    : (ofList entries).entries = entries := by
  have inserted
      : entries.foldl (fun known entry => upsert entry.1 entry.2 known) (empty : Dictionary α).entries
        = (ofList entries).entries := by
    rw [ofList]
    exact List.foldl_hom Dictionary.entries fun _ _ => rfl
  rw [← inserted]
  exact foldl_upsert entries [] distinct

/-- Nothing is in a dictionary but what was inserted, by induction on the entries. -/
theorem mem_of_mem_foldl_insert {entries : List (String × α)} {entry : String × α}
    (member
      : entry
        ∈ (entries.foldl (fun dictionary entry => dictionary.insert entry.1 entry.2)
            dictionary).entries)
    : entry ∈ dictionary.entries ∨ entry ∈ entries := by
  induction entries generalizing dictionary with
  | nil => exact .inl member
  | cons first rest ih =>
    rcases ih member with known | later
    · rcases mem_entries_insert.mp known with ⟨key, value⟩ | ⟨-, earlier⟩
      · exact .inr (List.mem_cons.mpr (.inl (Prod.ext key value)))
      · exact .inl earlier
    · exact .inr (List.mem_cons_of_mem _ later)

theorem mem_of_mem_ofList {entries : List (String × α)} {entry : String × α}
    (member : entry ∈ (ofList entries).entries)
    : entry ∈ entries :=
  (mem_of_mem_foldl_insert member).resolve_left List.not_mem_nil

end ReservedWords.Dictionary
