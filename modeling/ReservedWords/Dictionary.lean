/-!
Ordered dictionaries. Entries keep the place of their first insertion, a later value for a known key
replaces the earlier one, and no key occurs twice.
-/

namespace ReservedWords

/-- Entries with distinct keys, in the order in which the keys first came. -/
structure Dictionary (α : Type) where
  entries : List (String × α)
  nodup : (entries.map Prod.fst).Nodup

namespace Dictionary

variable {α : Type}

/-- Replaces the value of a known key in place, else adds the entry at the end. -/
def upsert {κ : Type} [DecidableEq κ] (key : κ) (value : α) : List (κ × α) → List (κ × α)
  | [] => [(key, value)]
  | (known, old) :: rest =>
    if known = key then (known, value) :: rest else (known, old) :: upsert key value rest

theorem map_fst_upsert (key : String) (value : α) (entries : List (String × α))
    : (upsert key value entries).map Prod.fst
      = if key ∈ entries.map Prod.fst then entries.map Prod.fst
        else entries.map Prod.fst ++ [key] := by
  induction entries with
  | nil => rfl
  | cons entry rest step =>
    obtain ⟨known, old⟩ := entry
    by_cases same : known = key
    · subst same
      simp [upsert]
    · have other : ¬ key = known := fun h => same h.symm
      by_cases member : key ∈ rest.map Prod.fst <;> simp_all [upsert]

theorem nodup_upsert (key : String) (value : α) {entries : List (String × α)}
    (distinct : (entries.map Prod.fst).Nodup)
    : ((upsert key value entries).map Prod.fst).Nodup := by
  rw [map_fst_upsert]
  split
  · exact distinct
  · rename_i fresh
    rw [List.nodup_append]
    refine ⟨distinct, by simp, ?_⟩
    intro known member other same
    simp only [List.mem_singleton] at same
    intro equal
    exact fresh (same ▸ equal ▸ member)

/-- The dictionary without entries. -/
def empty : Dictionary α := ⟨[], List.nodup_nil⟩

/-- Gives a key a value. A known key keeps its place. -/
def insert (dictionary : Dictionary α) (key : String) (value : α) : Dictionary α :=
  ⟨upsert key value dictionary.entries, nodup_upsert key value dictionary.nodup⟩

/-- Inserts entries one after the other. -/
def ofList (entries : List (String × α)) : Dictionary α :=
  entries.foldl (fun dictionary entry => dictionary.insert entry.1 entry.2) empty

/-- The keys in the order of their first insertion. -/
def keys (dictionary : Dictionary α) : List String :=
  dictionary.entries.map Prod.fst

/-- The values in the order of their keys. -/
def values (dictionary : Dictionary α) : List α :=
  dictionary.entries.map Prod.snd

/-- The value of a key, if it has one. -/
def get? (dictionary : Dictionary α) (key : String) : Option α :=
  dictionary.entries.lookup key

/-- Whether a key has a value. -/
def contains (dictionary : Dictionary α) (key : String) : Bool :=
  (dictionary.get? key).isSome

/-- Keeps the entries that pass a test. -/
def filter (keep : String → α → Bool) (dictionary : Dictionary α) : Dictionary α :=
  ⟨dictionary.entries.filter fun entry => keep entry.1 entry.2,
    (List.filter_sublist.map Prod.fst).nodup dictionary.nodup⟩

/-- The number of entries. -/
def size (dictionary : Dictionary α) : Nat :=
  dictionary.entries.length

@[simp] theorem keys_empty : (empty : Dictionary α).keys = [] := rfl

theorem keys_insert (dictionary : Dictionary α) (key : String) (value : α)
    : (dictionary.insert key value).keys
      = if key ∈ dictionary.keys then dictionary.keys else dictionary.keys ++ [key] :=
  map_fst_upsert key value dictionary.entries

theorem lookup_upsert (key other : String) (value : α) (entries : List (String × α))
    : (upsert key value entries).lookup other
      = if other = key then some value else entries.lookup other := by
  induction entries with
  | nil =>
    by_cases same : other = key
    · simp [upsert, same]
    · simp [upsert, List.lookup_cons, same, beq_eq_false_iff_ne.2 same]
  | cons entry rest step =>
    obtain ⟨known, old⟩ := entry
    by_cases equal : other = known
    · subst equal
      by_cases same : other = key
      · simp [upsert, same]
      · simp [upsert, same]
    · have differ := beq_eq_false_iff_ne.2 equal
      by_cases same : known = key
      · subst same
        simp [upsert, List.lookup_cons, differ, equal]
      · simp [upsert, List.lookup_cons, same, differ, step]

/-- Looking up after an insertion finds the new value under its key and the old one elsewhere. -/
theorem get?_insert (dictionary : Dictionary α) (key other : String) (value : α)
    : (dictionary.insert key value).get? other
      = if other = key then some value else dictionary.get? other :=
  lookup_upsert key other value dictionary.entries

end Dictionary

end ReservedWords
