import ReservedWords.Proofs.Classification.FirstSeen

/-!
The union of buckets. The labels of some buckets are shown in the order in which they are first
seen, so naming more buckets only adds labels at the end, and naming a bucket again or one that
there is not adds nothing.
-/

namespace ReservedWords.Classification

variable {classification : Classification}

/-- The labels that a name contributes: its bucket, or nothing if it has none. -/
def bucketFor (classification : Classification) (name : String) : List String :=
  (classification.buckets.get? name).getD []

theorem mem_bucketFor {name label : String}
    : label ∈ classification.bucketFor name
      ↔ ∃ labels, (name, labels) ∈ classification.whitelist ∧ label ∈ labels := by
  simp only [bucketFor, whitelist, ← Dictionary.get?_eq_some_iff]
  cases classification.buckets.get? name <;> simp

theorem bucketFor_of_unknown {name : String}
    (unknown : name ∉ classification.whitelist.map Prod.fst)
    : classification.bucketFor name = [] := by
  refine List.eq_nil_iff_forall_not_mem.mpr fun label member => ?_
  obtain ⟨labels, present, -⟩ := mem_bucketFor.mp member
  exact unknown (List.mem_map_of_mem present)

/-- The union of the buckets of some names is stable: it has the labels of the buckets that there
are, once each, in the order in which the buckets first have them; naming more buckets adds what
they have besides; names without a bucket and repeated names add nothing; and the order of the names
decides about nothing but the order of the labels. -/
structure StableUnion (classification : Classification) : Prop where
  distinct : ∀ names, (classification.whitelistFor names).Nodup
  members
    : ∀ names label,
        label ∈ classification.whitelistFor names
        ↔ ∃ name ∈ names, ∃ labels, (name, labels) ∈ classification.whitelist ∧ label ∈ labels
  ordered
    : ∀ names,
        FirstSeen (classification.whitelistFor names) (names.flatMap classification.bucketFor)
  starts
    : ∀ names more,
        classification.whitelistFor names <+: classification.whitelistFor (names ++ more)
  appended
    : ∀ names more,
        classification.whitelistFor (names ++ more)
        = classification.whitelistFor names
          ++ (classification.whitelistFor more).filter (· ∉ classification.whitelistFor names)
  unknown
    : ∀ before name after,
        name ∉ classification.whitelist.map Prod.fst
        → classification.whitelistFor (before ++ name :: after)
          = classification.whitelistFor (before ++ after)
  again
    : ∀ before name after,
        name ∈ before
        → classification.whitelistFor (before ++ name :: after)
          = classification.whitelistFor (before ++ after)
  permuted
    : ∀ {names others : List String},
        names.Perm others
        → (classification.whitelistFor names).Perm (classification.whitelistFor others)

theorem firstSeen_whitelistFor (classification : Classification) (names : List String)
    : FirstSeen (classification.whitelistFor names) (names.flatMap classification.bucketFor) :=
  FirstSeen.nil.foldl_see _

theorem whitelistFor_append (classification : Classification) (names more : List String)
    : classification.whitelistFor (names ++ more)
      = (more.flatMap classification.bucketFor).foldl see (classification.whitelistFor names) := by
  rw [whitelistFor, whitelistFor, List.flatMap_append, List.foldl_append]
  rfl

/-- A name whose labels are all seen before adds nothing, wherever it stands. -/
theorem whitelistFor_insert {before : List String} {name : String}
    (seen : ∀ label ∈ classification.bucketFor name, label ∈ classification.whitelistFor before)
    (after : List String)
    : classification.whitelistFor (before ++ name :: after)
      = classification.whitelistFor (before ++ after) := by
  rw [whitelistFor_append, whitelistFor_append, List.flatMap_cons, List.foldl_append,
    foldl_see_of_subset seen]

/-- The union of buckets is stable, since it goes through their labels one after the other and keeps
those that are new. -/
theorem stableUnion_whitelistFor (classification : Classification)
    : classification.StableUnion := by
  have appended (names more : List String)
      : classification.whitelistFor (names ++ more)
        = classification.whitelistFor names
          ++ (classification.whitelistFor more).filter
              (· ∉ classification.whitelistFor names) := by
    rw [whitelistFor_append]
    exact foldl_see _ _
  refine
    { distinct := fun names => (firstSeen_whitelistFor classification names).distinct
      members := fun names label => mem_whitelistFor
      ordered := firstSeen_whitelistFor classification
      starts := fun names more => ⟨_, (appended names more).symm⟩
      appended
      unknown := ?_
      again := ?_
      permuted := ?_ }
  · intro before name after unknown
    apply whitelistFor_insert
    simp [bucketFor_of_unknown unknown]
  · intro before name after earlier
    apply whitelistFor_insert
    intro label member
    exact mem_whitelistFor.mpr ⟨name, earlier, mem_bucketFor.mp member⟩
  · intro names others same
    apply (List.perm_ext_iff_of_nodup (firstSeen_whitelistFor classification names).distinct
      (firstSeen_whitelistFor classification others).distinct).mpr
    intro label
    simp only [mem_whitelistFor, same.mem_iff]

end ReservedWords.Classification
