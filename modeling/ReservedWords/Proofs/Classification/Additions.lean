import ReservedWords.Proofs.Classification.Completeness
import ReservedWords.Proofs.Classification.Offences
import ReservedWords.Proofs.Classification.Union
import Mathlib.Data.List.Sort
import Mathlib.Logic.Relation

/-!
One more entry. A production of a new name takes the labels of its bucket out of the restricted
keywords and changes no keyword; a token of a new name puts at most its own name among the
restricted keywords and changes no bucket.
-/

namespace ReservedWords

/-- A table with one more item, under a new key and at any place. -/
def Dictionary.Gains (table : Dictionary Entry) (key : String) (item : Item)
    (grown : Dictionary Entry) : Prop :=
  ∃ before after,
    table.entries = before ++ after ∧ grown.entries = before ++ (key, some item) :: after

section

variable {table grown : Dictionary Entry} {key : String} {item : Item}

theorem Dictionary.Gains.mem_iff (gains : table.Gains key item grown) {entry : String × Entry}
    : entry ∈ grown.entries ↔ entry ∈ table.entries ∨ entry = (key, some item) := by
  obtain ⟨before, after, split, resplit⟩ := gains
  rw [split, resplit, List.mem_append, List.mem_append, List.mem_cons, or_assoc]
  exact or_congr Iff.rfl or_comm

theorem Dictionary.Gains.mem_values (gains : table.Gains key item grown) {entry : Entry}
    : entry ∈ grown.values ↔ entry ∈ table.values ∨ entry = some item := by
  simp only [Dictionary.values, List.mem_map, gains.mem_iff]
  constructor
  · intro present
    obtain ⟨_, known | rfl, rfl⟩ := present
    · exact .inl ⟨_, known, rfl⟩
    · exact .inr rfl
  · intro present
    rcases present with ⟨_, known, rfl⟩ | rfl
    · exact ⟨_, .inl known, rfl⟩
    · exact ⟨_, .inr rfl, rfl⟩

end

namespace Keyword

variable {entries others : List Entry} {found : Dictionary Keyword} {item : Item}

theorem none_not_mem_of_collect (done : collect entries = .ok found) : none ∉ entries := by
  intro member
  obtain ⟨before, after, split⟩ := List.append_of_mem member
  exact exists_collect_eq_ok_iff.mp ⟨found, done⟩ before none after split _ .malformed

/-- An item of a name that no other has conflicts with nothing. -/
theorem collect_of_fresh (done : collect entries = .ok found)
    (members : ∀ entry, entry ∈ others ↔ entry ∈ entries ∨ entry = some item)
    (fresh : ∀ other, some other ∈ entries → other.name ≠ item.name)
    : ∃ after, collect others = .ok after := by
  rcases collect_cases others with ⟨after, redone, -⟩ | ⟨error, -, fault⟩
  · exact ⟨after, redone⟩
  · exfalso
    cases fault with
    | malformed member =>
      rcases (members none).mp member with known | same
      · exact none_not_mem_of_collect done known
      · cases same
    | @conflict label first second conflict =>
      rcases (members _).mp conflict.firstEntry with known | same
      · rcases (members _).mp conflict.secondEntry with other | same
        · exact (collected_of_collect done).not_conflict
            { conflict with firstEntry := known, secondEntry := other }
        · cases same
          exact fresh _ known rfl
      · cases same
        rcases (members _).mp conflict.secondEntry with other | same
        · exact fresh _ other rfl
        · cases same
          exact conflict.differ rfl

end Keyword

namespace Classification

variable {tables : Tables} {options : Options} {classification grown : Classification}
  {name key label : String} {item : Item} {productions tokens : Dictionary Entry}

/-- A keyword of classified tables is restricted if it is the name of a word that no bucket has. -/
theorem mem_restricted_of_classified (classified : ofTables tables options = .ok classification)
    : label ∈ classification.restrictedKeywords
      ↔ (∃ image, some (.literal label image) ∈ tables.tokens.values ∧ Keyword.isWord image)
        ∧ ¬ ∃ bucket ∈ classification.whitelist, label ∈ bucket.2 := by
  rw [mem_restrictedKeywords, ← map_label_keywords
    (Keyword.labelled_collect (ofTables_ok classified).1), mem_labels_of_classified classified]

-----------------------------------------------------------------------------------------
-- One more production
-----------------------------------------------------------------------------------------

/-- What a classification is after a production of a new name has been added: its keywords and
images are the same, and the labels in the bucket of the production are no longer restricted. -/
structure AfterProduction (options : Options) (name : String)
    (classification grown : Classification) : Prop where
  keywords : grown.keywords = classification.keywords
  images : ∀ label, grown.imageForLabel label = classification.imageForLabel label
  restricted
    : grown.restrictedKeywords
      = classification.restrictedKeywords.filter (· ∉ grown.bucketFor name)
  other
    : ¬ options.namesObjects name
      → grown.restrictedKeywords = classification.restrictedKeywords
  aggregate
    : options.aggregateEnd.toList <:+ name.toList
      → grown.restrictedKeywords = classification.restrictedKeywords

theorem whitelisted_of_gains (classified : ofTables tables options = .ok classification)
    (gains : tables.productions.Gains name item productions)
    (regrown : ofTables { tables with productions } options = .ok grown)
    : (∃ bucket ∈ grown.whitelist, label ∈ bucket.2)
      ↔ (∃ bucket ∈ classification.whitelist, label ∈ bucket.2)
        ∨ label ∈ grown.bucketFor name := by
  constructor
  · intro whitelisted
    obtain ⟨bucket, member, inside⟩ := whitelisted
    obtain ⟨entry, present, objects, rfl⟩ := (mem_whitelist_of_classified regrown).mp member
    rcases gains.mem_iff.mp present with known | rfl
    · exact .inl ⟨_, (mem_whitelist_of_classified classified).mpr ⟨entry, known, objects, rfl⟩,
        inside⟩
    · exact .inr (mem_bucketFor.mpr ⟨_, member, inside⟩)
  · intro either
    rcases either with ⟨bucket, member, inside⟩ | inside
    · obtain ⟨entry, known, objects, same⟩ := (mem_whitelist_of_classified classified).mp member
      have still := gains.mem_iff.mpr (.inl known)
      exact ⟨bucket, (mem_whitelist_of_classified regrown).mpr ⟨entry, still, objects, same⟩,
        inside⟩
    · obtain ⟨labels, member, inside⟩ := mem_bucketFor.mp inside
      exact ⟨_, member, inside⟩

theorem bucketFor_of_not_namesObjects (classified : ofTables tables options = .ok classification)
    (other : ¬ options.namesObjects name)
    : classification.bucketFor name = [] := by
  rw [bucketFor, Whitelist.get?_of_collect_of_not (ofTables_ok classified).2 other]
  rfl

/-- The collected keywords are the same, and the buckets that there were are still there. -/
theorem afterProduction_of_gains (classified : ofTables tables options = .ok classification)
    (gains : tables.productions.Gains name item productions)
    : ∃ grown,
        ofTables { tables with productions } options = .ok grown
        ∧ AfterProduction options name classification grown := by
  obtain ⟨keywords, collected⟩ := ofTables_ok classified
  have items := Whitelist.exists_collect_eq_ok_iff.mp ⟨_, collected⟩
  have itemsStill (known : String) (objects : options.namesObjects known)
      : (known, none) ∉ productions.entries := by
    intro member
    rcases gains.mem_iff.mp member with earlier | same
    · exact items known objects earlier
    · cases same
  obtain ⟨buckets, recollected⟩ := Whitelist.exists_collect_eq_ok_iff.mpr itemsStill
  have regrown
      : ofTables { tables with productions } options
        = .ok ⟨classification.keywordTable, buckets⟩ :=
    ofTables_of_collect keywords recollected
  have restricted
      : (⟨classification.keywordTable, buckets⟩ : Classification).restrictedKeywords
        = classification.restrictedKeywords.filter
            (· ∉ (⟨classification.keywordTable, buckets⟩ : Classification).bucketFor name) := by
    apply (pairwise_lt_restrictedKeywords _).eq_of_mem_iff
      ((pairwise_lt_restrictedKeywords classification).filter _)
    intro label
    rw [List.mem_filter, mem_restricted_of_classified regrown,
      mem_restricted_of_classified classified, whitelisted_of_gains classified gains regrown,
      not_or, and_assoc, decide_eq_true_iff]
  have unchanged (other : ¬ options.namesObjects name)
      : (⟨classification.keywordTable, buckets⟩ : Classification).restrictedKeywords
        = classification.restrictedKeywords := by
    rw [restricted, bucketFor_of_not_namesObjects regrown other]
    simp
  refine ⟨_, regrown, rfl, fun label => rfl, restricted, unchanged, fun aggregate => ?_⟩
  exact unchanged fun objects => (Options.namesObjects_iff.mp objects).2 aggregate

/-- More productions never make a keyword restricted, by induction on the additions. -/
theorem restricted_subset_of_gains (classified : ofTables tables options = .ok classification)
    (gains
      : Relation.ReflTransGen (fun table more => ∃ name item, table.Gains name item more)
          tables.productions productions)
    : ∃ grown,
        ofTables { tables with productions } options = .ok grown
        ∧ grown.restrictedKeywords ⊆ classification.restrictedKeywords := by
  induction gains with
  | refl => exact ⟨classification, classified, List.Subset.refl _⟩
  | tail _ more ih =>
    obtain ⟨middle, done, fewer⟩ := ih
    obtain ⟨name, item, gains⟩ := more
    obtain ⟨last, redone, after⟩ := afterProduction_of_gains done gains
    refine ⟨last, redone, ?_⟩
    rw [after.restricted]
    exact List.Subset.trans List.filter_sublist.subset fewer

-----------------------------------------------------------------------------------------
-- One more token
-----------------------------------------------------------------------------------------

/-- An item adds a restricted keyword if it is a word that no bucket has. -/
def Restricts (classification : Classification) (item : Item) : Prop :=
  (∃ image, item = .literal item.name image ∧ Keyword.isWord image)
  ∧ ∀ bucket ∈ classification.whitelist, item.name ∉ bucket.2

/-- What a classification is after a token of a new name has been added: its buckets are the same,
and the name of the token is put in its place among the restricted keywords if it is one. -/
structure AfterToken (item : Item) (classification grown : Classification) : Prop where
  buckets : grown.whitelist = classification.whitelist
  inserted
    : classification.Restricts item
      → ∃ before after,
          classification.restrictedKeywords = before ++ after
          ∧ grown.restrictedKeywords = before ++ item.name :: after
  kept
    : ¬ classification.Restricts item
      → grown.restrictedKeywords = classification.restrictedKeywords

/-- Increasing texts that have just one more than others have it inserted. -/
theorem exists_inserted {texts more : List String} {text : String}
    (ordered : texts.Pairwise (· < ·)) (reordered : more.Pairwise (· < ·)) (fresh : text ∉ texts)
    (members : ∀ other, other ∈ more ↔ other ∈ texts ∨ other = text)
    : ∃ before after, texts = before ++ after ∧ more = before ++ text :: after := by
  obtain ⟨before, after, rfl⟩ := List.append_of_mem ((members text).mpr (.inr rfl))
  have others := reordered.sublist ((List.sublist_cons_self text after).append_left before)
  have once : text ∉ before ++ after :=
    (List.nodup_middle.mp (reordered.imp ne_of_lt)).notMem
  refine ⟨before, after, ordered.eq_of_mem_iff others fun other => ?_, rfl⟩
  by_cases same : other = text
  · subst same
    exact iff_of_false fresh once
  · have either := members other
    simp only [same, or_false, List.mem_append, List.mem_cons, false_or] at either
    rw [← either, List.mem_append]

/-- The only label that can be new is the name of the item. -/
theorem afterToken_of_gains (classified : ofTables tables options = .ok classification)
    (gains : tables.tokens.Gains key item tokens)
    (fresh : ∀ other, some other ∈ tables.tokens.values → other.name ≠ item.name)
    : ∃ grown,
        ofTables { tables with tokens } options = .ok grown
        ∧ AfterToken item classification grown := by
  obtain ⟨keywords, collected⟩ := ofTables_ok classified
  obtain ⟨found, recollected⟩ :=
    Keyword.collect_of_fresh keywords (fun entry => gains.mem_values) fresh
  have regrown
      : ofTables { tables with tokens } options = .ok ⟨found, classification.buckets⟩ :=
    ofTables_of_collect recollected collected
  have absent : item.name ∉ classification.restrictedKeywords := by
    intro restricted
    obtain ⟨⟨image, member, -⟩, -⟩ := (mem_restricted_of_classified classified).mp restricted
    exact fresh _ member rfl
  have members (label : String)
      : label ∈ (⟨found, classification.buckets⟩ : Classification).restrictedKeywords
        ↔ label ∈ classification.restrictedKeywords
          ∨ label = item.name ∧ classification.Restricts item := by
    rw [mem_restricted_of_classified regrown, mem_restricted_of_classified classified]
    constructor
    · intro restricted
      obtain ⟨⟨image, member, word⟩, apart⟩ := restricted
      rcases gains.mem_values.mp member with known | same
      · exact .inl ⟨⟨image, known, word⟩, apart⟩
      · cases same
        exact .inr ⟨rfl, ⟨image, rfl, word⟩, fun bucket listed inside => apart ⟨_, listed, inside⟩⟩
    · intro either
      rcases either with ⟨⟨image, known, word⟩, apart⟩ | ⟨rfl, ⟨image, shape, word⟩, apart⟩
      · exact ⟨⟨image, gains.mem_values.mpr (.inl known), word⟩, apart⟩
      · refine ⟨⟨image, gains.mem_values.mpr (.inr ?_), word⟩, ?_⟩
        · rw [← shape]
        · intro whitelisted
          obtain ⟨bucket, listed, inside⟩ := whitelisted
          exact apart bucket listed inside
  refine ⟨_, regrown, rfl, fun restricts => ?_, fun harmless => ?_⟩
  · apply exists_inserted (pairwise_lt_restrictedKeywords _) (pairwise_lt_restrictedKeywords _)
      absent
    intro label
    rw [members, and_iff_left restricts]
  · apply (pairwise_lt_restrictedKeywords _).eq_of_mem_iff (pairwise_lt_restrictedKeywords _)
    intro label
    rw [members, or_iff_left fun either => harmless either.2]

-----------------------------------------------------------------------------------------
-- What additions change
-----------------------------------------------------------------------------------------

/-- Tables that are classified still are with one more item under a new key. A production takes the
labels of its bucket out of the restricted keywords, and any number of them never makes a keyword
restricted; a token whose name no other has inserts its name among them, if it is a word that no
bucket has, and nothing else. -/
theorem restricted_of_additions (classified : ofTables tables options = .ok classification)
    : (∀ name item productions,
        tables.productions.Gains name item productions
        → ∃ grown,
            ofTables { tables with productions } options = .ok grown
            ∧ AfterProduction options name classification grown)
      ∧ (∀ productions,
          Relation.ReflTransGen (fun table more => ∃ name item, table.Gains name item more)
            tables.productions productions
          → ∃ grown,
              ofTables { tables with productions } options = .ok grown
              ∧ grown.restrictedKeywords ⊆ classification.restrictedKeywords)
      ∧ ∀ key item tokens,
          tables.tokens.Gains key item tokens
          → (∀ other, some other ∈ tables.tokens.values → other.name ≠ item.name)
          → ∃ grown,
              ofTables { tables with tokens } options = .ok grown
              ∧ AfterToken item classification grown :=
  ⟨fun _ _ _ gains => afterProduction_of_gains classified gains,
    fun _ gains => restricted_subset_of_gains classified gains,
    fun _ _ _ gains fresh => afterToken_of_gains classified gains fresh⟩

/-- The productions of `fewTables` with one more in front, which refers to the restricted word. -/
def moreProductions : Dictionary Entry :=
  Dictionary.ofList
    (("relobjectname_any",
        some (.production (Production.ofBody "relobjectname_any" [⟨"K_SELECT", "TERMINAL"⟩])))
      :: fewTables.productions.entries)

/-- The tokens of `fewTables` with one more word in front. -/
def moreTokens : Dictionary Entry :=
  Dictionary.ofList
    (("K_ALTER", some (.literal "K_ALTER" "alter")) :: fewTables.tokens.entries)

/-- One more production leaves no keyword of `fewTables` restricted; one more word is restricted. -/
theorem restricted_of_additions_few
    : ofTables fewTables {} = .ok fewClassification
      ∧ fewClassification.restrictedKeywords = ["K_SELECT"]
      ∧ (∃ grown,
          ofTables { fewTables with productions := moreProductions } {} = .ok grown
          ∧ grown.restrictedKeywords = [])
      ∧ ∃ grown,
          ofTables { fewTables with tokens := moreTokens } {} = .ok grown
          ∧ "K_ALTER" ∈ grown.restrictedKeywords := by
  have classified : ofTables fewTables {} = .ok fewClassification := rfl
  have restricted : fewClassification.restrictedKeywords = ["K_SELECT"] := by decide
  obtain ⟨production, -, token⟩ := restricted_of_additions classified
  refine ⟨classified, restricted, ?_, ?_⟩
  · obtain ⟨grown, regrown, after⟩ :=
      production "relobjectname_any" _ moreProductions ⟨[], _, rfl, rfl⟩
    have bucket : grown.bucketFor "relobjectname_any" = ["K_SELECT"] := by
      rw [bucketFor, Whitelist.get?_of_collect (ofTables_ok regrown).2 (by decide)]
      rfl
    refine ⟨grown, regrown, ?_⟩
    rw [after.restricted, restricted, bucket]
    rfl
  · have fresh
        : ∀ other, some other ∈ fewTables.tokens.values → other.name ≠ "K_ALTER" := by
      intro other member
      have listed
          : some other
            ∈ [some (.literal "K_SELECT" "select"), some (.literal "K_ABORT" "abort"),
              some (.literal "K_SELECT" "select"), some (.other "NAME" "PatternRE")] := member
      simp only [List.mem_cons, List.not_mem_nil, or_false, Option.some.injEq] at listed
      rcases listed with rfl | rfl | rfl | rfl <;> decide
    obtain ⟨grown, regrown, after⟩ :=
      token "K_ALTER" (.literal "K_ALTER" "alter") moreTokens ⟨[], _, rfl, rfl⟩ fresh
    refine ⟨grown, regrown, ?_⟩
    obtain ⟨front, back, -, inserted⟩ := after.inserted ⟨⟨"alter", rfl, by decide⟩, by decide⟩
    rw [inserted]
    exact List.mem_append_right front List.mem_cons_self

end Classification

end ReservedWords
