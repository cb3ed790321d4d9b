import ReservedWords.Proofs.Classification.Buckets
import ReservedWords.Proofs.Outcome

/-!
Buckets from any production table. Entries under other names play no part; an object-name entry that
is no item refuses the table; and a production gives the texts of its tokens that start like
keywords, its last token apart, whatever its tokens are.
-/

namespace ReservedWords

-----------------------------------------------------------------------------------------
-- The references of a production
-----------------------------------------------------------------------------------------

namespace Production

/-- The texts of all tokens but the last that start like keywords. -/
theorem keywordReferences_eq (production : Production) (keywordStart : String)
    : production.keywordReferences keywordStart
      = (production.tokens.dropLast.map Token.image).filter
          (Options.startsWith · keywordStart) := by
  rw [keywordReferences, scanned_eq_dropLast]

/-- With one more token at the end, the former last token is no longer the last. -/
theorem keywordReferences_append (name : String) (tokens : List Token) (token : Token)
    (keywordStart : String)
    : keywordReferences ⟨name, tokens ++ [token]⟩ keywordStart
      = keywordReferences ⟨name, tokens⟩ keywordStart
        ++ (tokens.getLast?.toList.map Token.image).filter (Options.startsWith · keywordStart) := by
  rw [keywordReferences_eq, keywordReferences_eq, List.dropLast_concat, ← List.filter_append,
    ← List.map_append]
  rcases tokens.eq_nil_or_concat with rfl | ⟨front, last, rfl⟩
  · rfl
  · simp

end Production

namespace Whitelist

variable {options : Options} {entries : List (String × Entry)} {error : CollectError}

-----------------------------------------------------------------------------------------
-- Entries that matter
-----------------------------------------------------------------------------------------

/-- Only object-name entries matter, by induction on the entries. -/
theorem bucketsFrom_filter (options : Options) (entries : List (String × Entry))
    : bucketsFrom options (entries.filter fun entry => options.namesObjects entry.1)
      = bucketsFrom options entries := by
  induction entries with
  | nil => rfl
  | cons entry rest ih =>
    obtain ⟨name, content⟩ := entry
    by_cases objects : options.namesObjects name
    · rw [List.filter_cons, if_pos objects, bucketsFrom, bucketsFrom, ih]
    · rw [List.filter_cons, if_neg objects, bucketsFrom, if_neg objects, ih]

/-- Of an entry only its bucket matters, by induction on the entries before it. -/
theorem bucketsFrom_replace {content other : Entry}
    (same : bucket options content = bucket options other)
    (before after : List (String × Entry)) (name : String)
    : bucketsFrom options (before ++ (name, content) :: after)
      = bucketsFrom options (before ++ (name, other) :: after) := by
  induction before with
  | nil => simp only [List.nil_append, bucketsFrom, same]
  | cons entry rest ih =>
    obtain ⟨known, earlier⟩ := entry
    simp only [List.cons_append, bucketsFrom, ih]

theorem bucket_eq_error_iff {content : Entry}
    : bucket options content = .error error ↔ content = none ∧ error = .malformedEntry := by
  cases content with
  | none => simp [bucket, eq_comm]
  | some item => simp [bucket_of_some]

/-- Buckets are refused only for an object-name entry that is no item, by induction on the entries.
-/
theorem bucketsFrom_eq_error_iff
    : bucketsFrom options entries = .error error
      ↔ error = .malformedEntry
        ∧ ∃ name, (name, none) ∈ entries ∧ options.namesObjects name := by
  induction entries with
  | nil => simp [bucketsFrom]
  | cons entry rest ih =>
    obtain ⟨name, content⟩ := entry
    by_cases objects : options.namesObjects name
    · rw [bucketsFrom, if_pos objects, bind_eq_error, bucket_eq_error_iff]
      constructor
      · intro failed
        rcases failed with ⟨rfl, malformed⟩ | ⟨labels, -, later⟩
        · exact ⟨malformed, name, List.mem_cons_self, objects⟩
        · rcases bind_eq_error.mp later with refused | ⟨buckets, -, impossible⟩
          · obtain ⟨malformed, known, member, named⟩ := ih.mp refused
            exact ⟨malformed, known, List.mem_cons_of_mem _ member, named⟩
          · cases impossible
      · intro fault
        obtain ⟨malformed, known, member, named⟩ := fault
        cases content with
        | none => exact .inl ⟨rfl, malformed⟩
        | some item =>
          have later : (known, none) ∈ rest := by simpa using member
          refine .inr ⟨_, bucket_of_some, bind_eq_error.mpr (.inl (ih.mpr ?_))⟩
          exact ⟨malformed, known, later, named⟩
    · have elsewhere (known : String) (named : options.namesObjects known)
          : (known, none) ∈ (name, content) :: rest ↔ (known, none) ∈ rest := by
        refine ⟨fun member => ?_, List.mem_cons_of_mem _⟩
        rcases List.mem_cons.mp member with same | later
        · cases same
          exact absurd named objects
        · exact later
      rw [bucketsFrom, if_neg objects, ih]
      refine and_congr Iff.rfl (exists_congr fun known => ?_)
      exact and_congr_left fun named => (elsewhere known named).symm

variable {productions changed : Dictionary Entry} {buckets : Dictionary (List String)}
  {name : String}

theorem collect_eq_error_iff
    : collect productions options = .error error
      ↔ error = .malformedEntry
        ∧ ∃ name, (name, none) ∈ productions.entries ∧ options.namesObjects name := by
  rw [collect, bind_eq_error, bucketsFrom_eq_error_iff]
  refine or_iff_left ?_
  intro late
  obtain ⟨listed, -, impossible⟩ := late
  cases impossible

/-- A table is collected if and only if its object-name entries are items. -/
theorem exists_collect_eq_ok_iff
    : (∃ buckets, collect productions options = .ok buckets)
      ↔ ∀ name, options.namesObjects name → (name, none) ∉ productions.entries := by
  constructor
  · intro success name objects member
    obtain ⟨buckets, collected⟩ := success
    cases collected.symm.trans (collect_eq_error_iff.mpr ⟨rfl, name, member, objects⟩)
  · intro items
    cases collected : collect productions options with
    | ok buckets => exact ⟨buckets, rfl⟩
    | error error =>
      obtain ⟨-, name, member, objects⟩ := collect_eq_error_iff.mp collected
      exact absurd member (items name objects)

/-- The buckets that are collected are those of the object-name entries. -/
theorem entries_of_collect (collected : collect productions options = .ok buckets)
    : buckets.entries
      = (productions.entries.filter fun entry => options.namesObjects entry.1).map fun entry =>
          (entry.1, labelsOf options entry.2) := by
  have items := exists_collect_eq_ok_iff.mp ⟨buckets, collected⟩
  obtain ⟨others, recollected, shape⟩ :=
    collect_ok fun entry member objects empty => items entry.1 objects (by rwa [← empty])
  cases collected.symm.trans recollected
  exact shape

theorem keys_of_collect (collected : collect productions options = .ok buckets)
    : buckets.keys = productions.keys.filter (options.namesObjects ·) := by
  rw [Dictionary.keys, entries_of_collect collected, Dictionary.keys, List.filter_map, List.map_map]
  rfl

/-- The bucket under an object name is that of its entry. -/
theorem get?_of_collect (collected : collect productions options = .ok buckets)
    (objects : options.namesObjects name)
    : buckets.get? name = (productions.get? name).map (labelsOf options) := by
  ext labels
  rw [Dictionary.get?_eq_some_iff, entries_of_collect collected, Option.map_eq_some_iff]
  simp only [List.mem_map, List.mem_filter, Prod.mk.injEq, Dictionary.get?_eq_some_iff]
  constructor
  · intro kept
    obtain ⟨⟨known, entry⟩, ⟨member, -⟩, rfl, same⟩ := kept
    exact ⟨entry, member, same⟩
  · intro known
    obtain ⟨entry, member, same⟩ := known
    exact ⟨(name, entry), ⟨member, objects⟩, rfl, same⟩

theorem get?_of_collect_of_not (collected : collect productions options = .ok buckets)
    (other : ¬ options.namesObjects name)
    : buckets.get? name = none := by
  rw [← Option.not_isSome_iff_eq_none, Dictionary.isSome_get?_iff, keys_of_collect collected]
  simp [other]

-----------------------------------------------------------------------------------------
-- What collecting comes to
-----------------------------------------------------------------------------------------

/-- Two tables that differ in the tokens of one production, and in nothing else. -/
def ChangesTokens (productions changed : Dictionary Entry) (name : String)
    (tokens others : List Token) : Prop :=
  ∃ before rule after,
    productions.entries = before ++ (name, some (.production ⟨rule, tokens⟩)) :: after
    ∧ changed.entries = before ++ (name, some (.production ⟨rule, others⟩)) :: after

/-- What collecting the buckets of a production table comes to. It is refused if and only if an
object-name entry is no item, and entries under other names do not matter. Otherwise there is a
bucket for each object-name key, in table order: that of a production has the texts of all its
tokens but the last that start like keywords, any other is empty. So the last token of a production
does not matter, and one more token adds at most the text of the token that was the last. -/
structure Gathers (productions : Dictionary Entry) (options : Options) : Prop where
  refused
    : ∀ error,
        collect productions options = .error error
        ↔ error = .malformedEntry
          ∧ ∃ name, (name, none) ∈ productions.entries ∧ options.namesObjects name
  otherNames
    : ∀ others : Dictionary Entry,
        (others.entries.filter fun entry => options.namesObjects entry.1)
          = (productions.entries.filter fun entry => options.namesObjects entry.1)
        → collect others options = collect productions options
  gathered
    : (∀ name, options.namesObjects name → (name, none) ∉ productions.entries)
      → ∃ buckets,
          collect productions options = .ok buckets
          ∧ buckets.keys = productions.keys.filter (options.namesObjects ·)
          ∧ (∀ name production,
              options.namesObjects name
              → (name, some (.production production)) ∈ productions.entries
              → buckets.get? name
                = some
                    ((production.tokens.dropLast.map Token.image).filter options.refersToKeyword))
          ∧ ∀ name item,
              options.namesObjects name
              → (name, some item) ∈ productions.entries
              → (∀ production, item ≠ .production production)
              → buckets.get? name = some []
  lastToken
    : ∀ changed name tokens last other,
        ChangesTokens productions changed name (tokens ++ [last]) (tokens ++ [other])
        → collect changed options = collect productions options
  oneMoreToken
    : ∀ changed name tokens token buckets,
        ChangesTokens productions changed name tokens (tokens ++ [token])
        → collect productions options = .ok buckets
        → ∃ grown,
            collect changed options = .ok grown
            ∧ (∀ other, other ≠ name → grown.get? other = buckets.get? other)
            ∧ grown.get? name
              = (buckets.get? name).map
                  (· ++ (tokens.getLast?.toList.map Token.image).filter options.refersToKeyword)

theorem ChangesTokens.get? {tokens others : List Token}
    (changes : ChangesTokens productions changed name tokens others)
    : ∃ rule,
        productions.get? name = some (some (.production ⟨rule, tokens⟩))
        ∧ changed.get? name = some (some (.production ⟨rule, others⟩)) := by
  obtain ⟨before, rule, after, split, resplit⟩ := changes
  refine ⟨rule, Dictionary.get?_eq_some_iff.mpr ?_, Dictionary.get?_eq_some_iff.mpr ?_⟩
  · simp [split]
  · simp [resplit]

theorem ChangesTokens.mem_iff {tokens others : List Token}
    (changes : ChangesTokens productions changed name tokens others) {other : String}
    {entry : Entry} (elsewhere : other ≠ name ∨ entry = none)
    : (other, entry) ∈ changed.entries ↔ (other, entry) ∈ productions.entries := by
  obtain ⟨before, rule, after, split, resplit⟩ := changes
  rw [split, resplit, List.mem_append, List.mem_append, List.mem_cons, List.mem_cons]
  refine or_congr Iff.rfl (or_congr ?_ Iff.rfl)
  rcases elsewhere with apart | rfl
  · simp [apart]
  · simp

/-- One more token adds at most the text of the former last one, and leaves the other buckets as they
are. -/
theorem ChangesTokens.collect {tokens : List Token} {token : Token}
    (changes : ChangesTokens productions changed name tokens (tokens ++ [token]))
    (collected : collect productions options = .ok buckets)
    : ∃ grown,
        Whitelist.collect changed options = .ok grown
        ∧ (∀ other, other ≠ name → grown.get? other = buckets.get? other)
        ∧ grown.get? name
          = (buckets.get? name).map
              (· ++ (tokens.getLast?.toList.map Token.image).filter options.refersToKeyword) := by
  have items := exists_collect_eq_ok_iff.mp ⟨buckets, collected⟩
  have itemsStill (other : String) (objects : options.namesObjects other)
      : (other, none) ∉ changed.entries :=
    mt (changes.mem_iff (.inr rfl)).mp (items other objects)
  obtain ⟨grown, recollected⟩ := exists_collect_eq_ok_iff.mpr itemsStill
  refine ⟨grown, recollected, ?_, ?_⟩
  · intro other apart
    by_cases objects : options.namesObjects other
    · have same : changed.get? other = productions.get? other := by
        ext entry
        rw [Dictionary.get?_eq_some_iff, Dictionary.get?_eq_some_iff, changes.mem_iff (.inl apart)]
      rw [get?_of_collect recollected objects, get?_of_collect collected objects, same]
    · rw [get?_of_collect_of_not recollected objects, get?_of_collect_of_not collected objects]
  · obtain ⟨rule, former, latter⟩ := changes.get?
    by_cases objects : options.namesObjects name
    · rw [get?_of_collect recollected objects, get?_of_collect collected objects, former, latter]
      exact congrArg some (Production.keywordReferences_append rule tokens token _)
    · rw [get?_of_collect_of_not recollected objects, get?_of_collect_of_not collected objects]
      rfl

/-- Collecting goes by the object-name entries alone, and by all tokens of a production but the
last. -/
theorem gathers_collect (productions : Dictionary Entry) (options : Options)
    : Gathers productions options := by
  refine
    { refused := fun error => collect_eq_error_iff
      otherNames := ?_
      gathered := ?_
      lastToken := ?_
      oneMoreToken := fun changed name tokens token buckets changes collected =>
        changes.collect collected }
  · intro others same
    rw [collect, collect, ← bucketsFrom_filter, same, bucketsFrom_filter]
  · intro items
    obtain ⟨buckets, collected⟩ := exists_collect_eq_ok_iff.mpr items
    refine ⟨buckets, collected, keys_of_collect collected, ?_, ?_⟩
    · intro name production objects member
      rw [get?_of_collect collected objects, Dictionary.get?_eq_some_iff.mpr member]
      exact congrArg some (production.keywordReferences_eq options.keywordStart)
    · intro name item objects member shape
      rw [get?_of_collect collected objects, Dictionary.get?_eq_some_iff.mpr member]
      cases item with
      | production production => exact absurd rfl (shape production)
      | literal | other => rfl
  · intro changed name tokens last other changes
    obtain ⟨before, rule, after, split, resplit⟩ := changes
    have same
        : bucket options (some (.production ⟨rule, tokens ++ [other]⟩))
          = bucket options (some (.production ⟨rule, tokens ++ [last]⟩)) := by
      simp only [bucket, Production.keywordReferences_append]
    rw [collect, collect, split, resplit, bucketsFrom_replace same]

end Whitelist

end ReservedWords
