import ReservedWords.Proofs.Classification.Canonical
import ReservedWords.Proofs.Classification.FirstSeen

/-!
What collecting keywords comes to. The first entry that is no item, or that is a word whose name an
earlier word uses for another image, decides the failure. Where there is no such entry there is one
keyword for each name of a word, in the order in which the names are first seen.
-/

namespace ReservedWords

namespace Keyword

-----------------------------------------------------------------------------------------
-- Words and offences
-----------------------------------------------------------------------------------------

/-- The words among some entries with their names, in their order. -/
def words (entries : List Entry) : List (String × Keyword) :=
  entries.filterMap wordOf?

/-- An entry offends against those before it: it is no item, or it is a word whose name a word
before it uses for another image. What is reported is the image of the earliest word of the name,
and that of the entry. -/
inductive Offends (before : List Entry) : Entry → CollectError → Prop
  | malformed : Offends before none .malformedEntry
  | conflict {name : String} {first other image : Text.CodeText} (word : isWord image)
    (used : some (.literal name other) ∈ before) (otherWord : isWord other)
    (differ : other ≠ image)
    (earliest : (words before).lookup name = some ⟨name, first⟩)
    : Offends before (some (.literal name image)) (.duplicateKeyword name first image)

/-- No entry offends against those before it. -/
def Inoffensive (entries : List Entry) : Prop :=
  ∀ before entry after,
    entries = before ++ entry :: after → ∀ error, ¬ Offends before entry error

/-- The first entry that offends against those before it. -/
def FirstOffence (entries : List Entry) (error : CollectError) : Prop :=
  ∃ before entry after,
    entries = before ++ entry :: after ∧ Inoffensive before ∧ Offends before entry error

variable {before entries : List Entry} {found after : Dictionary Keyword} {entry : Entry}
  {error : CollectError}

theorem mem_words {label : String} {keyword : Keyword}
    : (label, keyword) ∈ words entries
      ↔ keyword.label = label
        ∧ isWord keyword.image
        ∧ some (.literal label keyword.image) ∈ entries := by
  rw [words, List.mem_filterMap]
  simp only [wordOf?_eq_some_iff]
  constructor
  · rintro ⟨entry, member, rfl, word, named⟩
    exact ⟨named, word, member⟩
  · rintro ⟨named, word, member⟩
    exact ⟨_, member, rfl, word, named⟩

/-- The keyword of a name is the earliest word of the name, since all its words are alike. -/
theorem Collected.lookup_words (collected : Collected entries found) (label : String)
    : (words entries).lookup label = found.get? label := by
  cases earliest : (words entries).lookup label with
  | none =>
    cases known : found.get? label with
    | none => rfl
    | some keyword =>
      have member := mem_words.mpr ((collected label keyword).mp known)
      rw [List.lookup_eq_none_iff] at earliest
      simpa using earliest _ member
  | some keyword =>
    obtain ⟨front, back, split, -⟩ := List.lookup_eq_some_iff.mp earliest
    have member : (label, keyword) ∈ words entries := by simp [split]
    exact ((collected label keyword).mpr (mem_words.mp member)).symm

/-- An entry is refused if and only if it offends against those before it. -/
theorem Collected.add_eq_error_iff (collected : Collected before found)
    : add found entry = .error error ↔ Offends before entry error := by
  constructor
  · intro refused
    match entry with
    | none =>
      cases refused
      exact .malformed
    | some (.production _) | some (.other _ _) => cases refused
    | some (.literal name image) =>
      by_cases word : isWord image
      · cases known : found.get? name with
        | none => simp [add, word, known] at refused
        | some keyword =>
          obtain ⟨named, otherWord, used⟩ := (collected name keyword).mp known
          have earliest := (collected.lookup_words name).trans known
          by_cases same : keyword.image = image
          · simp [add, word, known, same] at refused
          · simp only [add, if_pos word, known, if_neg same] at refused
            cases refused
            subst named
            exact .conflict word used otherWord same earliest
      · simp [add, word] at refused
  · intro offence
    cases offence with
    | malformed => rfl
    | @conflict name first other image word used otherWord differ earliest =>
      have known := (collected.lookup_words name).symm.trans earliest
      have alike := (collected name ⟨name, other⟩).mpr ⟨rfl, otherWord, used⟩
      cases known.symm.trans alike
      simp only [add, if_pos word, known, if_neg differ]

theorem inoffensive_nil : Inoffensive [] := by
  intro before entry after split
  cases before <;> cases split

/-- Entries stay inoffensive with one more that does not offend. -/
theorem Inoffensive.append (inoffensive : Inoffensive before)
    (harmless : ∀ error, ¬ Offends before entry error)
    : Inoffensive (before ++ [entry]) := by
  intro front other back split
  rcases back.eq_nil_or_concat with rfl | ⟨rest, last, rfl⟩
  · obtain ⟨rfl, same⟩ := List.append_inj' split rfl
    cases same
    exact harmless
  · rw [List.concat_eq_append, ← List.cons_append, ← List.append_assoc] at split
    obtain ⟨rfl, -⟩ := List.append_inj' split rfl
    exact inoffensive front other rest rfl

/-- Going on from entries without an offence, the rest adds its keywords to those found or has the
first offence, by induction on the rest. -/
theorem Collected.foldlM_offence (collected : Collected before found)
    (inoffensive : Inoffensive before) (entries : List Entry)
    : (∃ after, entries.foldlM add found = .ok after ∧ Inoffensive (before ++ entries))
      ∨ ∃ error, entries.foldlM add found = .error error ∧ FirstOffence (before ++ entries) error := by
  induction entries generalizing before found with
  | nil => exact .inl ⟨found, rfl, (List.append_nil before).symm ▸ inoffensive⟩
  | cons entry rest ih =>
    rw [List.foldlM_cons]
    rcases collected.add_cases entry with ⟨next, added, taken⟩ | ⟨error, refused, -⟩
    · have harmless (error : CollectError) : ¬ Offends before entry error := by
        intro offence
        cases added.symm.trans (collected.add_eq_error_iff.mpr offence)
      rw [added, List.append_cons]
      exact ih taken (inoffensive.append harmless)
    · rw [refused]
      refine .inr ⟨error, rfl, before, entry, rest, rfl, inoffensive, ?_⟩
      exact collected.add_eq_error_iff.mp refused

theorem collect_append (before entries : List Entry)
    : collect (before ++ entries) = collect before >>= entries.foldlM add :=
  List.foldlM_append

/-- Collecting fails with the error of the first offence, and not otherwise. -/
theorem collect_eq_error_iff : collect entries = .error error ↔ FirstOffence entries error := by
  constructor
  · intro refused
    rcases collected_empty.foldlM_offence inoffensive_nil entries with
      ⟨found, done, -⟩ | ⟨other, failed, offence⟩
    · cases refused.symm.trans done
    · cases refused.symm.trans failed
      exact offence
  · intro offence
    obtain ⟨before, entry, after, rfl, inoffensive, offends⟩ := offence
    rcases collected_empty.foldlM_offence inoffensive_nil before with
      ⟨found, done, -⟩ | ⟨other, -, front, earlier, rest, split, -, refused⟩
    · have begun : collect before = .ok found := done
      have refused := (collected_of_collect begun).add_eq_error_iff.mpr offends
      rw [collect_append, begun]
      change (entry :: after).foldlM add found = .error error
      rw [List.foldlM_cons, refused]
      rfl
    · exact absurd refused (inoffensive front earlier rest split other)

/-- Collecting succeeds if and only if no entry offends. -/
theorem exists_collect_eq_ok_iff : (∃ found, collect entries = .ok found) ↔ Inoffensive entries := by
  constructor
  · intro success
    obtain ⟨found, done⟩ := success
    rcases collected_empty.foldlM_offence inoffensive_nil entries with
      ⟨_, -, inoffensive⟩ | ⟨error, refused, -⟩
    · exact inoffensive
    · cases done.symm.trans refused
  · intro inoffensive
    rcases collect_cases entries with ⟨found, done, -⟩ | ⟨error, refused, -⟩
    · exact ⟨found, done⟩
    · obtain ⟨before, entry, after, split, -, offends⟩ := collect_eq_error_iff.mp refused
      exact absurd offends (inoffensive before entry after split error)

-----------------------------------------------------------------------------------------
-- The order of the keywords
-----------------------------------------------------------------------------------------

theorem words_cons (entry : Entry) (entries : List Entry)
    : words (entry :: entries) = (wordOf? entry).toList ++ words entries := by
  rw [words, List.filterMap_cons]
  cases wordOf? entry <;> rfl

/-- A word is seen at the end of the labels found, unless its name is known. -/
theorem keys_add (added : add found entry = .ok after)
    : after.keys = ((wordOf? entry).toList.map Prod.fst).foldl Classification.see found.keys := by
  match entry with
  | none => cases added
  | some (.production _) | some (.other _ _) =>
    cases added
    rfl
  | some (.literal name image) =>
    by_cases word : isWord image
    · rw [add_word_ok word added, Dictionary.keys_insert, wordOf?, if_pos word]
      by_cases known : name ∈ found.keys
      · rw [if_pos known]
        exact (Classification.see_of_mem known).symm
      · rw [if_neg known]
        exact (Classification.see_of_not_mem known).symm
    · rw [add, if_neg word] at added
      cases added
      rw [wordOf?, if_neg word]
      rfl

/-- By induction on the entries. -/
theorem keys_foldlM_add (done : entries.foldlM add found = .ok after)
    : after.keys = ((words entries).map Prod.fst).foldl Classification.see found.keys := by
  induction entries generalizing found with
  | nil =>
    cases done
    rfl
  | cons entry rest ih =>
    obtain ⟨next, added, remaining⟩ := bind_eq_ok.mp done
    rw [ih remaining, keys_add added, words_cons, List.map_append, List.foldl_append]

theorem firstSeen_keys (done : collect entries = .ok found)
    : FirstSeen found.keys ((words entries).map Prod.fst) := by
  rw [keys_foldlM_add done]
  exact FirstSeen.nil.foldl_see _

-----------------------------------------------------------------------------------------
-- What collecting comes to
-----------------------------------------------------------------------------------------

/-- An entry that changes none of the keywords found before it can be left out. -/
theorem collect_insert {entry : Entry}
    (idle : ∀ found, collect before = .ok found → add found entry = .ok found)
    (after : List Entry)
    : collect (before ++ entry :: after) = collect (before ++ after) := by
  rw [collect_append, collect_append]
  cases begun : collect before with
  | error error => rfl
  | ok found =>
    change (entry :: after).foldlM add found = after.foldlM add found
    rw [List.foldlM_cons, idle found begun]
    rfl

/-- A word that is there already can be left out, since it has its keyword. -/
theorem Collected.add_again (collected : Collected before found) {name : String} {image : Text.CodeText}
    (word : isWord image) (earlier : some (.literal name image) ∈ before)
    : add found (some (.literal name image)) = .ok found := by
  have known := (collected name ⟨name, image⟩).mpr ⟨rfl, word, earlier⟩
  simp only [add, if_pos word, known, if_true, Dictionary.insert_of_get? known]

/-- What collecting the keywords of some entries comes to. The first offence decides the failure.
Without one there is a keyword for the name of every word, in the order in which these names are
first seen, and its image is that of all words of the name. Literals that are no words and words
that were there before change nothing. Items collected in another order fail as well or else give
the same keywords. -/
structure Decided (entries : List Entry) : Prop where
  failure : ∀ error, collect entries = .error error ↔ FirstOffence entries error
  success
    : Inoffensive entries
      → ∃ found,
          collect entries = .ok found
          ∧ FirstSeen found.keys ((words entries).map Prod.fst)
          ∧ ∀ label keyword,
              (label, keyword) ∈ found.entries
              → keyword.label = label
                ∧ ∀ image,
                    some (.literal label image) ∈ entries ∧ isWord image
                    ↔ image = keyword.image
  plain
    : ∀ before name image after,
        entries = before ++ some (.literal name image) :: after
        → ¬ isWord image
        → collect entries = collect (before ++ after)
  repeated
    : ∀ before name image after,
        entries = before ++ some (.literal name image) :: after
        → isWord image
        → some (.literal name image) ∈ before
        → collect entries = collect (before ++ after)
  permuted
    : none ∉ entries
      → ∀ others,
          entries.Perm others
          → ((∃ error, collect entries = .error error) ↔ ∃ error, collect others = .error error)
            ∧ ∀ found rediscovered,
                collect entries = .ok found
                → collect others = .ok rediscovered
                → found.entries.Perm rediscovered.entries

/-- All words of a name have the image of its keyword. -/
theorem Collected.image_iff (collected : Collected entries found) {label : String}
    {keyword : Keyword} (known : found.get? label = some keyword) (image : Text.CodeText)
    : some (.literal label image) ∈ entries ∧ isWord image ↔ image = keyword.image := by
  obtain ⟨-, word, member⟩ := (collected label keyword).mp known
  constructor
  · intro other
    have alike := (collected label ⟨label, image⟩).mpr ⟨rfl, other.2, other.1⟩
    cases known.symm.trans alike
    rfl
  · rintro rfl
    exact ⟨member, word⟩

/-- Without an entry that is no item, only two words that conflict stop the collection. -/
theorem exists_collect_eq_error_iff (items : none ∉ entries)
    : (∃ error, collect entries = .error error)
      ↔ ∃ label first second, Conflict entries label first second := by
  rcases collect_cases entries with ⟨found, done, collected⟩ | ⟨error, refused, fault⟩
  · constructor
    · intro failed
      obtain ⟨error, refused⟩ := failed
      cases done.symm.trans refused
    · intro conflicts
      obtain ⟨_, _, _, conflict⟩ := conflicts
      exact absurd conflict collected.not_conflict
  · refine ⟨fun _ => ?_, fun _ => ⟨error, refused⟩⟩
    cases fault with
    | malformed member => exact absurd member items
    | conflict conflict => exact ⟨_, _, _, conflict⟩

/-- Collecting the keywords of any entries comes to what the first offence decides. -/
theorem decided_collect (entries : List Entry) : Decided entries := by
  refine
    { failure := fun error => collect_eq_error_iff
      success := ?_
      plain := ?_
      repeated := ?_
      permuted := ?_ }
  · intro inoffensive
    obtain ⟨found, done⟩ := exists_collect_eq_ok_iff.mpr inoffensive
    refine ⟨found, done, firstSeen_keys done, ?_⟩
    intro label keyword member
    have collected := collected_of_collect done
    have known := Dictionary.get?_eq_some_iff.mpr member
    exact ⟨((collected label keyword).mp known).1, collected.image_iff known⟩
  · intro before name image after split other
    rw [split]
    apply collect_insert
    intro found _
    rw [add, if_neg other]
  · intro before name image after split word earlier
    rw [split]
    apply collect_insert
    intro found done
    exact (collected_of_collect done).add_again word earlier
  · intro items others same
    have otherItems : none ∉ others := mt same.mem_iff.mpr items
    constructor
    · rw [exists_collect_eq_error_iff items, exists_collect_eq_error_iff otherItems]
      exact exists_congr fun _ => exists_congr fun _ => exists_congr fun _ =>
        Classification.conflict_iff_of_perm same
    · intro found rediscovered done redone
      have alike := Classification.get?_of_perm (collected_of_collect done)
        (collected_of_collect redone) same
      have distinct : found.entries.Nodup := found.nodup.of_map Prod.fst
      apply (List.perm_ext_iff_of_nodup distinct (rediscovered.nodup.of_map Prod.fst)).mpr
      intro entry
      obtain ⟨label, keyword⟩ := entry
      rw [← Dictionary.get?_eq_some_iff, ← Dictionary.get?_eq_some_iff, alike]

/-- The empty literal between two words of its name does not matter, and the entry that is no item
comes too late. -/
example
    : collect
        [some (.literal "K_A" "a"), some (.literal "K_A" ""), some (.literal "K_A" "c"), none]
      = .error (.duplicateKeyword "K_A" "a" "c") :=
  rfl

end Keyword

end ReservedWords
