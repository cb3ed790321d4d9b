import Mathlib.Data.List.Sort
import ReservedWords.Proofs.Config

/-!
Configurations that are accepted. An object with texts for paths and an object for options is checked
part by part: the first check that fails is reported, and the configuration of an object that passes
all of them has its paths, the options that it gives and the defaults of the others. Nothing else in
the object matters.
-/

namespace ReservedWords.Config

variable {object members : List (String × Json.Value String)} {grammar scratch : Option String}
variable {options others : Options} {name text : String}

-----------------------------------------------------------------------------------------
-- The values of options
-----------------------------------------------------------------------------------------

/-- The options with their names. -/
def optionEntries (options : Options) : List (String × String) :=
  [("parser", options.parser), ("start", options.start),
    ("production_prefix", options.productionStart), ("production_suffix", options.aggregateEnd),
    ("keyword_prefix", options.keywordStart)]

/-- The value of an option, by its name. -/
def valueOf (options : Options) (name : String) : Option String :=
  (optionEntries options).lookup name

theorem optionEntries_setOption (known : name ∈ optionNames) (options : Options) (text : String)
    : optionEntries (setOption options name text)
      = Dictionary.upsert name text (optionEntries options) := by
  simp only [optionNames, List.mem_cons, List.not_mem_nil, or_false] at known
  rcases known with rfl | rfl | rfl | rfl | rfl <;> rfl

theorem nodup_optionNames : optionNames.Nodup := by
  decide

/-- Giving an option a value changes no other option. -/
theorem valueOf_setOption (known : name ∈ optionNames) (options : Options) (text other : String)
    : valueOf (setOption options name text) other
      = if other = name then some text else valueOf options other := by
  rw [valueOf, optionEntries_setOption known]
  exact Dictionary.lookup_upsert name other text (optionEntries options)

/-- Options are known by their values. -/
theorem eq_of_valueOf (same : ∀ name, valueOf options name = valueOf others name)
    : options = others := by
  rw [Options.mk.injEq]
  refine ⟨?_, ?_, ?_, ?_, ?_⟩
  · exact Option.some.inj (same "parser")
  · exact Option.some.inj (same "start")
  · exact Option.some.inj (same "production_prefix")
  · exact Option.some.inj (same "production_suffix")
  · exact Option.some.inj (same "keyword_prefix")

/-- The value of an option may be any text that is not empty. -/
def IsFilled (value : Json.Value String) : Prop :=
  ∃ text, text ≠ "" ∧ value = .string text

instance : DecidablePred IsFilled
  | .string text =>
    decidable_of_iff (text ≠ "")
      ⟨fun full => ⟨text, full, rfl⟩, fun ⟨_, full, same⟩ => Json.Value.string.inj same ▸ full⟩
  | .null | .bool _ | .integer _ | .decimal _ | .array _ | .object _ =>
    isFalse fun ⟨_, _, same⟩ => nomatch same

/-- Options are as members give them: an option that is among the members has its value there, every
other one has its default. -/
structure Gives (members : List (String × Json.Value String)) (options : Options) : Prop where
  given : ∀ name text, (name, .string text) ∈ members → valueOf options name = some text
  absent : ∀ name, name ∉ members.map Prod.fst → valueOf options name = valueOf {} name

theorem gives_nil : Gives [] {} :=
  ⟨nofun, fun _ _ => rfl⟩

/-- Members give only one value to each option, and every option has one. -/
theorem Gives.unique (filled : ∀ member ∈ members, IsFilled member.2) (gives : Gives members options)
    (also : Gives members others)
    : options = others := by
  refine eq_of_valueOf fun name => ?_
  by_cases listed : name ∈ members.map Prod.fst
  · obtain ⟨⟨_, value⟩, member, rfl⟩ := List.mem_map.mp listed
    obtain ⟨text, -, rfl⟩ := filled _ member
    rw [gives.given _ _ member, also.given _ _ member]
  · rw [gives.absent _ listed, also.absent _ listed]

-----------------------------------------------------------------------------------------
-- Taking options one by one
-----------------------------------------------------------------------------------------

theorem readOption_filled (full : text ≠ "") (options : Options) (name : String)
    : readOption options (name, .string text) = .ok (setOption options name text) :=
  if_neg full

theorem readOption_unfilled {value : Json.Value String} (unfilled : ¬ IsFilled value)
    (options : Options) (name : String)
    : readOption options (name, value) = .error (.invalid (.badOption name)) := by
  cases value with
  | string text =>
    have empty : text = "" := by_contra fun full => unfilled ⟨text, full, rfl⟩
    exact if_pos empty
  | null | bool | integer | decimal | array | object => rfl

/-- An option is taken if and only if it has a text that is not empty, which it is then given. -/
theorem readOption_eq_ok_iff {entry : String × Json.Value String} {after : Options}
    : readOption options entry = .ok after
      ↔ ∃ text, text ≠ "" ∧ entry.2 = .string text ∧ after = setOption options entry.1 text := by
  obtain ⟨name, value⟩ := entry
  constructor
  · intro taken
    by_cases filled : IsFilled value
    · obtain ⟨text, full, rfl⟩ := filled
      rw [readOption_filled full] at taken
      cases taken
      exact ⟨text, full, rfl, rfl⟩
    · cases taken.symm.trans (readOption_unfilled filled options name)
  · rintro ⟨text, full, rfl, rfl⟩
    exact readOption_filled full options name

/-- One more member sets its option, which had its default before. -/
theorem Gives.add (gives : Gives members options) {entry : String × Json.Value String}
    {after : Options} (known : entry.1 ∈ optionNames) (fresh : entry.1 ∉ members.map Prod.fst)
    (taken : readOption options entry = .ok after)
    : Gives (members ++ [entry]) after := by
  obtain ⟨name, value⟩ := entry
  obtain ⟨text, -, rfl, rfl⟩ := readOption_eq_ok_iff.mp taken
  constructor
  · intro other shown member
    rw [valueOf_setOption known]
    rcases List.mem_append.mp member with earlier | last
    · have apart : other ≠ name := by
        rintro rfl
        exact fresh (List.mem_map.mpr ⟨_, earlier, rfl⟩)
      rw [if_neg apart, gives.given _ _ earlier]
    · cases List.mem_singleton.mp last
      exact if_pos rfl
  · intro other unlisted
    rw [List.map_append, List.mem_append, not_or, List.map_singleton, List.mem_singleton] at unlisted
    rw [valueOf_setOption known, if_neg unlisted.2, gives.absent _ unlisted.1]

/-- What is taken from members with distinct names is what they give: each of them sets an option that
none before it has set. By induction on the members that are still to be taken. -/
theorem Gives.foldlM {earlier : List (String × Json.Value String)} {start : Options}
    (gives : Gives earlier start) (distinct : ((earlier ++ members).map Prod.fst).Nodup)
    (known : ∀ name ∈ members.map Prod.fst, name ∈ optionNames)
    (taken : members.foldlM readOption start = .ok options)
    : Gives (earlier ++ members) options := by
  induction members generalizing earlier start with
  | nil =>
    cases taken
    rwa [List.append_nil]
  | cons entry rest ih =>
    rw [List.foldlM_cons, bind_eq_ok] at taken
    obtain ⟨next, here, remaining⟩ := taken
    obtain ⟨named, later⟩ := List.forall_mem_cons.mp known
    have fresh : entry.1 ∉ earlier.map Prod.fst := by
      rw [List.map_append, List.map_cons, List.nodup_append] at distinct
      exact fun member => distinct.2.2 _ member _ List.mem_cons_self rfl
    rw [List.append_cons] at distinct ⊢
    exact ih (gives.add named fresh here) distinct later remaining

/-- Members with texts are all taken, by induction on them. -/
theorem exists_foldlM_readOption (filled : ∀ member ∈ members, IsFilled member.2) (start : Options)
    : ∃ options, members.foldlM readOption start = .ok options := by
  induction members generalizing start with
  | nil => exact ⟨start, rfl⟩
  | cons first rest ih =>
    obtain ⟨name, value⟩ := first
    obtain ⟨⟨text, full, rfl⟩, later⟩ := List.forall_mem_cons.mp filled
    rw [List.foldlM_cons, readOption_filled full]
    exact ih later _

-----------------------------------------------------------------------------------------
-- The checks
-----------------------------------------------------------------------------------------

/-- An object that has texts for paths and an object for options, as far as it has them. -/
structure Describes (object : List (String × Json.Value String)) (grammar scratch : Option String)
    (members : List (String × Json.Value String)) : Prop where
  grammar : object.lookup "grammar_path" = grammar.map .string
  scratch : object.lookup "scratch_dir" = scratch.map .string
  options
    : object.lookup "options" = some (.object members)
      ∨ object.lookup "options" = none ∧ members = []
  distinct : (members.map Prod.fst).Nodup

/-- What becomes of an object with given paths and options. The checks are made in the order of the
cases: a path is missing, the first one before the second; options are unknown, which are all named in
increasing order; an option has no text or an empty one, of which the first is named; the analysis is
none of the two there are. An object that passes all of them is accepted. -/
inductive Verdict (members : List (String × Json.Value String))
    : Option String → Option String → Except Failure Config → Prop
  | noGrammar {scratch : Option String}
    : Verdict members none scratch (.error (.invalid (.missingKey "grammar_path")))
  | noScratch {grammar : String}
    : Verdict members (some grammar) none (.error (.invalid (.missingKey "scratch_dir")))
  | unknown {grammar scratch : String} {names : List String} (any : names ≠ [])
    (increasing : names.Pairwise (· < ·))
    (unknown : ∀ name, name ∈ names ↔ name ∈ members.map Prod.fst ∧ name ∉ optionNames)
    : Verdict members (some grammar) (some scratch) (.error (.invalid (.unknownOptions names)))
  | unfilled {grammar scratch name : String} {value : Json.Value String}
    {before after : List (String × Json.Value String)}
    (known : ∀ name ∈ members.map Prod.fst, name ∈ optionNames)
    (first : members = before ++ (name, value) :: after)
    (earlier : ∀ member ∈ before, IsFilled member.2) (unfilled : ¬ IsFilled value)
    : Verdict members (some grammar) (some scratch) (.error (.invalid (.badOption name)))
  | parser {grammar scratch text : String}
    (known : ∀ name ∈ members.map Prod.fst, name ∈ optionNames)
    (filled : ∀ member ∈ members, IsFilled member.2) (given : ("parser", .string text) ∈ members)
    (other : text ≠ "lalr" ∧ text ≠ "earley")
    : Verdict members (some grammar) (some scratch) (.error (.invalid (.unknownParser text)))
  | accepted {grammar scratch : String} {options : Options}
    (known : ∀ name ∈ members.map Prod.fst, name ∈ optionNames)
    (filled : ∀ member ∈ members, IsFilled member.2)
    (parser : ∀ text, ("parser", .string text) ∈ members → text = "lalr" ∨ text = "earley")
    (gives : Gives members options)
    : Verdict members (some grammar) (some scratch)
        (.ok ⟨Path.ofString grammar, Path.ofString scratch, options⟩)

theorem mem_unknownNames {names : List String}
    : name ∈ unknownNames names ↔ name ∈ names ∧ name ∉ optionNames := by
  rw [unknownNames, mem_sortTexts, List.mem_eraseDups, List.mem_filter]
  simp

theorem pairwise_lt_unknownNames (names : List String)
    : (unknownNames names).Pairwise (· < ·) :=
  pairwise_lt_sortTexts (nodup_eraseDups _)

theorem readMembers_of_known (known : ∀ name ∈ members.map Prod.fst, name ∈ optionNames)
    : readMembers members = (do
        let options ← members.foldlM readOption {}
        if parsers.contains options.parser then return options
        else .error (.invalid (.unknownParser options.parser))) := by
  rw [readMembers, unknownNames_eq_nil_iff.mpr known]

theorem readMembers_of_unknown {names : List String} (any : names ≠ [])
    (increasing : names.Pairwise (· < ·))
    (unknown : ∀ name, name ∈ names ↔ name ∈ members.map Prod.fst ∧ name ∉ optionNames)
    : readMembers members = .error (.invalid (.unknownOptions names)) := by
  have same : unknownNames (members.map Prod.fst) = names := by
    apply (pairwise_lt_unknownNames _).eq_of_mem_iff increasing
    intro name
    rw [mem_unknownNames, unknown]
  rw [readMembers, same]
  split
  · exact absurd rfl any
  · rfl

/-- Members with known, distinct names and with texts give options, which are taken from them. -/
theorem exists_gives (distinct : (members.map Prod.fst).Nodup)
    (known : ∀ name ∈ members.map Prod.fst, name ∈ optionNames)
    (filled : ∀ member ∈ members, IsFilled member.2)
    : ∃ options, members.foldlM readOption {} = .ok options ∧ Gives members options := by
  obtain ⟨options, taken⟩ := exists_foldlM_readOption filled {}
  exact ⟨options, taken, gives_nil.foldlM distinct known taken⟩

/-- The analysis is one of the two there are unless the members give another one. -/
theorem Gives.parser_mem_iff (gives : Gives members options)
    (filled : ∀ member ∈ members, IsFilled member.2)
    : options.parser ∈ parsers
      ↔ ∀ text, ("parser", .string text) ∈ members → text = "lalr" ∨ text = "earley" := by
  have listed : options.parser ∈ parsers ↔ options.parser = "lalr" ∨ options.parser = "earley" := by
    simp [parsers]
  rw [listed]
  constructor
  · intro either text given
    rwa [← Option.some.inj (gives.given _ _ given)]
  · intro each
    by_cases named : "parser" ∈ members.map Prod.fst
    · obtain ⟨⟨_, value⟩, member, rfl⟩ := List.mem_map.mp named
      obtain ⟨text, -, rfl⟩ := filled _ member
      have same : options.parser = text := Option.some.inj (gives.given _ _ member)
      rw [same]
      exact each text member
    · exact .inl (Option.some.inj (gives.absent _ named))

-----------------------------------------------------------------------------------------
-- The verdict
-----------------------------------------------------------------------------------------

theorem ofValue_of_paths {grammar scratch : String}
    (describes : Describes object (some grammar) (some scratch) members)
    : ofValue (.object object) = (do
        let options ← readMembers members
        return ⟨Path.ofString grammar, Path.ofString scratch, options⟩) := by
  have first : (Json.Value.object object).member? "grammar_path" = some (.string grammar) :=
    describes.grammar
  have second : (Json.Value.object object).member? "scratch_dir" = some (.string scratch) :=
    describes.scratch
  have third
      : readOptions ((Json.Value.object object).member? "options") = readMembers members := by
    rcases describes.options with given | ⟨absent, rfl⟩
    · exact congrArg readOptions given
    · have nothing : readMembers [] = .ok {} := by
        rw [readMembers_of_known (List.forall_mem_nil _)]
        rfl
      rw [nothing]
      exact congrArg readOptions absent
  rw [ofValue, requiredPath, first, requiredPath, second, third]
  rfl

/-- The verdict is what is made of the object. -/
theorem Verdict.ofValue_eq {outcome : Except Failure Config}
    (describes : Describes object grammar scratch members)
    (verdict : Verdict members grammar scratch outcome)
    : ofValue (.object object) = outcome := by
  cases verdict with
  | noGrammar =>
    have absent : (Json.Value.object object).member? "grammar_path" = none := describes.grammar
    rw [ofValue, requiredPath, absent]
    rfl
  | @noScratch grammar =>
    have first : (Json.Value.object object).member? "grammar_path" = some (.string grammar) :=
      describes.grammar
    have absent : (Json.Value.object object).member? "scratch_dir" = none := describes.scratch
    rw [ofValue, requiredPath, first, requiredPath, absent]
    rfl
  | unknown any increasing unknown =>
    rw [ofValue_of_paths describes, readMembers_of_unknown any increasing unknown]
    rfl
  | @unfilled _ _ name value before after known first earlier unfilled =>
    obtain ⟨options, taken⟩ := exists_foldlM_readOption earlier {}
    rw [ofValue_of_paths describes, readMembers_of_known known, first, List.foldlM_append, taken,
      bind_eq_error]
    refine .inl (bind_eq_error.mpr (.inl ?_))
    refine bind_eq_error.mpr (.inr ⟨options, rfl, ?_⟩)
    rw [List.foldlM_cons, readOption_unfilled unfilled]
    rfl
  | parser known filled given other =>
    obtain ⟨options, taken, gives⟩ := exists_gives describes.distinct known filled
    have same := Option.some.inj (gives.given _ _ given)
    have strange : ¬ parsers.contains options.parser := by
      rw [List.contains_iff_mem, gives.parser_mem_iff filled]
      exact fun each => (each _ given).elim other.1 other.2
    rw [ofValue_of_paths describes, readMembers_of_known known, taken, bind_eq_error]
    refine .inl (bind_eq_error.mpr (.inr ⟨options, rfl, ?_⟩))
    rw [if_neg strange, same]
  | accepted known filled parser gives =>
    obtain ⟨options, taken, also⟩ := exists_gives describes.distinct known filled
    obtain rfl := gives.unique filled also
    have analysis := List.contains_iff_mem.mpr ((gives.parser_mem_iff filled).mpr parser)
    rw [ofValue_of_paths describes, readMembers_of_known known, taken, bind_eq_ok]
    refine ⟨_, bind_eq_ok.mpr ⟨_, rfl, if_pos analysis⟩, rfl⟩

/-- There is a verdict on every object: some check fails, or none does. -/
theorem exists_verdict (describes : Describes object grammar scratch members)
    : ∃ outcome, Verdict members grammar scratch outcome := by
  cases grammar with
  | none => exact ⟨_, .noGrammar⟩
  | some grammar =>
    cases scratch with
    | none => exact ⟨_, .noScratch⟩
    | some scratch =>
      by_cases known : ∀ name ∈ members.map Prod.fst, name ∈ optionNames
      · cases found : members.find? fun member => !decide (IsFilled member.2) with
        | some member =>
          obtain ⟨unfilled, before, after, first, earlier⟩ := List.find?_eq_some_iff_append.mp found
          refine ⟨_, .unfilled known first (fun other inside => ?_) (by simpa using unfilled)⟩
          simpa using earlier other inside
        | none =>
          have filled : ∀ member ∈ members, IsFilled member.2 := by
            simpa using List.find?_eq_none.mp found
          by_cases parser
              : ∀ text, ("parser", .string text) ∈ members → text = "lalr" ∨ text = "earley"
          · obtain ⟨options, -, gives⟩ := exists_gives describes.distinct known filled
            exact ⟨_, .accepted known filled parser gives⟩
          · push Not at parser
            obtain ⟨text, given, other⟩ := parser
            exact ⟨_, .parser known filled given other⟩
      · refine ⟨_, .unknown (mt unknownNames_eq_nil_iff.mp known) (pairwise_lt_unknownNames _) ?_⟩
        exact fun name => mem_unknownNames

/-- An object is acceptable if it has both paths and its options are known, have texts that are not
empty, and name one of the two analyses, if any. -/
structure Acceptable (grammar scratch : Option String)
    (members : List (String × Json.Value String)) : Prop where
  grammar : grammar.isSome
  scratch : scratch.isSome
  known : ∀ name ∈ members.map Prod.fst, name ∈ optionNames
  filled : ∀ member ∈ members, IsFilled member.2
  parser : ∀ text, ("parser", .string text) ∈ members → text = "lalr" ∨ text = "earley"

/-- What is made of an object with texts for paths and an object for options is the verdict on these:
it is accepted if and only if it is acceptable, and its other members do not matter. -/
theorem verdict_of_described (describes : Describes object grammar scratch members)
    : (∀ outcome, ofValue (.object object) = outcome ↔ Verdict members grammar scratch outcome)
      ∧ ((∃ config, ofValue (.object object) = .ok config) ↔ Acceptable grammar scratch members)
      ∧ ∀ other : List (String × Json.Value String),
          (∀ key ∈ ["grammar_path", "scratch_dir", "options"], other.lookup key = object.lookup key)
          → ofValue (.object other) = ofValue (.object object) := by
  have verdict_iff (outcome : Except Failure Config)
      : ofValue (.object object) = outcome ↔ Verdict members grammar scratch outcome := by
    constructor
    · rintro rfl
      obtain ⟨outcome, verdict⟩ := exists_verdict describes
      rwa [verdict.ofValue_eq describes]
    · exact fun verdict => verdict.ofValue_eq describes
  refine ⟨verdict_iff, ?_, ?_⟩
  · simp only [verdict_iff]
    constructor
    · rintro ⟨config, verdict⟩
      cases verdict with
      | accepted known filled parser gives => exact ⟨rfl, rfl, known, filled, parser⟩
    · rintro ⟨first, second, known, filled, parser⟩
      obtain ⟨grammar, rfl⟩ := Option.isSome_iff_exists.mp first
      obtain ⟨scratch, rfl⟩ := Option.isSome_iff_exists.mp second
      obtain ⟨options, -, gives⟩ := exists_gives describes.distinct known filled
      exact ⟨_, .accepted known filled parser gives⟩
  · intro other same
    simp only [List.forall_mem_cons, List.not_mem_nil, false_imp_iff, implies_true, and_true] at same
    obtain ⟨first, second, third⟩ := same
    simp only [ofValue, requiredPath, Json.Value.member?, first, second, third]

/-- Options of which two are unknown, one is empty, and one names no analysis. -/
def faultyMembers : List (String × Json.Value String) :=
  [("zeta", .null), ("start", .string ""), ("parser", .string "cyk"), ("Alpha", .string "a")]

/-- Options of which two are given. -/
def fewMembers : List (String × Json.Value String) :=
  [("parser", .string "earley"), ("keyword_prefix", .string "KW_")]

/-- An object with a member that does not matter, two paths, and options. -/
def objectWith (members : List (String × Json.Value String)) : List (String × Json.Value String) :=
  [("note", .null), ("options", .object members), ("scratch_dir", .string "out//"),
    ("grammar_path", .string "./g.lark")]

/-- Of several faults the first one to be looked for is reported, with both unknown options; without
them the object is accepted, with three options at their defaults. -/
theorem verdict_of_described_several
    : Describes (objectWith faultyMembers) (some "./g.lark") (some "out//") faultyMembers
      ∧ ofValue (.object (objectWith faultyMembers))
        = .error (.invalid (.unknownOptions ["Alpha", "zeta"]))
      ∧ Describes (objectWith fewMembers) (some "./g.lark") (some "out//") fewMembers
      ∧ ofValue (.object (objectWith fewMembers))
        = .ok ⟨⟨.workingDirectory, ["g.lark"]⟩, ⟨.workingDirectory, ["out"]⟩,
            { parser := "earley", keywordStart := "KW_" }⟩ := by
  have faulty
      : Describes (objectWith faultyMembers) (some "./g.lark") (some "out//") faultyMembers :=
    ⟨rfl, rfl, .inl rfl, by decide⟩
  have few : Describes (objectWith fewMembers) (some "./g.lark") (some "out//") fewMembers :=
    ⟨rfl, rfl, .inl rfl, by decide⟩
  refine ⟨faulty, ?_, few, ?_⟩
  · have unknown
        : ∀ name ∈ ["Alpha", "zeta"], name ∈ faultyMembers.map Prod.fst ∧ name ∉ optionNames := by
      decide
    have all
        : ∀ name ∈ faultyMembers.map Prod.fst, name ∉ optionNames → name ∈ ["Alpha", "zeta"] := by
      decide
    refine ((verdict_of_described faulty).1 _).mpr (.unknown (List.cons_ne_nil _ _) (by decide) ?_)
    exact fun name => ⟨unknown name, fun both => all name both.1 both.2⟩
  · have gives : Gives fewMembers { parser := "earley", keywordStart := "KW_" } :=
      gives_nil.foldlM (by decide) (by decide) rfl
    refine ((verdict_of_described few).1 _).mpr (.accepted (by decide) (by decide) ?_ gives)
    intro text given
    exact .inr (Option.some.inj (gives.given _ _ given)).symm

end ReservedWords.Config
