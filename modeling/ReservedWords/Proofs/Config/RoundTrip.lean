import ReservedWords.Proofs.Config.Acceptance
import ReservedWords.Proofs.Dictionary

/-!
Configurations that are shown. A configuration that was accepted has normal paths and options that
are accepted again, so an object that shows it is read back as the same configuration. Replaced paths
leave no trace, and the options stay when paths are replaced.
-/

namespace ReservedWords.Config

variable {config : Config} {object members : List (String × Json.Value String)}
variable {data : Json.Value String} {options : Options} {name text : String}

-----------------------------------------------------------------------------------------
-- Options that were accepted
-----------------------------------------------------------------------------------------

/-- No option is empty. -/
def IsFull (options : Options) : Prop :=
  ∀ name text, valueOf options name = some text → text ≠ ""

theorem isFull_default : IsFull {} := by
  have each : ∀ entry ∈ optionEntries {}, entry.2 ≠ "" := by decide
  intro name text found
  obtain ⟨before, after, split, -⟩ := List.lookup_eq_some_iff.mp found
  exact each (name, text) (by simp [split])

/-- An option that is taken is not empty, so no option is. -/
theorem IsFull.add {entry : String × Json.Value String} {after : Options} (full : IsFull options)
    (known : entry.1 ∈ optionNames) (taken : readOption options entry = .ok after)
    : IsFull after := by
  obtain ⟨text, given, -, rfl⟩ := readOption_eq_ok_iff.mp taken
  intro other shown found
  rw [valueOf_setOption known] at found
  split at found
  · cases found
    exact given
  · exact full other shown found

/-- Options that a configuration may have: none is empty, and the analysis is one of those there are.
-/
structure Permitted (options : Options) : Prop where
  full : IsFull options
  parser : options.parser ∈ parsers

theorem permitted_default : Permitted {} :=
  ⟨isFull_default, by decide⟩

theorem permitted_of_readMembers (read : readMembers members = .ok options)
    : Permitted options := by
  by_cases known : ∀ name ∈ members.map Prod.fst, name ∈ optionNames
  · rw [readMembers_of_known known] at read
    obtain ⟨taken, all, read⟩ := bind_eq_ok.mp read
    split at read
    · rename_i analysis
      cases read
      refine ⟨?_, List.contains_iff_mem.mp analysis⟩
      refine foldlM_preserves (fun entry member _ _ full taken => ?_) isFull_default all
      exact full.add (known _ (List.mem_map_of_mem member)) taken
    · cases read
  · rw [readMembers] at read
    split at read
    · rename_i none
      exact absurd (unknownNames_eq_nil_iff.mp none) known
    · cases read

theorem refuseNames_ne_ok {names : List String} : refuseNames names ≠ .ok options := by
  intro made
  rw [refuseNames] at made
  split at made <;> cases made

theorem permitted_of_ofValue (accepted : ofValue data = .ok config)
    : Permitted config.options := by
  rw [ofValue.eq_def] at accepted
  split at accepted
  · obtain ⟨grammar, -, accepted⟩ := bind_eq_ok.mp accepted
    obtain ⟨scratch, -, accepted⟩ := bind_eq_ok.mp accepted
    obtain ⟨options, read, accepted⟩ := bind_eq_ok.mp accepted
    cases accepted
    rw [readOptions.eq_def] at read
    split at read
    · cases read
      exact permitted_default
    · exact permitted_of_readMembers read
    · exact absurd read refuseNames_ne_ok
    · split at read
      · exact absurd read refuseNames_ne_ok
      · cases read
    · cases read
  · cases accepted

-----------------------------------------------------------------------------------------
-- Objects that show a configuration
-----------------------------------------------------------------------------------------

/-- The options as members of an object. -/
def optionMembers (options : Options) : List (String × Json.Value String) :=
  (optionEntries options).map fun entry => (entry.1, .string entry.2)

/-- An object shows a configuration: its paths as texts, and its five options in some order. -/
structure Shows (object : List (String × Json.Value String)) (config : Config) : Prop where
  grammar : object.lookup "grammar_path" = some (.string config.grammarPath.text)
  scratch : object.lookup "scratch_dir" = some (.string config.scratchDirectory.text)
  options
    : ∃ members,
        object.lookup "options" = some (.object members)
        ∧ members.Perm (optionMembers config.options)

/-- The paths and the options of a configuration as members of an object. -/
def toMembers (config : Config) : List (String × Json.Value String) :=
  [("grammar_path", .string config.grammarPath.text),
    ("scratch_dir", .string config.scratchDirectory.text),
    ("options", .object (optionMembers config.options))]

theorem shows_toMembers (config : Config) : Shows config.toMembers config :=
  ⟨rfl, rfl, _, rfl, .rfl⟩

theorem mem_optionMembers {value : Json.Value String}
    : (name, value) ∈ optionMembers options
      ↔ ∃ text, value = .string text ∧ valueOf options name = some text := by
  have distinct : ((optionEntries options).map Prod.fst).Nodup := nodup_optionNames
  simp only [valueOf, Dictionary.lookup_eq_some_iff_mem distinct, optionMembers, List.mem_map,
    Prod.mk.injEq, Prod.exists]
  constructor
  · rintro ⟨key, text, member, rfl, rfl⟩
    exact ⟨text, rfl, member⟩
  · rintro ⟨text, rfl, member⟩
    exact ⟨name, text, member, rfl, rfl⟩

/-- All options are given by members that show them, so none is left at its default. -/
theorem gives_optionMembers (options : Options) : Gives (optionMembers options) options := by
  constructor
  · intro name text given
    obtain ⟨_, same, found⟩ := mem_optionMembers.mp given
    cases same
    exact found
  · intro name unlisted
    have none (options : Options) : valueOf options name = .none := by
      refine List.lookup_eq_none_iff.mpr fun entry member => ?_
      rw [bne_iff_ne]
      rintro rfl
      exact unlisted (List.mem_map_of_mem member)
    rw [none options, none {}]

theorem Gives.of_perm {others : List (String × Json.Value String)} (gives : Gives members options)
    (same : others.Perm members)
    : Gives others options := by
  constructor
  · exact fun name text given => gives.given name text (same.mem_iff.mp given)
  · intro name unlisted
    exact gives.absent name (mt (same.map Prod.fst).mem_iff.mpr unlisted)

/-- An object that shows a configuration describes it, if its options are permitted. -/
theorem Shows.ofValue_eq (shows : Shows object config) (permitted : Permitted config.options)
    (normal : config.IsNormal)
    : ofValue (.object object) = .ok config := by
  obtain ⟨members, listed, same⟩ := shows.options
  have names : (members.map Prod.fst).Perm optionNames := same.map Prod.fst
  have describes
      : Describes object (some config.grammarPath.text) (some config.scratchDirectory.text)
          members :=
    { grammar := shows.grammar
      scratch := shows.scratch
      options := .inl listed
      distinct := names.nodup_iff.mpr nodup_optionNames }
  have gives := (gives_optionMembers config.options).of_perm same
  have filled : ∀ member ∈ members, IsFilled member.2 := by
    rintro ⟨name, value⟩ inside
    obtain ⟨text, rfl, found⟩ := mem_optionMembers.mp (same.mem_iff.mp inside)
    exact ⟨text, permitted.full name text found, rfl⟩
  have verdict : Verdict members (some config.grammarPath.text) (some config.scratchDirectory.text)
      (.ok ⟨Path.ofString config.grammarPath.text, Path.ofString config.scratchDirectory.text,
        config.options⟩) :=
    .accepted (fun name => names.mem_iff.mp) filled
      ((gives.parser_mem_iff filled).mp permitted.parser) gives
  rw [verdict.ofValue_eq describes, Path.ofString_text normal.grammar,
    Path.ofString_text normal.scratch]

-----------------------------------------------------------------------------------------
-- Replaced paths
-----------------------------------------------------------------------------------------

theorem replacePath_of_ne (full : text ≠ "") (current : Path)
    : replacePath current (some text) = Path.ofString text := by
  rw [replacePath.eq_def]
  split
  · rename_i none
    cases none
  · rename_i empty
    cases empty
    exact absurd rfl full
  · rename_i other
    cases other
    rfl

theorem replacePath_text {path : Path} (normal : path.IsNormal)
    : replacePath path (some path.text) = path := by
  rw [replacePath_of_ne (Path.text_ne_empty normal), Path.ofString_text normal]

/-- An accepted configuration is read back from every object that shows it, and replacing its paths by
their own texts changes nothing. Of paths that are replaced twice the second ones stay, and replacing
paths never changes the options. -/
theorem roundTrip_of_accepted (accepted : ofValue data = .ok config)
    : Shows config.toMembers config
      ∧ (∀ object, Shows object config → ofValue (.object object) = .ok config)
      ∧ config.withPaths (some config.grammarPath.text) (some config.scratchDirectory.text) = config
      ∧ (∀ p q r s : String,
          r ≠ ""
          → s ≠ ""
          → (config.withPaths (some p) (some q)).withPaths (some r) (some s)
            = config.withPaths (some r) (some s))
      ∧ ∀ grammar scratch, (config.withPaths grammar scratch).options = config.options := by
  have normal := isNormal_of_ofValue accepted
  have permitted := permitted_of_ofValue accepted
  refine ⟨shows_toMembers config, fun object shows => shows.ofValue_eq permitted normal, ?_, ?_, ?_⟩
  · rw [withPaths, replacePath_text normal.grammar, replacePath_text normal.scratch]
  · intro p q r s grammar scratch
    simp only [withPaths, replacePath_of_ne grammar, replacePath_of_ne scratch]
  · exact fun _ _ => rfl

/-- A configuration with paths that are not in their normal form, and with one option. -/
def untidyObject : List (String × Json.Value String) :=
  [("grammar_path", .string "//a/./b//"), ("scratch_dir", .string ""),
    ("options", .object [("parser", .string "earley")])]

/-- The configuration of `untidyObject`. -/
def tidyConfig : Config where
  grammarPath := ⟨.doubleSlash, ["a", "b"]⟩
  scratchDirectory := ⟨.workingDirectory, []⟩
  options := { parser := "earley" }

/-- The configuration of `untidyObject` shows its paths in their normal form and all five options, and
is read back from that. -/
theorem roundTrip_of_accepted_untidy
    : ofValue (.object untidyObject) = .ok tidyConfig
      ∧ tidyConfig.grammarPath.text = "//a/b"
      ∧ tidyConfig.scratchDirectory.text = "."
      ∧ ofValue (.object tidyConfig.toMembers) = .ok tidyConfig
      ∧ tidyConfig.withPaths (some "//a/b") (some ".") = tidyConfig := by
  have accepted : ofValue (.object untidyObject) = .ok tidyConfig := by decide +kernel
  have grammar : tidyConfig.grammarPath.text = "//a/b" := by decide
  have scratch : tidyConfig.scratchDirectory.text = "." := by decide
  obtain ⟨shown, read, paths, -, -⟩ := roundTrip_of_accepted accepted
  rw [grammar, scratch] at paths
  exact ⟨accepted, grammar, scratch, read _ shown, paths⟩

end ReservedWords.Config
