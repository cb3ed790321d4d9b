import ReservedWords.Config
import ReservedWords.Proofs.FileTree
import ReservedWords.Proofs.Json.Remainder
import ReservedWords.Proofs.Outcome
import ReservedWords.Proofs.Path
import ReservedWords.Proofs.Sorting
import ReservedWords.Proofs.Text.CodePoint

/-!
Configurations that are read. Their paths have names for components. A configuration that cannot be had
is mostly reported as wrong; the values and files for which it is not are listed here, by what is the
matter with them.
-/

namespace ReservedWords.Config

variable {config : Config} {tree : FileTree} {data value : Json.Value String} {path : Path}
variable {kind : Defect} {key : String} {options : Options}

-----------------------------------------------------------------------------------------
-- The paths of a configuration
-----------------------------------------------------------------------------------------

/-- The paths of a configuration have names for components. -/
structure IsNormal (config : Config) : Prop where
  grammar : config.grammarPath.IsNormal
  scratch : config.scratchDirectory.IsNormal

theorem isNormal_packaged : packaged.IsNormal :=
  ⟨Path.isNormal_ofString _, Path.isNormal_ofString _⟩

theorem IsNormal.withPaths (normal : config.IsNormal) (grammar scratch : Option String)
    : (config.withPaths grammar scratch).IsNormal := by
  have replaced {path : Path} (normal : path.IsNormal) (given : Option String)
      : (replacePath path given).IsNormal := by
    rw [replacePath.eq_def]
    split
    · exact normal
    · exact normal
    · exact Path.isNormal_ofString _
  exact ⟨replaced normal.grammar grammar, replaced normal.scratch scratch⟩

theorem isNormal_of_requiredPath (found : requiredPath data key = .ok path)
    : path.IsNormal := by
  rw [requiredPath] at found
  split at found
  · cases found
  · cases found
    exact Path.isNormal_ofString _
  · cases found

theorem isNormal_of_ofValue (described : ofValue data = .ok config) : config.IsNormal := by
  rw [ofValue.eq_def] at described
  split at described
  · obtain ⟨grammar, grammarFound, described⟩ := bind_eq_ok.mp described
    obtain ⟨scratch, scratchFound, described⟩ := bind_eq_ok.mp described
    obtain ⟨options, -, described⟩ := bind_eq_ok.mp described
    cases described
    exact ⟨isNormal_of_requiredPath grammarFound, isNormal_of_requiredPath scratchFound⟩
  · cases described

theorem isNormal_of_load (loaded : load tree path = .ok config) : config.IsNormal := by
  rw [load] at loaded
  split at loaded
  · cases loaded
  · cases loaded
  · split at loaded
    · cases loaded
    · cases loaded
    · exact isNormal_of_ofValue loaded

-----------------------------------------------------------------------------------------
-- Values that are not reported
-----------------------------------------------------------------------------------------

/-- A value that stands for options without being an object. The empty text, and a list of names of
which all are known, pass for options without values; everything else is refused for its type, unless
a name in it is unknown. -/
inductive NoOptions : Json.Value String → Defect → Prop
  | null : NoOptions .null .wrongType
  | bool (value : Bool) : NoOptions (.bool value) .wrongType
  | integer (value : Int) : NoOptions (.integer value) .wrongType
  | decimal (text : String) : NoOptions (.decimal text) .wrongType
  | empty : NoOptions (.string "") .noSuchMember
  | items {items : List (Json.Value String)} (other : ∃ item ∈ items, ∀ text, item ≠ .string text)
    : NoOptions (.array items) .wrongType
  | names {names : List String} (known : ∀ name ∈ names, name ∈ optionNames)
    : NoOptions (.array (names.map .string)) .noSuchMember

/-- An object with a member of a type that is not reported: a path that is no text, or, after two
paths, options that are no object. -/
inductive Misfit (data : Json.Value String) : Defect → Prop
  | grammar {value : Json.Value String} (member : data.member? "grammar_path" = some value)
    (noText : ∀ text, value ≠ .string text)
    : Misfit data .wrongType
  | scratch {grammar : String} {value : Json.Value String}
    (first : data.member? "grammar_path" = some (.string grammar))
    (member : data.member? "scratch_dir" = some value) (noText : ∀ text, value ≠ .string text)
    : Misfit data .wrongType
  | options {grammar scratch : String} {value : Json.Value String} {kind : Defect}
    (first : data.member? "grammar_path" = some (.string grammar))
    (second : data.member? "scratch_dir" = some (.string scratch))
    (member : data.member? "options" = some value) (none : NoOptions value kind)
    : Misfit data kind

theorem unknownNames_eq_nil_iff {names : List String}
    : unknownNames names = [] ↔ ∀ name ∈ names, name ∈ optionNames := by
  simp [unknownNames, List.eq_nil_iff_forall_not_mem, List.mem_eraseDups]

theorem refuseNames_eq_defect_iff {names : List String}
    : refuseNames names = .error (.defect kind)
      ↔ kind = .noSuchMember ∧ ∀ name ∈ names, name ∈ optionNames := by
  rw [refuseNames, ← unknownNames_eq_nil_iff]
  split
  · rename_i none
    simp [none, eq_comm]
  · rename_i some
    exact ⟨nofun, fun holds => absurd holds.2 some⟩

/-- No option has a single character for a name. -/
theorem singleton_not_mem_optionNames (c : Char) : String.singleton c ∉ optionNames := by
  intro member
  have long : ∀ name ∈ optionNames, name.length ≠ 1 := by decide
  exact long _ member String.length_singleton

theorem confined_readMembers (members : List (String × Json.Value String))
    : Confined (fun failure => ∃ error, failure = .invalid error) (readMembers members) := by
  have each (options : Options) (entry : String × Json.Value String)
      : Confined (fun failure => ∃ error, failure = .invalid error) (readOption options entry) := by
    rw [readOption]
    split
    · split
      · exact confined_error.mpr ⟨_, rfl⟩
      · exact confined_ok _
    · exact confined_error.mpr ⟨_, rfl⟩
  rw [readMembers]
  split
  · refine (confined_foldlM fun entry _ options => each options entry).bind fun options _ => ?_
    split
    · exact confined_pure _
    · exact confined_error.mpr ⟨_, rfl⟩
  · exact confined_error.mpr ⟨_, rfl⟩

/-- The texts of a list of values are those of a list of JSON strings, by induction on the values. -/
theorem mapM_stringValue?_eq_some_iff {items : List (Json.Value String)} {names : List String}
    : items.mapM stringValue? = some names ↔ items = names.map .string := by
  induction items generalizing names with
  | nil => cases names <;> simp
  | cons item items ih =>
    simp only [List.mapM_cons, Option.bind_eq_bind, Option.bind_eq_some_iff, Option.pure_def, ih]
    constructor
    · rintro ⟨text, taken, others, rfl, made⟩
      cases item <;> cases taken
      cases made
      rfl
    · cases names with
      | nil => nofun
      | cons name names =>
        rintro ⟨⟩
        exact ⟨name, rfl, names, rfl, rfl⟩

/-- A list of values has no texts if and only if one of them is no JSON string, by induction on them.
-/
theorem mapM_stringValue?_eq_none_iff {items : List (Json.Value String)}
    : items.mapM stringValue? = none ↔ ∃ item ∈ items, ∀ text, item ≠ .string text := by
  induction items with
  | nil => simp
  | cons item items ih =>
    simp only [List.mapM_cons, List.exists_mem_cons_iff, ← ih]
    cases item with
    | string text => cases rest : items.mapM stringValue? <;> simp [stringValue?]
    | null | bool | integer | decimal | array | object => simp [stringValue?]

theorem noOptions_array_iff {items : List (Json.Value String)}
    : NoOptions (.array items) kind
      ↔ (kind = .wrongType ∧ ∃ item ∈ items, ∀ text, item ≠ .string text)
        ∨ (kind = .noSuchMember
          ∧ ∃ names : List String,
              items = names.map .string ∧ ∀ name ∈ names, name ∈ optionNames) := by
  constructor
  · intro none
    cases none with
    | items other => exact .inl ⟨rfl, other⟩
    | names known => exact .inr ⟨rfl, _, rfl, known⟩
  · rintro (⟨rfl, other⟩ | ⟨rfl, names, rfl, known⟩)
    · exact .items other
    · exact .names known

/-- What stands for options without being an object is a defect, unless it has an unknown name. -/
theorem readOptions_eq_defect_iff
    : readOptions (some value) = .error (.defect kind) ↔ NoOptions value kind := by
  cases value with
  | null | bool | integer | decimal =>
    constructor
    · intro refused
      cases refused
      constructor
    · rintro ⟨⟩
      rfl
  | string text =>
    refine refuseNames_eq_defect_iff.trans ?_
    constructor
    · rintro ⟨rfl, known⟩
      -- a character would be a name, and no name is that short
      have empty : text.toList = [] :=
        List.eq_nil_iff_forall_not_mem.mpr fun c member =>
          singleton_not_mem_optionNames c (known _ (List.mem_map_of_mem member))
      obtain rfl : text = "" := String.toList_inj.mp empty
      exact .empty
    · rintro ⟨⟩
      exact ⟨rfl, by simp⟩
  | array items =>
    rw [noOptions_array_iff, ← mapM_stringValue?_eq_none_iff]
    simp only [← mapM_stringValue?_eq_some_iff]
    cases texts : items.mapM stringValue? with
    | some names => simp [readOptions, texts, refuseNames_eq_defect_iff]
    | none => simp [readOptions, texts, eq_comm]
  | object members =>
    constructor
    · intro refused
      obtain ⟨_, reported⟩ := confined_readMembers members _ refused
      cases reported
    · rintro ⟨⟩

theorem requiredPath_eq_ok_iff
    : requiredPath data key = .ok path
      ↔ ∃ text, data.member? key = some (.string text) ∧ path = Path.ofString text := by
  rw [requiredPath]
  cases data.member? key with
  | none => simp
  | some value => cases value <;> simp [eq_comm]

theorem requiredPath_eq_defect_iff
    : requiredPath data key = .error (.defect kind)
      ↔ kind = .wrongType
        ∧ ∃ value, data.member? key = some value ∧ ∀ text, value ≠ .string text := by
  rw [requiredPath]
  cases data.member? key with
  | none => simp
  | some value => cases value <;> simp [eq_comm]

theorem ofValue_eq_defect_iff : ofValue data = .error (.defect kind) ↔ Misfit data kind := by
  constructor
  · intro refused
    rw [ofValue.eq_def] at refused
    split at refused
    · rename_i members
      rcases bind_eq_error.mp refused with wrong | ⟨grammar, first, refused⟩
      · obtain ⟨rfl, value, member, noText⟩ := requiredPath_eq_defect_iff.mp wrong
        exact .grammar member noText
      · obtain ⟨grammar, first, -⟩ := requiredPath_eq_ok_iff.mp first
        rcases bind_eq_error.mp refused with wrong | ⟨scratch, second, refused⟩
        · obtain ⟨rfl, value, member, noText⟩ := requiredPath_eq_defect_iff.mp wrong
          exact .scratch first member noText
        · obtain ⟨scratch, second, -⟩ := requiredPath_eq_ok_iff.mp second
          rcases bind_eq_error.mp refused with wrong | ⟨options, third, refused⟩
          · cases member : (Json.Value.object members).member? "options" with
            | none =>
              rw [member] at wrong
              cases wrong
            | some value =>
              rw [member, readOptions_eq_defect_iff] at wrong
              exact .options first second member wrong
          · cases refused
    · cases refused
  · intro misfit
    have fails : ofValue data = (do
        let grammar ← requiredPath data "grammar_path"
        let scratch ← requiredPath data "scratch_dir"
        let options ← readOptions (data.member? "options")
        return ⟨grammar, scratch, options⟩) := by
      cases data with
      | object members => rfl
      | null | bool | integer | decimal | string | array => cases misfit <;> contradiction
    rw [fails]
    cases misfit with
    | grammar member noText =>
      exact bind_eq_error.mpr (.inl (requiredPath_eq_defect_iff.mpr ⟨rfl, _, member, noText⟩))
    | scratch first member noText =>
      refine bind_eq_error.mpr (.inr ⟨_, requiredPath_eq_ok_iff.mpr ⟨_, first, rfl⟩, ?_⟩)
      exact bind_eq_error.mpr (.inl (requiredPath_eq_defect_iff.mpr ⟨rfl, _, member, noText⟩))
    | options first second member none =>
      refine bind_eq_error.mpr (.inr ⟨_, requiredPath_eq_ok_iff.mpr ⟨_, first, rfl⟩, ?_⟩)
      refine bind_eq_error.mpr (.inr ⟨_, requiredPath_eq_ok_iff.mpr ⟨_, second, rfl⟩, ?_⟩)
      rw [member]
      exact bind_eq_error.mpr (.inl (readOptions_eq_defect_iff.mpr none))

-----------------------------------------------------------------------------------------
-- Files that are not reported
-----------------------------------------------------------------------------------------

/-- A file whose reading as a configuration is a defect: its path has a null character, its bytes are
no text, an integer in it is too long to be converted, or the value in it is not reported. -/
inductive Unloadable (tree : FileTree) (path : Path) : Defect → Prop
  | nul (inside : '\x00' ∈ path.text.toList) : Unloadable tree path .badValue
  | undecodable {bytes : Text.Bytes} (content : tree.read path.text = .ok bytes)
    (noText : ∀ text, bytes ≠ Text.encode text)
    : Unloadable tree path .undecodable
  | longInteger {text : String} (content : tree.readText path.text = .ok text)
    (long : Json.read text = .error .longInteger)
    : Unloadable tree path .badValue
  | misfit {text : String} {data : Json.Value Text.CodeText} {kind : Defect}
    (content : tree.readText path.text = .ok text) (read : Json.read text = .ok data)
    (misfit : Misfit (data.map Text.CodeText.shown) kind)
    : Unloadable tree path kind

theorem load_eq_defect_iff : load tree path = .error (.defect kind) ↔ Unloadable tree path kind := by
  constructor
  · intro refused
    rw [load] at refused
    split at refused
    · cases refused
    · rename_i error unreported unread
      cases refused
      cases error with
      | file error =>
        cases error with
        | failed cause file => exact absurd rfl (unreported cause file)
        | embeddedNul => exact .nul (FileTree.readText_eq_nul_iff.mp unread)
      | undecodable fault =>
        obtain ⟨bytes, content, noText⟩ := FileTree.readText_eq_undecodable_iff.mp ⟨fault, unread⟩
        exact .undecodable content noText
    · rename_i text content
      split at refused
      · rename_i long
        cases refused
        exact .longInteger content long
      · cases refused
      · rename_i data read
        exact .misfit content read (ofValue_eq_defect_iff.mp refused)
  · intro unloadable
    cases unloadable with
    | nul inside => simp [load, FileTree.readText_eq_nul_iff.mpr inside, Defect.ofText, Defect.ofFile]
    | undecodable content noText =>
      obtain ⟨fault, unread⟩ := FileTree.readText_eq_undecodable_iff.mpr ⟨_, content, noText⟩
      simp [load, unread, Defect.ofText]
    | longInteger content long => simp [load, content, long]
    | misfit content read misfit => simp [load, content, read, ofValue_eq_defect_iff.mpr misfit]

/-- A file is loaded as the value in it, if the texts of the value have no surrogates. -/
theorem load_eq_ofValue {text : String} (content : tree.readText path.text = .ok text)
    (read : Json.read text = .ok (data.map Text.codes))
    : load tree path = ofValue data := by
  simp only [load, content, read, Json.Value.map_map_cancel Text.shown_codes]

/-- There is a configuration, or a report of what is wrong with it. -/
def Reported (outcome : Except Failure Config) : Prop :=
  (∃ config, outcome = .ok config) ∨ ∃ error, outcome = .error (.invalid error)

theorem reported_iff {outcome : Except Failure Config}
    : Reported outcome ↔ ¬ ∃ kind, outcome = .error (.defect kind) := by
  rw [Reported]
  match outcome with
  | .ok config | .error (.invalid error) | .error (.defect kind) => simp

/-- A configuration is made or refused with a report, except in the cases listed: a value with a path
that is no text or with options that are no object, a path with a null character, a file that is no
text, and an integer that has more digits than are converted. -/
theorem reported_unless_misfit (tree : FileTree) (path : Path) (data : Json.Value String)
    : (Reported (ofValue data) ↔ ¬ ∃ kind, Misfit data kind)
      ∧ (Reported (load tree path) ↔ ¬ ∃ kind, Unloadable tree path kind)
      ∧ (∀ kind, ofValue data = .error (.defect kind) ↔ Misfit data kind)
      ∧ (∀ kind, load tree path = .error (.defect kind) ↔ Unloadable tree path kind)
      ∧ ∀ text, Json.read text = .error .longInteger → Json.HasLongRun text.toList := by
  refine ⟨?_, ?_, fun _ => ofValue_eq_defect_iff, fun _ => load_eq_defect_iff,
    fun _ => Json.hasLongRun_of_read⟩
  · simp only [reported_iff, ofValue_eq_defect_iff]
  · simp only [reported_iff, load_eq_defect_iff]

/-- Two defects that are no reports: a path that is a number, and a file with a byte that is no text.
-/
theorem defect_of_number
    : ofValue (.object [("grammar_path", .integer 5), ("scratch_dir", .string "out")])
        = .error (.defect .wrongType)
      ∧ load (FileTree.initial.put ["work", "c.json"] (.file [0xFF])) (Path.ofString "c.json")
        = .error (.defect .undecodable) := by
  decide +kernel

end ReservedWords.Config
