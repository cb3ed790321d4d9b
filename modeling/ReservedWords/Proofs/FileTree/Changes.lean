import ReservedWords.FileTree

/-!
What changes in a file tree, and what stays. A tree that gets new directories, or new contents in some
of its files, is the same for every path that leads to something else.
-/

namespace ReservedWords.FileTree

variable {tree after later : FileTree} {place other : Place} {node : Node}

-----------------------------------------------------------------------------------------
-- One place
-----------------------------------------------------------------------------------------

/-- What stands elsewhere is found as before, by induction on the nodes if one is replaced. -/
theorem find?_put_of_ne (elsewhere : other ≠ place)
    : (tree.put place node).find? other = tree.find? other := by
  have apart : (other == place) = false := beq_false_of_ne elsewhere
  have kept (nodes : List (Place × Node))
      : (nodes.map fun entry => if entry.1 = place then (place, node) else entry).lookup other
        = nodes.lookup other := by
    induction nodes with
    | nil => rfl
    | cons entry nodes ih =>
      obtain ⟨key, value⟩ := entry
      by_cases same : key = place
      · subst same
        simp only [List.map_cons, if_true, List.lookup_cons, apart, ih]
      · simp only [List.map_cons, if_neg same, List.lookup_cons, ih]
  have looked : (tree.put place node).nodes.lookup other = tree.nodes.lookup other := by
    rw [put]
    split
    · exact kept _
    · rw [List.lookup_append, List.lookup_cons, apart]
      exact Option.or_none
  rw [find?, find?, looked]

theorem find?_put_self (inner : place ≠ [])
    : (tree.put place node).find? place = some node := by
  have replaced (nodes : List (Place × Node)) (there : nodes.any (·.1 == place))
      : (nodes.map fun entry => if entry.1 = place then (place, node) else entry).lookup place
        = some node := by
    induction nodes with
    | nil => cases there
    | cons entry nodes ih =>
      obtain ⟨key, value⟩ := entry
      by_cases same : key = place
      · simp only [List.map_cons, if_pos same, List.lookup_cons, beq_self_eq_true]
      · have apart : (place == key) = false := beq_false_of_ne (Ne.symm same)
        have beyond : nodes.any (·.1 == place) := by simpa [same] using there
        simp only [List.map_cons, if_neg same, List.lookup_cons, apart, ih beyond]
  rw [find?, if_neg inner, put]
  split
  · rename_i there
    exact replaced _ there
  · rename_i absent
    have nowhere : tree.nodes.lookup place = none := by
      refine List.lookup_eq_none_iff.mpr fun entry member => ?_
      refine bne_iff_ne.mpr fun same => absent ?_
      exact List.any_eq_true.mpr ⟨entry, member, beq_iff_eq.mpr same.symm⟩
    rw [List.lookup_append, nowhere, List.lookup_cons, beq_self_eq_true]
    rfl

/-- Putting the same at a place once more changes nothing. -/
theorem put_put (tree : FileTree) (place : Place) (node : Node)
    : (tree.put place node).put place node = tree.put place node := by
  have settled
      : (tree.put place node).nodes.any (·.1 == place)
        ∧ ∀ entry ∈ (tree.put place node).nodes,
            (if entry.1 = place then (place, node) else entry) = entry := by
    rw [put]
    split
    · rename_i there
      obtain ⟨known, member, same⟩ := List.any_eq_true.mp there
      refine ⟨List.any_eq_true.mpr ⟨(place, node), ?_, beq_self_eq_true place⟩, ?_⟩
      · exact List.mem_map.mpr ⟨known, member, if_pos (beq_iff_eq.mp same)⟩
      · intro entry member
        obtain ⟨old, -, rfl⟩ := List.mem_map.mp member
        by_cases here : old.1 = place <;> simp [here]
    · rename_i absent
      refine ⟨List.any_eq_true.mpr ⟨(place, node), by simp, beq_self_eq_true place⟩, ?_⟩
      intro entry member
      rcases List.mem_append.mp member with old | new
      · refine if_neg fun here => absent ?_
        exact List.any_eq_true.mpr ⟨entry, old, beq_iff_eq.mpr here⟩
      · rw [List.mem_singleton.mp new, if_pos rfl]
  rw [put, if_pos settled.1, List.map_congr_left settled.2, List.map_id']

theorem length_le_put (tree : FileTree) (place : Place) (node : Node)
    : tree.nodes.length ≤ (tree.put place node).nodes.length := by
  rw [put]
  split
  · simp
  · simp

@[simp]
theorem workingDirectory_put (tree : FileTree) (place : Place) (node : Node)
    : (tree.put place node).workingDirectory = tree.workingDirectory := by
  rw [put]
  split <;> rfl

-----------------------------------------------------------------------------------------
-- Directories that stay
-----------------------------------------------------------------------------------------

/-- Where a piece of a path leads from a directory. -/
def enter (place : Place) (piece : String) : Except Cause Place :=
  if piece = "." then .ok place
  else if piece = ".." then .ok place.dropLast
  else if nameLimit < piece.utf8ByteSize then .error .nameTooLong
  else .ok (place ++ [piece])

theorem follow_cons_eq_ok {start : Place} {piece : String} {rest : List String}
    : tree.follow start (piece :: rest) = .ok place
      ↔ tree.find? start = some .directory
        ∧ ∃ next, enter start piece = .ok next ∧ tree.follow next rest = .ok place := by
  rw [follow]
  cases tree.find? start with
  | none => simp
  | some node =>
    cases node with
    | file | sink => simp
    | directory =>
      by_cases here : piece = "."
      · simp [enter, here]
      · by_cases up : piece = ".."
        · simp [enter, up]
        · by_cases long : nameLimit < piece.utf8ByteSize
          · simp [enter, here, up, long]
          · simp [enter, here, up, long]

/-- Where the text of a path starts. -/
def origin (tree : FileTree) (path : String) : Place :=
  if path.toList.head? = some '/' then [] else tree.workingDirectory

/-- The pieces that the text of a path is followed by. -/
def steps (path : String) : List String :=
  ((Path.pieces path.toList).filter (· ≠ [])).map String.ofList

theorem resolve_eq_ok {path : String}
    : tree.resolve path = .ok place
      ↔ path.toList.contains '\x00' = false
        ∧ path.utf8ByteSize ≠ 0
        ∧ path.utf8ByteSize < pathLimit
        ∧ tree.follow (tree.origin path) (steps path) = .ok place := by
  rw [resolve, origin, steps]
  cases path.toList.contains '\x00' with
  | true => simp
  | false =>
    have mapped {located : Except Cause Place}
        : located.mapError (Error.failed · path) = .ok place ↔ located = .ok place := by
      cases located <;> constructor <;> rintro ⟨⟩ <;> rfl
    by_cases empty : path.utf8ByteSize = 0
    · simp [empty, mapped]
    · by_cases long : pathLimit ≤ path.utf8ByteSize
      · simp [empty, long, mapped, Nat.not_lt.mpr long]
      · simp [empty, long, mapped, Nat.lt_of_not_le long]

theorem status_eq_ok {path : String} {found : Option Node}
    : tree.status path = .ok (place, found)
      ↔ tree.resolve path = .ok place ∧ tree.find? place = found := by
  rw [status]
  cases tree.resolve path with
  | error error => simp [bind, Except.bind]
  | ok led =>
    simp only [bind, Except.bind, pure, Except.pure, Except.ok.injEq, Prod.mk.injEq]
    constructor
    · rintro ⟨rfl, rfl⟩
      exact ⟨rfl, rfl⟩
    · rintro ⟨rfl, rfl⟩
      exact ⟨rfl, rfl⟩

theorem isDirectory_iff {path : String}
    : tree.isDirectory path
      ↔ ∃ place, tree.resolve path = .ok place ∧ tree.find? place = some .directory := by
  rw [isDirectory]
  constructor
  · intro directory
    split at directory
    · rename_i place same
      exact ⟨place, status_eq_ok.mp same⟩
    · cases directory
  · rintro ⟨place, led, found⟩
    rw [status_eq_ok.mpr ⟨led, found⟩]

theorem readText_of_unresolved {path : String} {error : Error}
    (unresolved : tree.resolve path = .error error)
    : tree.readText path = .error (.file error) := by
  have failed : tree.status path = .error error := by
    rw [status, unresolved]
    rfl
  rw [readText, read, failed]

/-- A text is what stands at the end of its path, so it's the same in a tree where the path leads to
the same. -/
theorem readText_congr {path : String} (led : tree.resolve path = .ok place)
    (again : after.resolve path = .ok place) (same : after.find? place = tree.find? place)
    : after.readText path = tree.readText path := by
  rw [readText, readText, read, read, status_eq_ok.mpr ⟨led, rfl⟩,
    status_eq_ok.mpr ⟨again, same⟩]

/-- A text that can be read stands at the end of its path. -/
theorem resolve_of_readText {path text : String} (readable : tree.readText path = .ok text)
    : ∃ place node, tree.resolve path = .ok place ∧ tree.find? place = some node := by
  cases led : tree.resolve path with
  | error error =>
    rw [readText_of_unresolved led] at readable
    cases readable
  | ok place =>
    cases found : tree.find? place with
    | none =>
      rw [readText, read, status_eq_ok.mpr ⟨led, found⟩] at readable
      cases readable
    | some node => exact ⟨place, node, rfl, found⟩

/-- The directories of a tree are directories in the other one as well, the working directory among
them. -/
structure KeepsDirectories (tree after : FileTree) : Prop where
  workingDirectory : after.workingDirectory = tree.workingDirectory
  directories
    : ∀ place, tree.find? place = some .directory → after.find? place = some .directory

namespace KeepsDirectories

/-- A path leads where it has led, by induction on its pieces. -/
theorem follow (keeps : tree.KeepsDirectories after) {start : Place} {pieces : List String}
    (led : tree.follow start pieces = .ok place)
    : after.follow start pieces = .ok place := by
  induction pieces generalizing start with
  | nil => exact led
  | cons piece rest ih =>
    obtain ⟨directory, next, entered, led⟩ := follow_cons_eq_ok.mp led
    exact follow_cons_eq_ok.mpr ⟨keeps.directories start directory, next, entered, ih led⟩

theorem resolve (keeps : tree.KeepsDirectories after) {path : String}
    (led : tree.resolve path = .ok place)
    : after.resolve path = .ok place := by
  obtain ⟨usable, present, short, led⟩ := resolve_eq_ok.mp led
  have same : after.origin path = tree.origin path := by
    rw [origin, origin, keeps.workingDirectory]
  exact resolve_eq_ok.mpr ⟨usable, present, short, same ▸ keeps.follow led⟩

theorem isDirectory (keeps : tree.KeepsDirectories after) {path : String}
    (directory : tree.isDirectory path)
    : after.isDirectory path := by
  obtain ⟨place, led, found⟩ := isDirectory_iff.mp directory
  exact isDirectory_iff.mpr ⟨place, keeps.resolve led, keeps.directories place found⟩

end KeepsDirectories

-----------------------------------------------------------------------------------------
-- New directories
-----------------------------------------------------------------------------------------

/-- Everything that stands in a tree stands in the later one as well. -/
structure Extends (tree after : FileTree) : Prop where
  workingDirectory : after.workingDirectory = tree.workingDirectory
  kept : ∀ place node, tree.find? place = some node → after.find? place = some node
  size : tree.nodes.length ≤ after.nodes.length

namespace Extends

theorem refl (tree : FileTree) : tree.Extends tree :=
  ⟨rfl, fun _ _ found => found, Nat.le_refl _⟩

theorem trans (first : tree.Extends after) (second : after.Extends later) : tree.Extends later :=
  ⟨second.workingDirectory.trans first.workingDirectory,
    fun place node found => second.kept place node (first.kept place node found),
    Nat.le_trans first.size second.size⟩

theorem put (vacant : tree.find? place = none) (node : Node)
    : tree.Extends (tree.put place node) := by
  refine ⟨workingDirectory_put tree place node, fun other found there => ?_,
    length_le_put tree place node⟩
  have elsewhere : other ≠ place := by
    rintro rfl
    cases vacant.symm.trans there
  rw [find?_put_of_ne elsewhere, there]

theorem keepsDirectories (extended : tree.Extends after) : tree.KeepsDirectories after :=
  ⟨extended.workingDirectory, fun place => extended.kept place .directory⟩

theorem readText (extended : tree.Extends after) {path text : String}
    (readable : tree.readText path = .ok text)
    : after.readText path = .ok text := by
  obtain ⟨place, node, led, found⟩ := resolve_of_readText readable
  have again := extended.keepsDirectories.resolve led
  rw [readText_congr led again (by rw [found, extended.kept place node found]), readable]

end Extends

theorem makeDirectory_eq_ok {path : String}
    : tree.makeDirectory path = .ok after
      ↔ ∃ place,
          tree.resolve path = .ok place
          ∧ tree.find? place = none
          ∧ after = tree.put place .directory := by
  rw [makeDirectory]
  constructor
  · intro made
    split at made
    · cases made
    · cases made
    · rename_i place same
      cases made
      obtain ⟨led, vacant⟩ := status_eq_ok.mp same
      exact ⟨place, led, vacant, rfl⟩
  · rintro ⟨place, led, vacant, rfl⟩
    rw [status_eq_ok.mpr ⟨led, vacant⟩]

theorem makeDirectory_of_isDirectory {path : String} (directory : tree.isDirectory path)
    : tree.makeDirectory path = .error (.failed .alreadyExists path) := by
  obtain ⟨place, led, found⟩ := isDirectory_iff.mp directory
  rw [makeDirectory, status_eq_ok.mpr ⟨led, found⟩]

theorem extends_of_ensureLast {path : Path} {result : Except Error Unit}
    (ensured : tree.ensureLast path = (after, result))
    : tree.Extends after := by
  rw [ensureLast] at ensured
  split at ensured
  · rename_i made same
    cases ensured
    obtain ⟨place, -, vacant, rfl⟩ := makeDirectory_eq_ok.mp same
    exact .put vacant .directory
  all_goals
    cases ensured
    exact .refl tree

theorem isDirectory_of_ensureLast {path : Path} (ensured : tree.ensureLast path = (after, .ok ()))
    : after.isDirectory path.text := by
  rw [ensureLast] at ensured
  split at ensured
  · rename_i made same
    cases ensured
    obtain ⟨place, led, vacant, rfl⟩ := makeDirectory_eq_ok.mp same
    have inner : place ≠ [] := by
      rintro rfl
      cases vacant
    refine isDirectory_iff.mpr ⟨place, ?_, find?_put_self inner⟩
    exact (Extends.put vacant .directory).keepsDirectories.resolve led
  · cases ensured
  · split at ensured
    · rename_i directory
      cases ensured
      exact directory
    · cases ensured
  · cases ensured

theorem ensureLast_of_isDirectory {path : Path} (directory : tree.isDirectory path.text)
    : tree.ensureLast path = (tree, .ok ()) := by
  simp only [ensureLast, makeDirectory_of_isDirectory directory, if_pos directory]

/-- Making a directory with those above it takes nothing away and, if it succeeds, leaves the
directory, by induction on the components. -/
theorem extends_of_ensureFrom {root : Path.Root} {names : List String} {result : Except Error Unit}
    (ensured : tree.ensureFrom root names = (after, result))
    : tree.Extends after
      ∧ (result = .ok () → after.isDirectory (Path.text ⟨root, names.reverse⟩)) := by
  induction names generalizing tree after result with
  | nil =>
    refine ⟨extends_of_ensureLast ensured, ?_⟩
    rintro rfl
    exact isDirectory_of_ensureLast ensured
  | cons name above ih =>
    rw [ensureFrom] at ensured
    split at ensured
    · split at ensured
      · rename_i between made
        obtain ⟨first, -⟩ := ih made
        refine ⟨first.trans (extends_of_ensureLast ensured), ?_⟩
        rintro rfl
        exact isDirectory_of_ensureLast ensured
      · rename_i failed
        obtain ⟨first, -⟩ := ih ensured
        refine ⟨first, ?_⟩
        rintro rfl
        exact absurd ensured (failed _)
    · refine ⟨extends_of_ensureLast ensured, ?_⟩
      rintro rfl
      exact isDirectory_of_ensureLast ensured

theorem extends_of_ensureDirectory {path : Path} {result : Except Error Unit}
    (ensured : tree.ensureDirectory path = (after, result))
    : tree.Extends after :=
  (extends_of_ensureFrom ensured).1

theorem isDirectory_of_ensureDirectory {path : Path}
    (ensured : tree.ensureDirectory path = (after, .ok ()))
    : after.isDirectory path.text := by
  have directory := (extends_of_ensureFrom ensured).2 rfl
  rwa [List.reverse_reverse] at directory

theorem ensureDirectory_of_isDirectory {path : Path} (directory : tree.isDirectory path.text)
    : tree.ensureDirectory path = (tree, .ok ()) := by
  have last := ensureLast_of_isDirectory directory
  obtain ⟨root, parts⟩ := path
  rw [ensureDirectory]
  cases names : parts.reverse with
  | nil =>
    cases List.reverse_eq_nil_iff.mp names
    exact last
  | cons name above =>
    have whole : (name :: above).reverse = parts := by rw [← names, List.reverse_reverse]
    simp only [ensureFrom, whole, last]

-----------------------------------------------------------------------------------------
-- Changed files
-----------------------------------------------------------------------------------------

/-- Two trees with the same directories, which differ at some places only. -/
structure DiffersAt (changed : Place → Prop) (tree later : FileTree) : Prop where
  workingDirectory : later.workingDirectory = tree.workingDirectory
  elsewhere : ∀ place, ¬ changed place → later.find? place = tree.find? place
  files
    : ∀ place,
        changed place
        → tree.find? place ≠ some .directory ∧ later.find? place ≠ some .directory

namespace DiffersAt

variable {changed : Place → Prop}

theorem symm (differs : tree.DiffersAt changed later) : later.DiffersAt changed tree :=
  ⟨differs.workingDirectory.symm, fun place kept => (differs.elsewhere place kept).symm,
    fun place there => (differs.files place there).symm⟩

theorem keepsDirectories (differs : tree.DiffersAt changed later)
    : tree.KeepsDirectories later := by
  refine ⟨differs.workingDirectory, fun place directory => ?_⟩
  have kept : ¬ changed place := fun there => (differs.files place there).1 directory
  rw [differs.elsewhere place kept, directory]

theorem trans {others : Place → Prop} (first : tree.DiffersAt changed after)
    (second : after.DiffersAt others later)
    : tree.DiffersAt (fun place => changed place ∨ others place) later := by
  refine ⟨second.workingDirectory.trans first.workingDirectory, fun place kept => ?_,
    fun place there => ⟨fun directory => ?_, fun directory => ?_⟩⟩
  · rw [not_or] at kept
    rw [second.elsewhere place kept.2, first.elsewhere place kept.1]
  · have between := first.keepsDirectories.directories place directory
    rcases there with there | there
    · exact (first.files place there).1 directory
    · exact (second.files place there).1 between
  · have between := second.symm.keepsDirectories.directories place directory
    rcases there with there | there
    · exact (first.files place there).2 between
    · exact (second.files place there).2 directory

/-- A path that leads to no changed place has the same text in both trees, or it can't be followed in
either. -/
theorem readText (differs : tree.DiffersAt changed later) {path : String}
    (kept : ∀ place, tree.resolve path = .ok place → ¬ changed place)
    : later.readText path = tree.readText path
      ∨ ∃ error other,
          tree.readText path = .error (.file error) ∧ later.readText path = .error (.file other) := by
  cases led : tree.resolve path with
  | ok place =>
    have again := differs.keepsDirectories.resolve led
    exact .inl (readText_congr led again (differs.elsewhere place (kept place led)))
  | error error =>
    cases again : later.resolve path with
    | ok place => cases led.symm.trans (differs.symm.keepsDirectories.resolve again)
    | error other =>
      exact .inr ⟨error, other, readText_of_unresolved led, readText_of_unresolved again⟩

end DiffersAt

/-- What is read from a tree is read from one with new directories and changed files, unless it is one
of these. -/
theorem readText_of_differsAt {changed : Place → Prop} (extended : tree.Extends after)
    (differs : after.DiffersAt changed later) {path text : String}
    (kept : ∀ place, tree.resolve path = .ok place → ¬ changed place)
    (readable : tree.readText path = .ok text)
    : later.readText path = .ok text := by
  have between := extended.readText readable
  obtain ⟨place, node, led, -⟩ := resolve_of_readText readable
  have again := extended.keepsDirectories.resolve led
  rw [readText_congr again (differs.keepsDirectories.resolve again)
    (differs.elsewhere place (kept place led)), between]

theorem find?_put_file (content : Text.Bytes) (noDirectory : tree.find? place ≠ some .directory)
    : (tree.put place (.file content)).find? place ≠ some .directory := by
  have inner : place ≠ [] := by
    rintro rfl
    exact noDirectory rfl
  rw [find?_put_self inner]
  nofun

/-- A directory takes no content, a sink keeps none, and everywhere else a file is put. -/
theorem write_of_resolve {path : String} (led : tree.resolve path = .ok place)
    (content : Text.Bytes)
    : tree.write path content
      = match tree.find? place with
        | some .directory => .error (.failed .isDirectory path)
        | some .sink => .ok tree
        | _ => .ok (tree.put place (.file content)) := by
  rw [write, status_eq_ok.mpr ⟨led, rfl⟩]
  cases tree.find? place with
  | none => rfl
  | some node => cases node <;> rfl

theorem write_of_unresolved {path : String} {error : Error}
    (unresolved : tree.resolve path = .error error) (content : Text.Bytes)
    : tree.write path content = .error error := by
  have failed : tree.status path = .error error := by
    rw [status, unresolved]
    rfl
  rw [write, failed]

/-- Writing a file makes a difference only where its path leads. -/
theorem differsAt_of_write {path : String} {content : Text.Bytes}
    (written : tree.write path content = .ok after)
    : tree.DiffersAt (fun place => tree.resolve path = .ok place) after
      ∧ tree.nodes.length ≤ after.nodes.length := by
  rw [write] at written
  split at written
  · cases written
  · cases written
  · rename_i place same
    cases written
    obtain ⟨led, found⟩ := status_eq_ok.mp same
    refine ⟨⟨rfl, fun _ _ => rfl, fun other there => ?_⟩, Nat.le_refl _⟩
    cases led.symm.trans there
    rw [found]
    exact ⟨nofun, nofun⟩
  · rename_i place found noDirectory noSink same
    cases written
    obtain ⟨led, rfl⟩ := status_eq_ok.mp same
    refine ⟨⟨workingDirectory_put _ _ _, fun other apart => ?_, fun other there => ?_⟩,
      length_le_put _ _ _⟩
    · refine find?_put_of_ne ?_
      rintro rfl
      exact apart led
    · cases led.symm.trans there
      exact ⟨noDirectory, find?_put_file content noDirectory⟩

end ReservedWords.FileTree
