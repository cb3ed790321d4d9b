import ReservedWords.Proofs.FileTree
import ReservedWords.Proofs.FileTree.Changes
import ReservedWords.Proofs.Path
import ReservedWords.Proofs.Sorting

/-!
Where paths lead. A path is followed along its components, and a name inside the directory that it
leads to is one component more. Directories that are made for a path stand where the path itself or
the front of it leads.
-/

namespace ReservedWords.FileTree

variable {tree after : FileTree} {path : Path} {place other directory : Place} {name : String}

-----------------------------------------------------------------------------------------
-- Following components
-----------------------------------------------------------------------------------------

theorem follow_append_eq_ok {start : Place} {front back : List String}
    : tree.follow start (front ++ back) = .ok place
      ↔ ∃ between, tree.follow start front = .ok between ∧ tree.follow between back = .ok place := by
  induction front generalizing start with
  | nil => simp [follow]
  | cons piece front ih =>
    simp only [List.cons_append, follow_cons_eq_ok, ih]
    constructor
    · rintro ⟨inside, next, entered, between, led, further⟩
      exact ⟨between, ⟨inside, next, entered, led⟩, further⟩
    · rintro ⟨between, ⟨inside, next, entered, led⟩, further⟩
      exact ⟨inside, next, entered, between, led, further⟩

theorem enter_eq_ok_of_name (name_ne_dot : name ≠ ".") (name_ne_dots : name ≠ "..")
    : enter place name = .ok other ↔ name.utf8ByteSize ≤ nameLimit ∧ other = place ++ [name] := by
  rw [enter, if_neg name_ne_dot, if_neg name_ne_dots]
  by_cases long : nameLimit < name.utf8ByteSize
  · simp [long, Nat.not_le.mpr long]
  · simp [long, Nat.not_lt.mp long, eq_comm]

/-- Without double dots, a path leads down along its components, by induction on these. -/
theorem eq_append_of_follow {start : Place} {parts : List String}
    (plain : ∀ part ∈ parts, part ≠ "." ∧ part ≠ "..")
    (led : tree.follow start parts = .ok place)
    : place = start ++ parts := by
  induction parts generalizing start with
  | nil =>
    cases led
    rw [List.append_nil]
  | cons part parts ih =>
    obtain ⟨⟨dot, dots⟩, plain⟩ := List.forall_mem_cons.mp plain
    obtain ⟨-, next, entered, led⟩ := follow_cons_eq_ok.mp led
    obtain ⟨-, rfl⟩ := (enter_eq_ok_of_name dot dots).mp entered
    rw [ih plain led, List.append_assoc, List.singleton_append]

-----------------------------------------------------------------------------------------
-- The text of a path
-----------------------------------------------------------------------------------------

/-- Where a path starts. -/
def start (tree : FileTree) : Path.Root → Place
  | .workingDirectory => tree.workingDirectory
  | .slash | .doubleSlash => []

theorem origin_text (normal : path.IsNormal) : tree.origin path.text = tree.start path.root := by
  rw [origin]
  by_cases relative : path.root = .workingDirectory
  · rw [if_neg (mt (Path.head?_text normal).mp (not_not_intro relative)), relative, start]
  · rw [if_pos ((Path.head?_text normal).mpr relative)]
    cases root : path.root with
    | workingDirectory => exact absurd root relative
    | slash | doubleSlash => rfl

theorem steps_text (normal : path.IsNormal) (present : path.parts ≠ [])
    : steps path.text = path.parts := by
  rw [steps, Path.pieces_text normal present, List.map_map]
  exact List.map_id'' (fun _ => String.ofList_toList) _

/-- The text of a path is followed along its components. -/
theorem follow_of_resolve_text (normal : path.IsNormal)
    (led : tree.resolve path.text = .ok place)
    : tree.follow (tree.start path.root) path.parts = .ok place := by
  obtain ⟨-, -, -, followed⟩ := resolve_eq_ok.mp led
  rw [origin_text normal] at followed
  by_cases present : path.parts = []
  · obtain ⟨root, parts⟩ := path
    cases present
    cases root with
    | slash | doubleSlash => exact followed
    | workingDirectory =>
      -- The text is a dot, which leads nowhere else.
      obtain ⟨-, next, entered, followed⟩ := follow_cons_eq_ok.mp followed
      cases entered
      exact followed
  · rwa [steps_text normal present] at followed

/-- A name that is short enough, and makes no path of a directory too long. -/
def Fits (path : Path) (name : String) : Prop :=
  name.utf8ByteSize ≤ nameLimit ∧ (path.child name).text.utf8ByteSize < pathLimit

/-- A name inside the directory that a path leads to is found under its name there, if it fits. -/
theorem resolve_child (normal : path.IsNormal) (named : Path.IsName name)
    (name_ne_dots : name ≠ "..") (noNul : '\x00' ∉ name.toList)
    (led : tree.resolve path.text = .ok directory)
    (found : tree.find? directory = some .directory)
    : tree.resolve (path.child name).text = .ok place
      ↔ Fits path name ∧ place = directory ++ [name] := by
  have inner := normal.child named
  have present : (path.child name).parts ≠ [] := List.append_ne_nil_of_right_ne_nil _ nofun
  have start := follow_of_resolve_text normal led
  have followed
      : tree.follow (tree.origin (path.child name).text) (steps (path.child name).text) = .ok place
        ↔ name.utf8ByteSize ≤ nameLimit ∧ place = directory ++ [name] := by
    rw [origin_text inner, steps_text inner present]
    refine follow_append_eq_ok.trans ?_
    constructor
    · rintro ⟨between, led, further⟩
      cases start.symm.trans led
      obtain ⟨-, next, entered, further⟩ := follow_cons_eq_ok.mp further
      cases further
      exact (enter_eq_ok_of_name named.2.1 name_ne_dots).mp entered
    · intro fits
      have entered := (enter_eq_ok_of_name named.2.1 name_ne_dots).mpr fits
      exact ⟨directory, start, follow_cons_eq_ok.mpr ⟨found, place, entered, rfl⟩⟩
  have usable : (path.child name).text.toList.contains '\x00' = false := by
    refine Bool.eq_false_iff.mpr (mt List.contains_iff_mem.mp fun nul => ?_)
    obtain ⟨part, member, inside⟩ := Path.hasNul_of_mem_text nul
    rcases List.mem_append.mp member with earlier | last
    · have there := Path.mem_text_of_mem_part normal earlier inside
      exact Bool.eq_false_iff.mp (resolve_eq_ok.mp led).1 (List.contains_iff_mem.mpr there)
    · exact noNul (List.mem_singleton.mp last ▸ inside)
  have nonempty : (path.child name).text.utf8ByteSize ≠ 0 := by
    intro empty
    have steps := steps_text inner present
    rw [String.utf8ByteSize_eq_zero_iff.mp empty] at steps
    exact present steps.symm
  rw [resolve_eq_ok, followed, Fits]
  constructor
  · rintro ⟨-, -, short, fits, same⟩
    exact ⟨⟨fits, short⟩, same⟩
  · rintro ⟨⟨fits, short⟩, same⟩
    exact ⟨usable, nonempty, short, fits, same⟩

/-- The last name of a place ends as the text does that leads there, unless that ends with a dot or a
slash. -/
theorem exists_append_of_resolve {text : String} {c : Char} (ends : text.toList.getLast? = some c)
    (slash : c ≠ '/') (dot : c ≠ '.') (led : tree.resolve text = .ok place)
    : ∃ above name, place = above ++ [name] ∧ name.toList.getLast? = some c := by
  obtain ⟨front, whole⟩ := List.getLast?_eq_some_iff.mp ends
  obtain ⟨before, last, apart⟩ := Path.pieces_append_singleton front slash
  obtain ⟨-, -, -, followed⟩ := resolve_eq_ok.mp led
  have ended
      : steps text
        = (before.filter (· ≠ [])).map String.ofList ++ [String.ofList (last ++ [c])] := by
    rw [steps, whole, apart, List.filter_append, List.map_append]
    simp
  rw [ended] at followed
  obtain ⟨between, -, further⟩ := follow_append_eq_ok.mp followed
  obtain ⟨-, next, entered, further⟩ := follow_cons_eq_ok.mp further
  cases further
  have letter : (String.ofList (last ++ [c])).toList.getLast? = some c := by
    rw [String.toList_ofList, List.getLast?_concat]
  have other {name : String} (dotted : name.toList.getLast? = some '.')
      : String.ofList (last ++ [c]) ≠ name := by
    rintro rfl
    exact dot (Option.some.inj (letter.symm.trans dotted))
  have inside := (enter_eq_ok_of_name (other (by decide)) (other (by decide))).mp entered
  exact ⟨between, _, inside.2, letter⟩

-----------------------------------------------------------------------------------------
-- What a directory holds
-----------------------------------------------------------------------------------------

/-- The names in a directory are those under which something is found there. -/
theorem exists_list? {text : String} (led : tree.resolve text = .ok directory)
    (found : tree.find? directory = some .directory)
    : ∃ names,
        tree.list? text = some names
        ∧ ∀ name, name ∈ names ↔ tree.find? (directory ++ [name]) ≠ none := by
  rw [list?, status_eq_ok.mpr ⟨led, found⟩]
  refine ⟨_, rfl, fun name => ?_⟩
  have inner : directory ++ [name] ≠ [] := List.append_ne_nil_of_right_ne_nil _ nofun
  have last (key : Place)
      : (if key.dropLast = directory then key.getLast? else none) = some name
        ↔ key = directory ++ [name] := by
    rw [Option.ite_none_right_eq_some]
    constructor
    · rintro ⟨above, ends⟩
      rw [← above, List.dropLast_append_getLast? name ends]
    · rintro rfl
      exact ⟨List.dropLast_concat, List.getLast?_concat⟩
  simp only [mem_sortTexts, List.mem_filterMap, last, find?, if_neg inner, ne_eq,
    List.lookup_eq_none_iff, not_forall, bne_iff_ne, not_not]
  constructor
  · rintro ⟨entry, member, here⟩
    exact ⟨entry, member, here.symm⟩
  · rintro ⟨entry, member, here⟩
    exact ⟨entry, member, here.symm⟩

-----------------------------------------------------------------------------------------
-- Directories on the way
-----------------------------------------------------------------------------------------

/-- A place on the way of a path: the path or a front of it leads there. -/
def OnWay (tree : FileTree) (path : Path) (place : Place) : Prop :=
  ∃ parts, parts <+: path.parts ∧ tree.resolve (Path.text ⟨path.root, parts⟩) = .ok place

theorem OnWay.mono (onWay : tree.OnWay path place) (keeps : tree.KeepsDirectories after)
    : after.OnWay path place := by
  obtain ⟨parts, front, led⟩ := onWay
  exact ⟨parts, front, keeps.resolve led⟩

/-- Without double dots, nothing inside the directory that a path leads to is on its way. -/
theorem not_onWay_child (normal : path.IsNormal) (straight : ".." ∉ path.parts)
    (led : tree.resolve path.text = .ok directory)
    : ¬ tree.OnWay path (directory ++ [name]) := by
  rintro ⟨parts, front, inside⟩
  have plain : ∀ part ∈ path.parts, part ≠ "." ∧ part ≠ ".." := fun part member =>
    ⟨(normal part member).2.1, fun dots => straight (dots ▸ member)⟩
  have whole := eq_append_of_follow plain (follow_of_resolve_text normal led)
  have partial_ := eq_append_of_follow (fun part member => plain part (front.subset member))
    (follow_of_resolve_text (normal.of_front front) inside)
  have lengths := congrArg List.length partial_
  have shorter := front.length_le
  simp only [whole, List.length_append, List.length_singleton] at lengths
  omega

/-- A directory has been made for a path at a place that had nothing. -/
structure MadeAt (tree after : FileTree) (path : Path) (place : Place) : Prop where
  vacant : tree.find? place = none
  made : after.find? place = some .directory
  onWay : after.OnWay path place

theorem MadeAt.mono {later : FileTree} (made : tree.MadeAt after path place)
    (keeps : after.KeepsDirectories later)
    : tree.MadeAt later path place :=
  ⟨made.vacant, keeps.directories place made.made, made.onWay.mono keeps⟩

/-- A tree with new directories that have been made for a path. -/
structure Grows (tree after : FileTree) (path : Path) : Prop where
  workingDirectory : after.workingDirectory = tree.workingDirectory
  places : ∀ place, after.find? place = tree.find? place ∨ tree.MadeAt after path place

namespace Grows

variable {later : FileTree}

theorem refl (tree : FileTree) (path : Path) : tree.Grows tree path :=
  ⟨rfl, fun _ => .inl rfl⟩

theorem of_front {root : Path.Root} {parts front : List String}
    (grows : tree.Grows after ⟨root, front⟩) (shorter : front <+: parts)
    : tree.Grows after ⟨root, parts⟩ := by
  refine ⟨grows.workingDirectory, fun place => (grows.places place).imp_right ?_⟩
  rintro ⟨vacant, made, between, start, led⟩
  exact ⟨vacant, made, between, start.trans shorter, led⟩

theorem trans (first : tree.Grows after path) (second : after.Grows later path)
    (keeps : after.KeepsDirectories later)
    : tree.Grows later path := by
  refine ⟨second.workingDirectory.trans first.workingDirectory, fun place => ?_⟩
  rcases second.places place with same | ⟨vacant, made, onWay⟩
  · rw [same]
    exact (first.places place).imp_right fun made => made.mono keeps
  · rcases first.places place with same | ⟨-, there, -⟩
    · exact .inr ⟨same ▸ vacant, made, onWay⟩
    · cases vacant.symm.trans there

theorem find?_ne_none_iff (grows : tree.Grows after path)
    : after.find? place ≠ none ↔ tree.find? place ≠ none ∨ tree.MadeAt after path place := by
  constructor
  · intro there
    rcases grows.places place with same | made
    · exact .inl (same ▸ there)
    · exact .inr made
  · rintro (there | made)
    · rcases grows.places place with same | made
      · exact same ▸ there
      · exact absurd made.vacant there
    · rw [made.made]
      nofun

end Grows

theorem grows_of_ensureLast {result : Except Error Unit}
    (ensured : tree.ensureLast path = (after, result))
    : tree.Grows after path := by
  have extended := extends_of_ensureLast ensured
  rw [ensureLast] at ensured
  split at ensured
  · rename_i made same
    cases ensured
    obtain ⟨place, led, vacant, rfl⟩ := makeDirectory_eq_ok.mp same
    refine ⟨extended.workingDirectory, fun other => ?_⟩
    by_cases here : other = place
    · subst here
      have inner : other ≠ [] := by
        rintro rfl
        cases vacant
      have here := extended.keepsDirectories.resolve led
      exact .inr ⟨vacant, find?_put_self inner, path.parts, List.prefix_refl _, here⟩
    · exact .inl (find?_put_of_ne here)
  all_goals
    cases ensured
    exact .refl tree _

/-- Making a directory with those above it makes directories on its way, by induction on the
components. -/
theorem grows_of_ensureFrom {root : Path.Root} {names : List String} {result : Except Error Unit}
    (ensured : tree.ensureFrom root names = (after, result))
    : tree.Grows after ⟨root, names.reverse⟩ := by
  induction names generalizing tree after result with
  | nil => exact grows_of_ensureLast ensured
  | cons name above ih =>
    have shorter : above.reverse <+: (name :: above).reverse := by
      rw [List.reverse_cons]
      exact List.prefix_append _ _
    rw [ensureFrom] at ensured
    split at ensured
    · split at ensured
      · rename_i between made
        refine ((ih made).of_front shorter).trans (grows_of_ensureLast ensured) ?_
        exact (extends_of_ensureLast ensured).keepsDirectories
      · exact (ih ensured).of_front shorter
    · exact grows_of_ensureLast ensured

theorem grows_of_ensureDirectory {result : Except Error Unit}
    (ensured : tree.ensureDirectory path = (after, result))
    : tree.Grows after path := by
  have grows := grows_of_ensureFrom ensured
  rwa [List.reverse_reverse] at grows

end ReservedWords.FileTree
