import Mathlib.Data.List.Basic
import ReservedWords.Path

/-!
The text of a path. A path that has been read from a text has names for components, and its own text
falls apart into just these.
-/

namespace ReservedWords.Path

variable {c : Char} {text piece : List Char} {others : List (List Char)} {parts : List String}
variable {path : Path} {name : String}

-----------------------------------------------------------------------------------------
-- Pieces
-----------------------------------------------------------------------------------------

theorem pieces_ne_nil (text : List Char) : pieces text ≠ [] := by
  cases text with
  | nil => nofun
  | cons c rest =>
    rw [pieces]
    split
    · nofun
    · split <;> nofun

theorem pieces_cons_of_ne (other : c ≠ '/') (same : pieces text = piece :: others)
    : pieces (c :: text) = (c :: piece) :: others := by
  rw [pieces, if_neg other, same]

/-- A slash is where a text falls apart, by induction on what stands before it. -/
theorem pieces_append_slash (front back : List Char)
    : pieces (front ++ '/' :: back) = pieces front ++ pieces back := by
  induction front with
  | nil => rfl
  | cons c front ih =>
    by_cases slash : c = '/'
    · rw [List.cons_append, pieces, if_pos slash, ih, pieces, if_pos slash, List.cons_append]
    · obtain ⟨piece, others, same⟩ := List.exists_cons_of_ne_nil (pieces_ne_nil front)
      rw [same, List.cons_append] at ih
      rw [List.cons_append, pieces_cons_of_ne slash ih, pieces_cons_of_ne slash same,
        List.cons_append]

theorem pieces_of_not_mem (whole : '/' ∉ text) : pieces text = [text] := by
  induction text with
  | nil => rfl
  | cons c rest ih =>
    rw [List.mem_cons, not_or] at whole
    exact pieces_cons_of_ne (Ne.symm whole.1) (ih whole.2)

/-- The pieces of a text have its characters except the slashes, by induction on the text. -/
theorem mem_of_mem_pieces (member : piece ∈ pieces text) (inside : c ∈ piece)
    : c ∈ text ∧ c ≠ '/' := by
  induction text generalizing piece with
  | nil =>
    cases List.mem_singleton.mp member
    cases inside
  | cons first rest ih =>
    by_cases slash : first = '/'
    · rw [pieces, if_pos slash] at member
      rcases List.mem_cons.mp member with rfl | later
      · cases inside
      · exact (ih later inside).imp_left (List.mem_cons_of_mem _)
    · obtain ⟨head, others, same⟩ := List.exists_cons_of_ne_nil (pieces_ne_nil rest)
      rw [pieces_cons_of_ne slash same] at member
      rw [same] at ih
      rcases List.mem_cons.mp member with rfl | later
      · rcases List.mem_cons.mp inside with rfl | inner
        · exact ⟨List.mem_cons_self, slash⟩
        · exact (ih List.mem_cons_self inner).imp_left (List.mem_cons_of_mem _)
      · exact (ih (List.mem_cons_of_mem _ later) inside).imp_left (List.mem_cons_of_mem _)

/-- The last character of a text is that of its last piece, unless it is a slash. -/
theorem pieces_append_singleton (text : List Char) (other : c ≠ '/')
    : ∃ before last, pieces (text ++ [c]) = before ++ [last ++ [c]] := by
  induction text with
  | nil => exact ⟨[], [], pieces_cons_of_ne other rfl⟩
  | cons first rest ih =>
    obtain ⟨before, last, same⟩ := ih
    by_cases slash : first = '/'
    · exact ⟨[] :: before, last, by rw [List.cons_append, pieces, if_pos slash, same,
        List.cons_append]⟩
    · cases before with
      | nil => exact ⟨[], first :: last, pieces_cons_of_ne slash same⟩
      | cons head before =>
        exact ⟨(first :: head) :: before, last, pieces_cons_of_ne slash same⟩

theorem pieces_intercalate (separate : ∀ part ∈ parts, '/' ∉ part.toList) (present : parts ≠ [])
    : pieces ("/".intercalate parts).toList = parts.map String.toList := by
  rw [String.toList_intercalate]
  induction parts with
  | nil => exact absurd rfl present
  | cons first rest ih =>
    obtain ⟨whole, separate⟩ := List.forall_mem_cons.mp separate
    cases rest with
    | nil =>
      rw [List.map_singleton, List.intercalate_singleton, pieces_of_not_mem whole]
    | cons second rest =>
      have later := ih separate (List.cons_ne_nil _ _)
      have slash : "/".toList = ['/'] := rfl
      rw [List.map_cons, slash] at later ⊢
      rw [List.map_cons, List.intercalate_cons_cons, List.append_assoc, List.singleton_append,
        pieces_append_slash, later, pieces_of_not_mem whole, List.singleton_append]

-----------------------------------------------------------------------------------------
-- Names
-----------------------------------------------------------------------------------------

/-- What can be a component: a text without slashes that is neither empty nor a single dot. -/
def IsName (part : String) : Prop :=
  part ≠ "" ∧ part ≠ "." ∧ '/' ∉ part.toList

/-- A path whose components are names. -/
def IsNormal (path : Path) : Prop :=
  ∀ part ∈ path.parts, IsName part

theorem isNormal_ofString (text : String) : (ofString text).IsNormal := by
  intro part member
  obtain ⟨piece, kept, rfl⟩ := List.mem_map.mp member
  obtain ⟨member, component⟩ := List.mem_filter.mp kept
  rw [isComponent, Bool.and_eq_true, decide_eq_true_iff, decide_eq_true_iff] at component
  refine ⟨fun empty => component.1 ?_, fun dot => component.2 ?_, fun slash => ?_⟩
  · rw [← String.toList_ofList (l := piece), empty, String.toList_empty]
  · rw [← String.toList_ofList (l := piece), dot]
    rfl
  · rw [String.toList_ofList] at slash
    exact (mem_of_mem_pieces member slash).2 rfl

theorem IsNormal.child (normal : path.IsNormal) (named : IsName name)
    : (path.child name).IsNormal := by
  intro part member
  rcases List.mem_append.mp member with earlier | last
  · exact normal part earlier
  · rw [List.mem_singleton.mp last]
    exact named

theorem IsNormal.of_front (normal : path.IsNormal) (front : parts <+: path.parts)
    : IsNormal ⟨path.root, parts⟩ :=
  fun part member => normal part (front.subset member)

theorem text_of_ne_nil (present : path.parts ≠ [])
    : path.text = path.root.text ++ "/".intercalate path.parts := by
  obtain ⟨root, parts⟩ := path
  rw [text]
  split
  · rename_i empty
    exact absurd empty present
  · rfl

/-- The text of a path falls apart into its components, but for the slashes at its start. -/
theorem pieces_text (normal : path.IsNormal) (present : path.parts ≠ [])
    : (pieces path.text.toList).filter (· ≠ []) = path.parts.map String.toList := by
  have apart := pieces_intercalate (fun part member => (normal part member).2.2) present
  have whole : (path.parts.map String.toList).filter (· ≠ []) = path.parts.map String.toList := by
    refine List.filter_eq_self.mpr fun piece member => ?_
    obtain ⟨part, inside, rfl⟩ := List.mem_map.mp member
    simpa using (normal part inside).1
  rw [text_of_ne_nil present, String.toList_append]
  cases path.root with
  | workingDirectory => rw [← whole, ← apart]; rfl
  | slash => rw [← whole, ← apart]; rfl
  | doubleSlash => rw [← whole, ← apart]; rfl

theorem mem_text_of_mem_part (normal : path.IsNormal) {part : String} (member : part ∈ path.parts)
    (inside : c ∈ part.toList)
    : c ∈ path.text.toList := by
  have kept : part.toList ∈ (pieces path.text.toList).filter (· ≠ []) := by
    rw [pieces_text normal (List.ne_nil_of_mem member)]
    exact List.mem_map_of_mem member
  exact (mem_of_mem_pieces (List.mem_filter.mp kept).1 inside).1

/-- The text of a path starts with a slash if and only if the path does. -/
theorem head?_text (normal : path.IsNormal)
    : path.text.toList.head? = some '/' ↔ path.root ≠ .workingDirectory := by
  obtain ⟨root, parts⟩ := path
  cases parts with
  | nil => cases root <;> decide
  | cons first rest =>
    obtain ⟨present, -, whole⟩ := normal first List.mem_cons_self
    rw [text_of_ne_nil (List.cons_ne_nil _ _), String.toList_append, String.toList_intercalate]
    cases root with
    | slash => simp [Root.text]
    | doubleSlash => simp [Root.text]
    | workingDirectory =>
      obtain ⟨c, later, same⟩ :=
        List.exists_cons_of_ne_nil (mt String.toList_eq_nil_iff.mp present)
      have start : c ≠ '/' := by
        rintro rfl
        exact whole (same ▸ List.mem_cons_self)
      cases rest with
      | nil => simp [Root.text, same, start]
      | cons second rest => simp [Root.text, same, start, List.intercalate_cons_cons]

/-- A start is read from a text that starts with it, if no slash follows. -/
theorem rootOf_append (root : Root) {rest : List Char} (plain : rest.head? ≠ some '/')
    : rootOf (root.text.toList ++ rest) = root := by
  cases rest with
  | nil => cases root <;> rfl
  | cons c rest =>
    have other : c ≠ '/' := fun slash => plain (congrArg some slash)
    cases root with
    | workingDirectory => simp [Root.text, rootOf, other]
    | slash => simp [Root.text, rootOf, other]
    | doubleSlash => simp [Root.text, rootOf, other]

/-- The components that the text of a path names are those of the path. -/
theorem components_text (normal : path.IsNormal) : components path.text = path.parts := by
  by_cases empty : path.parts = []
  · obtain ⟨root, parts⟩ := path
    cases empty
    cases root <;> rfl
  · have whole : (path.parts.map String.toList).filter (· ≠ ['.']) = path.parts.map String.toList := by
      refine List.filter_eq_self.mpr fun piece member => ?_
      obtain ⟨part, inside, rfl⟩ := List.mem_map.mp member
      rw [decide_eq_true_iff]
      exact fun dot => (normal part inside).2.1 (String.toList_inj.mp dot)
    have kept
        : (pieces path.text.toList).filter isComponent
          = ((pieces path.text.toList).filter (· ≠ [])).filter (· ≠ ['.']) := by
      rw [List.filter_filter]
      refine List.filter_congr fun piece _ => ?_
      rw [isComponent, Bool.and_comm]
    rw [components, kept, pieces_text normal empty, whole, List.map_map]
    simp

/-- The text of a path names the path. -/
theorem ofString_text (normal : path.IsNormal) : ofString path.text = path := by
  have root : rootOf path.text.toList = path.root := by
    by_cases empty : path.parts = []
    · obtain ⟨root, parts⟩ := path
      cases empty
      cases root <;> rfl
    · let relative : Path := { path with root := .workingDirectory }
      have named : relative.IsNormal := normal
      have shape : relative.text = "" ++ "/".intercalate path.parts := text_of_ne_nil empty
      have plain := mt (head?_text named).mp (not_not_intro rfl)
      rw [shape, String.empty_append] at plain
      rw [text_of_ne_nil empty, String.toList_append, rootOf_append path.root plain]
  rw [ofString, root, components_text normal]

/-- A path has a text, since the empty text names the working directory, which is shown as a dot. -/
theorem text_ne_empty (normal : path.IsNormal) : path.text ≠ "" := by
  intro empty
  have named := ofString_text normal
  rw [empty] at named
  rw [← named] at empty
  exact absurd empty (by decide)

-----------------------------------------------------------------------------------------
-- The stem
-----------------------------------------------------------------------------------------

theorem mem_of_mem_stemOf (member : c ∈ stemOf text) : c ∈ text := by
  rw [stemOf] at member
  split at member
  · exact List.mem_of_mem_take member
  · exact member

/-- A character of the stem of a path is one of its last component. -/
theorem mem_part_of_mem_stem (member : c ∈ path.stem.toList)
    : ∃ part ∈ path.parts, c ∈ part.toList := by
  rw [stem, String.toList_ofList] at member
  have inside := mem_of_mem_stemOf member
  rw [Path.name] at inside
  cases last : path.parts.getLast? with
  | none =>
    rw [last] at inside
    cases inside
  | some part =>
    rw [last] at inside
    exact ⟨part, List.mem_of_getLast? last, inside⟩

end ReservedWords.Path
