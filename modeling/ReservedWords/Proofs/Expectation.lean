import ReservedWords.Expectation
import ReservedWords.Proofs.Text.Lines

/-!
What an expectation list says. A label is read from every line that has it between blanks and before a
comment, and nothing is read from a line without one. The labels on both sides of a line boundary are
read apart.
-/

namespace ReservedWords.Expectation

-----------------------------------------------------------------------------------------
-- Labels and their lines
-----------------------------------------------------------------------------------------

/-- A label without blanks and number signs. -/
def Plain (label : String) : Prop :=
  ∀ c ∈ label.toList, ¬ Text.isBlank c ∧ c ≠ '#'

/-- A line with a label, blanks around it, and a comment after it, if any. Without the label it is a
blank line, or a comment. -/
inductive Line (label : String) : List Char → Prop
  | intro {before after comment : List Char} (blanks : ∀ c ∈ before ++ after, Text.isBlank c)
    (remark : comment = [] ∨ comment.head? = some '#')
    (unbroken : ∀ c ∈ before ++ after ++ comment, ¬ Text.isLineBoundary c)
    : Line label (before ++ label.toList ++ after ++ comment)

/-- A text that is read as it is written, without number signs and line boundaries in it and without
blanks at its ends. -/
structure Legible (label : String) : Prop where
  unmarked : '#' ∉ label.toList
  unbroken : Text.Unbroken label.toList
  tight : Text.Tight label.toList

variable {label : String} {line text : List Char} {labels : List String} {c : Char}

theorem Plain.legible (plain : Plain label) : Legible label where
  unmarked member := (plain '#' member).2 rfl
  unbroken c member boundary := (plain c member).1 (Text.isBlank_of_isLineBoundary boundary)
  tight :=
    { start := fun c first => (plain c (List.mem_of_head? first)).1
      stop := fun c last => (plain c (List.mem_of_getLast? last)).1 }

theorem Line.unbroken (shape : Line label line) (legible : Legible label)
    : Text.Unbroken line := by
  obtain ⟨blanks, remark, unbroken⟩ := shape
  intro c member
  simp only [List.mem_append] at member unbroken
  rcases member with ((ahead | inside) | behind) | later
  · exact unbroken c (.inl (.inl ahead))
  · exact legible.unbroken c inside
  · exact unbroken c (.inl (.inr behind))
  · exact unbroken c (.inr later)

theorem labelOf_line (shape : Line label line) (legible : Legible label)
    : labelOf line = label.toList := by
  obtain ⟨blanks, remark, -⟩ := shape
  rename_i before after comment
  have content : ∀ c ∈ before ++ label.toList ++ after, decide (c ≠ '#') := by
    intro c member
    rw [decide_eq_true_iff]
    rintro rfl
    have sign : ¬ Text.isBlank '#' := by decide
    simp only [List.mem_append] at member blanks
    rcases member with (ahead | inside) | behind
    · exact sign (blanks _ (.inl ahead))
    · exact legible.unmarked inside
    · exact sign (blanks _ (.inr behind))
  have stops : comment.takeWhile (· ≠ '#') = [] := by
    rcases remark with rfl | marked
    · rfl
    · obtain ⟨rest, rfl⟩ := List.head?_eq_some_iff.mp marked
      rfl
  rw [labelOf, List.takeWhile_append_of_pos content, stops, List.append_nil]
  exact Text.trim_framed blanks legible.tight

-----------------------------------------------------------------------------------------
-- The labels of a list, line by line
-----------------------------------------------------------------------------------------

/-- The labels in the lines of a text. -/
def lineLabels (text : List Char) : List (List Char) :=
  ((Text.splitLines text).map labelOf).filter (· ≠ [])

theorem labels_eq (text : String)
    : Expectation.labels text = (lineLabels text.toList).map String.ofList :=
  rfl

theorem lineLabels_of_unbroken (unbroken : Text.Unbroken line)
    : lineLabels line = [labelOf line].filter (· ≠ []) := by
  by_cases empty : line = []
  · rw [empty]
    rfl
  · rw [lineLabels, Text.splitLines_of_unbroken unbroken empty, List.map_singleton]

/-- The first line has its label, and so has the rest: the line feed of a boundary of two characters
may as well end an empty line. -/
theorem lineLabels_line (unbroken : Text.Unbroken line) (boundary : Text.isLineBoundary c)
    (text : List Char)
    : lineLabels (line ++ c :: text) = lineLabels line ++ lineLabels text := by
  have split (rest : List Char) (starts : Text.splitLines (c :: text) = [] :: Text.splitLines rest)
      : lineLabels (line ++ c :: text) = lineLabels line ++ lineLabels rest := by
    rw [lineLabels_of_unbroken unbroken, lineLabels, Text.splitLines_append unbroken starts]
    exact List.filter_append [labelOf line] _
  rcases Text.splitLines_boundary boundary text with starts | ⟨rest, rfl, starts⟩
  · exact split text starts
  · exact split rest starts

/-- The labels before a line boundary and those after it are read apart. By induction on the lines in
front, since the boundary may be the line feed of a carriage return at their end. -/
theorem lineLabels_append (front : List Char) (boundary : Text.isLineBoundary c)
    (back : List Char)
    : lineLabels (front ++ c :: back) = lineLabels front ++ lineLabels back := by
  induction front using Text.lines_induction with
  | last line unbroken => exact lineLabels_line unbroken boundary back
  | next line d rest unbroken ends ih =>
    rw [List.append_assoc, List.cons_append, lineLabels_line unbroken ends, ih,
      lineLabels_line unbroken ends, List.append_assoc]

theorem labels_lines {lines : List (List Char)} {last : List Char}
    (unbroken : ∀ line ∈ lines ++ [last], Text.Unbroken line)
    : Expectation.labels (String.ofList (lines.flatMap (· ++ ['\n']) ++ last))
      = (((lines ++ [last]).map labelOf).filter (· ≠ [])).map String.ofList := by
  rw [labels_eq, String.toList_ofList]
  congr 1
  induction lines with
  | nil => exact lineLabels_of_unbroken (unbroken last List.mem_cons_self)
  | cons line lines ih =>
    obtain ⟨here, later⟩ := List.forall_mem_cons.mp unbroken
    rw [List.flatMap_cons, List.append_assoc, List.append_assoc, List.singleton_append,
      lineLabels_line here rfl, ih later, lineLabels_of_unbroken here]
    exact (List.filter_append [labelOf line] _).symm

-----------------------------------------------------------------------------------------
-- Lists of given labels
-----------------------------------------------------------------------------------------

/-- A text of lines with given labels: each line has one of them or none, and each of them has a line.
-/
def Lists (labels : List String) (text : String) : Prop :=
  ∃ lines last,
    text = String.ofList (lines.flatMap (· ++ ['\n']) ++ last)
    ∧ (∀ line ∈ lines ++ [last], ∃ label ∈ "" :: labels, Line label line)
    ∧ ∀ label ∈ labels, ∃ line ∈ lines ++ [last], Line label line

/-- Just the given labels are read. Order, repetitions, blank lines and comments do not matter. -/
theorem mem_labels_of_lists {text : String} (plain : ∀ label ∈ labels, Plain label)
    (full : "" ∉ labels) (lists : Lists labels text)
    : label ∈ Expectation.labels text ↔ label ∈ labels := by
  obtain ⟨lines, last, rfl, known, every⟩ := lists
  have all : ∀ label ∈ "" :: labels, Plain label := List.forall_mem_cons.mpr ⟨nofun, plain⟩
  have unbroken : ∀ line ∈ lines ++ [last], Text.Unbroken line := by
    intro line member
    obtain ⟨label, given, shape⟩ := known line member
    exact shape.unbroken (all label given).legible
  rw [labels_lines unbroken, List.mem_map]
  constructor
  · rintro ⟨chars, member, rfl⟩
    obtain ⟨found, nonempty⟩ := List.mem_filter.mp member
    obtain ⟨line, present, rfl⟩ := List.mem_map.mp found
    obtain ⟨label, given, shape⟩ := known line present
    have same := labelOf_line shape (all label given).legible
    rw [same, String.ofList_toList]
    refine (List.mem_cons.mp given).resolve_left ?_
    rintro rfl
    rw [same] at nonempty
    exact absurd nonempty (by decide)
  · intro given
    obtain ⟨line, present, shape⟩ := every label given
    have same := labelOf_line shape (plain label given).legible
    refine ⟨label.toList, List.mem_filter.mpr ⟨same ▸ List.mem_map_of_mem present, ?_⟩, ?_⟩
    · rw [decide_eq_true_iff]
      intro empty
      exact full (String.toList_eq_nil_iff.mp empty ▸ given)
    · exact String.ofList_toList

end ReservedWords.Expectation
