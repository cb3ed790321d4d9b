import ReservedWords.Proofs.Expectation
import ReservedWords.Proofs.Text.Utf8

/-!
How labels are laid out in a list. One label stands on a line, or none; a text is a layout of just the
labels that are read from it, so every way to lay labels out is read back, and reading two texts that
are joined by a line feed is reading them one after the other.
-/

namespace ReservedWords.Expectation

variable {line text ending rest : List Char} {labels : List String} {label : Option String} {c : Char}

-----------------------------------------------------------------------------------------
-- Labels and layouts
-----------------------------------------------------------------------------------------

/-- What can be a label: a text that is not empty, has no number sign and no line boundary in it, and
neither starts nor ends with a blank. -/
structure IsLabel (label : String) : Prop extends Legible label where
  full : label ≠ ""

/-- The end of a line: any line boundary, or a carriage return with a line feed. -/
inductive Ending : List Char → Prop
  | boundary {c : Char} (boundary : Text.isLineBoundary c) : Ending [c]
  | pair : Ending ['\r', '\n']

/-- A text lays out labels: it is made of lines, each of them with the next label or with none, and
after each but the last a line ends. -/
inductive Layout : List String → List Char → Prop
  | last {label : Option String} {line : List Char} (shape : Line (label.getD "") line)
    : Layout label.toList line
  | next {label : Option String} {labels : List String} {line ending rest : List Char}
    (shape : Line (label.getD "") line) (ends : Ending ending) (later : Layout labels rest)
    : Layout (label.toList ++ labels) (line ++ ending ++ rest)

theorem legible_empty : Legible "" :=
  ⟨nofun, nofun, ⟨nofun, nofun⟩⟩

theorem legible_getD (each : ∀ text ∈ label.toList, IsLabel text) : Legible (label.getD "") := by
  cases label with
  | none => exact legible_empty
  | some text => exact (each text List.mem_cons_self).toLegible

/-- A line has the label that is laid out in it. -/
theorem lineLabels_of_line (shape : Line (label.getD "") line)
    (each : ∀ text ∈ label.toList, IsLabel text)
    : lineLabels line = label.toList.map String.toList := by
  have legible := legible_getD each
  rw [lineLabels_of_unbroken (shape.unbroken legible), labelOf_line shape legible]
  cases label with
  | none => rfl
  | some text =>
    have full := (each text List.mem_cons_self).full
    simp [full]

/-- The end of a line adds no label. -/
theorem lineLabels_ending (front : List Char) (ends : Ending ending) (back : List Char)
    : lineLabels (front ++ ending ++ back) = lineLabels front ++ lineLabels back := by
  rw [List.append_assoc]
  cases ends with
  | boundary boundary => exact lineLabels_append front boundary back
  | pair =>
    have feed : lineLabels ('\n' :: back) = lineLabels back := lineLabels_append [] rfl back
    exact (lineLabels_append front rfl ('\n' :: back)).trans (feed ▸ rfl)

/-- Labels that are laid out are read, by induction on the lines. -/
theorem Layout.lineLabels_eq (layout : Layout labels text) (each : ∀ label ∈ labels, IsLabel label)
    : lineLabels text = labels.map String.toList := by
  induction layout with
  | last shape => exact lineLabels_of_line shape each
  | next shape ends later ih =>
    obtain ⟨here, others⟩ := List.forall_mem_append.mp each
    rw [lineLabels_ending _ ends, lineLabels_of_line shape here, ih others, List.map_append]

-----------------------------------------------------------------------------------------
-- Every text is a layout
-----------------------------------------------------------------------------------------

/-- A line is what is read from it as its label, with blanks around it and a comment after it, if any.
-/
theorem exists_parts (line : List Char)
    : ∃ before after comment,
        line = before ++ labelOf line ++ after ++ comment
        ∧ (∀ c ∈ before ++ after, Text.isBlank c)
        ∧ (comment = [] ∨ comment.head? = some '#') := by
  obtain ⟨before, after, framed, blanks⟩ := Text.exists_trim (line.takeWhile (· ≠ '#'))
  refine ⟨before, after, line.dropWhile (· ≠ '#'), ?_, blanks, ?_⟩
  · rw [labelOf, ← framed, List.takeWhile_append_dropWhile]
  · have stopped := List.head?_dropWhile_not (· ≠ '#') line
    cases rest : line.dropWhile (· ≠ '#') with
    | nil => exact .inl rfl
    | cons c comment =>
      rw [rest] at stopped
      exact .inr (congrArg some (by simpa using stopped))

theorem mem_line_of_mem_labelOf (member : c ∈ labelOf line) : c ∈ line ∧ c ≠ '#' := by
  obtain ⟨before, after, framed, -⟩ := Text.exists_trim (line.takeWhile (· ≠ '#'))
  have inside : c ∈ line.takeWhile (· ≠ '#') := by
    rw [framed]
    exact List.mem_append_left _ (List.mem_append_right _ member)
  refine ⟨(List.takeWhile_prefix _).subset inside, ?_⟩
  exact of_decide_eq_true (List.all_eq_true.mp List.all_takeWhile c inside)

/-- What is read from a line without a boundary is laid out in it. -/
theorem line_labelOf (unbroken : Text.Unbroken line)
    : Line (String.ofList (labelOf line)) line := by
  obtain ⟨before, after, comment, shape, blanks, remark⟩ := exists_parts line
  have around : ∀ c ∈ before ++ after ++ comment, ¬ Text.isLineBoundary c := by
    intro c member
    refine unbroken c ?_
    rw [shape]
    simp only [List.mem_append] at member ⊢
    tauto
  have made := @Line.intro (String.ofList (labelOf line)) before after comment blanks remark around
  rwa [String.toList_ofList, ← shape] at made

/-- A line has one label or none. -/
theorem exists_line (unbroken : Text.Unbroken line)
    : ∃ label : Option String,
        Line (label.getD "") line ∧ (lineLabels line).map String.ofList = label.toList := by
  have shape := line_labelOf unbroken
  rw [lineLabels_of_unbroken unbroken]
  by_cases empty : labelOf line = []
  · rw [empty] at shape ⊢
    exact ⟨none, shape, rfl⟩
  · refine ⟨some (String.ofList (labelOf line)), shape, ?_⟩
    simp [empty]

/-- A text is a layout of what is read from it, by induction on its lines. -/
theorem layout_lineLabels (text : List Char)
    : Layout ((lineLabels text).map String.ofList) text := by
  induction text using Text.lines_induction with
  | last line unbroken =>
    obtain ⟨label, shape, same⟩ := exists_line unbroken
    rw [same]
    exact .last shape
  | next line c rest unbroken boundary ih =>
    obtain ⟨label, shape, same⟩ := exists_line unbroken
    rw [lineLabels_append line boundary rest, List.map_append, same, List.append_cons]
    exact .next shape (.boundary boundary) ih

theorem isLabel_of_mem_labels {text label : String} (member : label ∈ Expectation.labels text)
    : IsLabel label := by
  obtain ⟨found, listed, rfl⟩ := List.mem_map.mp member
  obtain ⟨read, full⟩ := List.mem_filter.mp listed
  obtain ⟨line, inside, rfl⟩ := List.mem_map.mp read
  have unbroken := Text.unbroken_of_splitLines _ line inside
  refine ⟨⟨?_, ?_, ?_⟩, ?_⟩
  · rw [String.toList_ofList]
    exact fun sign => (mem_line_of_mem_labelOf sign).2 rfl
  · rw [String.toList_ofList]
    exact fun c member => unbroken c (mem_line_of_mem_labelOf member).1
  · rw [String.toList_ofList]
    exact Text.tight_trim _
  · intro empty
    refine of_decide_eq_true full ?_
    rw [← String.toList_ofList (l := labelOf line), empty, String.toList_empty]

-----------------------------------------------------------------------------------------
-- The format
-----------------------------------------------------------------------------------------

/-- The labels in the file of a text are those of the text, since line endings are boundaries as they
stand and as they are read. -/
theorem read_of_content {tree : FileTree} {path : Path} {text : String}
    (content : tree.read path.text = .ok (Text.encode text))
    : read tree path = .ok (Expectation.labels text) := by
  rw [read, FileTree.readText, content]
  simp only [Text.decode_encode, Except.map, Expectation.labels, String.toList_ofList,
    Text.splitLines_normalizeNewlines]

/-- A list is read by its layout. The labels of a file are those of its text, and they are just the
labels, in order and with repetitions, that the text lays out; all that is read can be a label; and
of two texts that are joined by a line feed the labels of the first are read, then those of the
second. -/
theorem labels_iff_layout (text : String)
    : (∀ tree path,
        FileTree.read tree (Path.text path) = .ok (Text.encode text)
        → read tree path = .ok (Expectation.labels text))
      ∧ (∀ listed,
          Expectation.labels text = listed
          ↔ (∀ label ∈ listed, IsLabel label) ∧ Layout listed text.toList)
      ∧ (∀ label ∈ Expectation.labels text, IsLabel label)
      ∧ ∀ other,
          Expectation.labels (text ++ "\n" ++ other)
          = Expectation.labels text ++ Expectation.labels other := by
  refine ⟨fun tree path => read_of_content, ?_, fun label => isLabel_of_mem_labels, ?_⟩
  · intro listed
    constructor
    · rintro rfl
      exact ⟨fun label => isLabel_of_mem_labels, layout_lineLabels text.toList⟩
    · rintro ⟨each, layout⟩
      rw [labels_eq, layout.lineLabels_eq each, List.map_map]
      simp
  · intro other
    have joined : (text ++ "\n" ++ other).toList = text.toList ++ '\n' :: other.toList := by
      simp
    rw [labels_eq, labels_eq, labels_eq, joined, lineLabels_append _ rfl, List.map_append]

/-- Blanks inside a label stay, and every line boundary ends a line. -/
example
    : Expectation.labels " K A\t# both\r\n\r#\n\u2028K_B#\x0cK A" = ["K A", "K_B", "K A"] := by
  decide

end ReservedWords.Expectation
