import Mathlib.Data.List.Basic
import ReservedWords.Text.Blank
import ReservedWords.Text.Lines

/-!
The lines of a text. No line has a boundary in it, a text that has none is one line, and it makes no
difference whether line endings have been turned into line feeds before a text is cut into lines.
Trimming takes off just the blanks at both ends.
-/

namespace ReservedWords.Text

variable {text line before after : List Char} {lines : List (List Char)} {c : Char}

-----------------------------------------------------------------------------------------
-- Cutting a text into lines
-----------------------------------------------------------------------------------------

/-- A text without line boundaries. -/
def Unbroken (text : List Char) : Prop :=
  ∀ c ∈ text, ¬ isLineBoundary c

theorem isBlank_of_isLineBoundary (boundary : isLineBoundary c) : isBlank c := by
  simp only [isLineBoundary, Bool.or_eq_true, decide_eq_true_eq] at boundary
  rcases boundary with
    ((((((((rfl | rfl) | rfl) | rfl) | rfl) | rfl) | rfl) | rfl) | rfl) | rfl <;> decide

/-- Every text is a line, or a line with a boundary and a text after it. By induction on the text, with
the line that has begun. -/
@[elab_as_elim]
theorem lines_induction {motive : List Char → Prop} (text : List Char)
    (last : ∀ line, Unbroken line → motive line)
    (next
      : ∀ line c rest,
          Unbroken line → isLineBoundary c → motive rest → motive (line ++ c :: rest))
    : motive text := by
  have begun : ∀ line, Unbroken line → motive (line ++ text) := by
    induction text with
    | nil =>
      intro line unbroken
      rw [List.append_nil]
      exact last line unbroken
    | cons c rest ih =>
      intro line unbroken
      by_cases boundary : isLineBoundary c
      · exact next line c rest unbroken boundary (ih [] nofun)
      · rw [List.append_cons]
        refine ih _ (List.forall_mem_append.mpr ⟨unbroken, ?_⟩)
        exact List.forall_mem_singleton.mpr boundary
  exact begun [] nofun

theorem splitLines_cons_of_ne (other : c ≠ '\r') (text : List Char)
    : splitLines (c :: text)
      = if isLineBoundary c then [] :: splitLines text else extendFirst c (splitLines text) := by
  rw [splitLines.eq_def]
  split
  · rename_i same
    cases same
  · rename_i same
    cases same
    exact absurd rfl other
  · rename_i same
    cases same
    rfl

theorem splitLines_return (single : text.head? ≠ some '\n')
    : splitLines ('\r' :: text) = [] :: splitLines text := by
  rw [splitLines.eq_def]
  split
  · rename_i same
    cases same
  · rename_i same
    cases same
    exact absurd rfl single
  · rename_i same
    cases same
    rfl

theorem splitLines_cons (plain : ¬ isLineBoundary c)
    : splitLines (c :: text) = extendFirst c (splitLines text) := by
  have other : c ≠ '\r' := by
    rintro rfl
    exact plain rfl
  rw [splitLines_cons_of_ne other, if_neg plain]

/-- A boundary ends an empty line, alone or with the line feed after it. -/
theorem splitLines_boundary (boundary : isLineBoundary c) (text : List Char)
    : splitLines (c :: text) = [] :: splitLines text
      ∨ ∃ rest, text = '\n' :: rest ∧ splitLines (c :: text) = [] :: splitLines rest := by
  by_cases same : c = '\r'
  · subst same
    by_cases feed : text.head? = some '\n'
    · obtain ⟨rest, rfl⟩ := List.head?_eq_some_iff.mp feed
      exact .inr ⟨rest, rfl, rfl⟩
    · exact .inl (splitLines_return feed)
  · rw [splitLines_cons_of_ne same, if_pos boundary]
    exact .inl rfl

/-- What stands before the first boundary is the first line, by induction on it. -/
theorem splitLines_append (unbroken : Unbroken line) (starts : splitLines text = [] :: lines)
    : splitLines (line ++ text) = line :: lines := by
  induction line with
  | nil => exact starts
  | cons c line ih =>
    obtain ⟨here, later⟩ := List.forall_mem_cons.mp unbroken
    rw [List.cons_append, splitLines_cons here, ih later, extendFirst]

theorem splitLines_of_unbroken (unbroken : Unbroken line) (full : line ≠ [])
    : splitLines line = [line] := by
  induction line with
  | nil => exact absurd rfl full
  | cons c line ih =>
    obtain ⟨here, later⟩ := List.forall_mem_cons.mp unbroken
    rw [splitLines_cons here]
    cases line with
    | nil => rfl
    | cons next line => rw [ih later nofun, extendFirst]

/-- No line has a boundary in it, by induction along the cutting. -/
theorem unbroken_of_splitLines (text : List Char) : ∀ line ∈ splitLines text, Unbroken line := by
  fun_induction splitLines text with
  | case1 => exact List.forall_mem_nil _
  | case2 rest ih => exact List.forall_mem_cons.mpr ⟨nofun, ih⟩
  | case3 c rest _ boundary ih => exact List.forall_mem_cons.mpr ⟨nofun, ih⟩
  | case4 c rest _ plain ih =>
    cases lines : splitLines rest with
    | nil => exact List.forall_mem_singleton.mpr (List.forall_mem_singleton.mpr plain)
    | cons first others =>
      rw [lines] at ih
      obtain ⟨here, later⟩ := List.forall_mem_cons.mp ih
      exact List.forall_mem_cons.mpr ⟨List.forall_mem_cons.mpr ⟨plain, here⟩, later⟩

/-- Line endings are boundaries before and after they are turned into line feeds, by induction along
the turning. -/
theorem splitLines_normalizeNewlines (text : List Char)
    : splitLines (normalizeNewlines text) = splitLines text := by
  fun_induction normalizeNewlines text with
  | case1 => rfl
  | case2 rest ih => exact congrArg (List.cons []) ih
  | case3 c rest apart ih =>
    by_cases same : c = '\r'
    · subst same
      have single : rest.head? ≠ some '\n' := by
        intro feed
        obtain ⟨later, rfl⟩ := List.head?_eq_some_iff.mp feed
        exact apart later rfl rfl
      rw [splitLines_return single, if_pos rfl, ← ih]
      rfl
    · rw [if_neg same, splitLines_cons_of_ne same, splitLines_cons_of_ne same, ih]

-----------------------------------------------------------------------------------------
-- Trimming
-----------------------------------------------------------------------------------------

/-- A text that neither starts nor ends with a blank. -/
structure Tight (text : List Char) : Prop where
  start : ∀ c, text.head? = some c → ¬ isBlank c
  stop : ∀ c, text.getLast? = some c → ¬ isBlank c

theorem Tight.reverse (tight : Tight text) : Tight text.reverse := by
  constructor
  · intro c first
    rw [List.head?_reverse] at first
    exact tight.stop c first
  · intro c last
    rw [List.getLast?_reverse] at last
    exact tight.start c last

theorem Tight.dropWhile_isBlank (tight : Tight text) : text.dropWhile isBlank = text := by
  cases text with
  | nil => rfl
  | cons first rest => exact List.dropWhile_cons_of_neg (tight.start first rfl)

/-- Only the blanks around a text that has none at its ends are taken off. -/
theorem trim_framed (blanks : ∀ c ∈ before ++ after, isBlank c) (tight : Tight text)
    : trim (before ++ text ++ after) = text := by
  obtain ⟨ahead, behind⟩ := List.forall_mem_append.mp blanks
  rw [trim, List.append_assoc, List.dropWhile_append_of_pos ahead]
  cases text with
  | nil =>
    have nothing : after.dropWhile isBlank = [] := by
      have beyond : (after ++ []).dropWhile isBlank = [] := List.dropWhile_append_of_pos behind
      rwa [List.append_nil] at beyond
    rw [List.nil_append, nothing]
    rfl
  | cons first text =>
    have kept : (first :: text ++ after).dropWhile isBlank = first :: text ++ after :=
      List.dropWhile_cons_of_neg (tight.start first rfl)
    rw [kept, List.reverse_append, List.dropWhile_append_of_pos, tight.reverse.dropWhile_isBlank,
      List.reverse_reverse]
    exact fun c member => behind c (List.mem_reverse.mp member)

/-- A text is what is left of it between the blanks that are taken off. -/
theorem exists_trim (text : List Char)
    : ∃ before after, text = before ++ trim text ++ after ∧ ∀ c ∈ before ++ after, isBlank c := by
  have ahead := List.takeWhile_append_dropWhile (p := isBlank) (l := text)
  have behind := congrArg List.reverse
    (List.takeWhile_append_dropWhile (p := isBlank) (l := (text.dropWhile isBlank).reverse))
  rw [List.reverse_append, List.reverse_reverse] at behind
  refine ⟨text.takeWhile isBlank, ((text.dropWhile isBlank).reverse.takeWhile isBlank).reverse, ?_, ?_⟩
  · rw [trim, List.append_assoc, behind, ahead]
  · intro c member
    rcases List.mem_append.mp member with first | last
    · exact List.all_eq_true.mp List.all_takeWhile c first
    · exact List.all_eq_true.mp List.all_takeWhile c (List.mem_reverse.mp last)

theorem not_isBlank_of_head?_dropWhile (first : (text.dropWhile isBlank).head? = some c)
    : ¬ isBlank c := by
  have stopped := List.head?_dropWhile_not isBlank text
  rw [first] at stopped
  exact Bool.eq_false_iff.mp stopped

/-- What is left of a text has no blank at its ends. -/
theorem tight_trim (text : List Char) : Tight (trim text) := by
  constructor
  · intro c first
    have front : trim text <+: text.dropWhile isBlank := by
      rw [trim, ← List.reverse_suffix, List.reverse_reverse]
      exact List.dropWhile_suffix isBlank
    obtain ⟨rest, same⟩ := front
    have start : (text.dropWhile isBlank).head? = some c := by
      rw [← same, List.head?_append, first, Option.some_or]
    exact not_isBlank_of_head?_dropWhile start
  · intro c last
    rw [trim, List.getLast?_reverse] at last
    exact not_isBlank_of_head?_dropWhile last

end ReservedWords.Text
