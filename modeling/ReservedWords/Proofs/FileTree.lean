import Mathlib.Data.List.Basic
import ReservedWords.FileTree
import ReservedWords.Proofs.Text.Utf8

/-!
Files that cannot be used. No file name can have a null character, so a path with one cannot be used;
it has it in a component, not between them. A file that can be used may be no text.
-/

namespace ReservedWords

/-- A component of the path has a null character, which no file name can have. -/
def Path.HasNul (path : Path) : Prop :=
  ∃ part ∈ path.parts, '\x00' ∈ part.toList

/-- A character between separated texts stands in a separator or in a text, by induction on these.
-/
theorem mem_toList_intercalate {c : Char} {separator : String} {parts : List String}
    (member : c ∈ (separator.intercalate parts).toList)
    : c ∈ separator.toList ∨ ∃ part ∈ parts, c ∈ part.toList := by
  rw [String.toList_intercalate] at member
  induction parts with
  | nil => cases member
  | cons first rest ih =>
    cases rest with
    | nil =>
      rw [List.map_singleton, List.intercalate_singleton] at member
      exact .inr ⟨first, List.mem_cons_self, member⟩
    | cons second rest =>
      rw [List.map_cons, List.map_cons, List.intercalate_cons_cons, List.mem_append,
        List.mem_append] at member
      rcases member with (here | between) | later
      · exact .inr ⟨first, List.mem_cons_self, here⟩
      · exact .inl between
      · refine (ih later).imp_right ?_
        rintro ⟨part, inside, member⟩
        exact ⟨part, List.mem_cons_of_mem _ inside, member⟩

theorem Path.Root.nul_not_mem_text (root : Path.Root) : '\x00' ∉ root.text.toList := by
  cases root <;> decide

theorem Path.hasNul_of_mem_text {path : Path} (nul : '\x00' ∈ path.text.toList) : path.HasNul := by
  obtain ⟨root, parts⟩ := path
  rw [text] at nul
  split at nul
  · exact absurd nul (by decide)
  · rw [String.toList_append, List.mem_append] at nul
    exact (mem_toList_intercalate (nul.resolve_left root.nul_not_mem_text)).resolve_left (by decide)

namespace FileTree

variable {tree after : FileTree}

theorem nul_of_status {path : String} (failed : tree.status path = .error .embeddedNul)
    : '\x00' ∈ path.toList := by
  have unresolved : tree.resolve path = .error .embeddedNul := by
    rw [status] at failed
    cases resolved : tree.resolve path with
    | error error =>
      rw [resolved] at failed
      cases failed
      rfl
    | ok place =>
      rw [resolved] at failed
      cases failed
  rw [resolve] at unresolved
  split at unresolved
  · rename_i nul
    exact List.contains_iff_mem.mp nul
  · simp only [Except.mapError] at unresolved
    split at unresolved <;> cases unresolved

theorem nul_of_read {path : String} (failed : tree.read path = .error .embeddedNul)
    : '\x00' ∈ path.toList := by
  rw [read] at failed
  split at failed
  · rename_i error same
    cases failed
    exact nul_of_status same
  all_goals cases failed

/-- A path is refused for a null character if and only if it has one. -/
theorem readText_eq_nul_iff {path : String}
    : tree.readText path = .error (.file .embeddedNul) ↔ '\x00' ∈ path.toList := by
  constructor
  · intro failed
    rw [readText] at failed
    split at failed
    · rename_i error same
      cases failed
      exact nul_of_read same
    · split at failed <;> cases failed
  · intro nul
    have unresolved : tree.resolve path = .error .embeddedNul := by
      rw [resolve, if_pos (List.contains_iff_mem.mpr nul)]
    simp [readText, read, status, unresolved, bind, Except.bind]

theorem hasNul_of_readText {path : Path}
    (failed : tree.readText path.text = .error (.file .embeddedNul))
    : path.HasNul :=
  Path.hasNul_of_mem_text (readText_eq_nul_iff.mp failed)

/-- A file is no text if and only if its bytes are the encoding of none. -/
theorem readText_eq_undecodable_iff {path : String}
    : (∃ fault, tree.readText path = .error (.undecodable fault))
      ↔ ∃ bytes, tree.read path = .ok bytes ∧ ∀ text, bytes ≠ Text.encode text := by
  rw [readText.eq_def]
  cases tree.read path with
  | error error => simp
  | ok bytes =>
    have noText : (∀ text, bytes ≠ Text.encode text) ↔ ∀ text, Text.decode bytes ≠ .ok text :=
      forall_congr' fun text => not_congr Text.decode_eq_ok_iff.symm
    simp only [Except.ok.injEq, exists_eq_left', noText]
    cases Text.decode bytes <;> simp

theorem hasNul_of_ensureLast {path : Path}
    (failed : tree.ensureLast path = (after, .error .embeddedNul))
    : path.HasNul := by
  have unmade : tree.makeDirectory path.text = .error .embeddedNul := by
    rw [ensureLast] at failed
    split at failed
    · cases failed
    · cases failed
    · split at failed <;> cases failed
    · assumption
  rw [makeDirectory] at unmade
  split at unmade
  · rename_i error same
    cases unmade
    exact Path.hasNul_of_mem_text (nul_of_status same)
  all_goals cases unmade

/-- Making a directory with those above it meets a null character only in a component, by induction
on the components. -/
theorem hasNul_of_ensureFrom {root : Path.Root} {names : List String}
    (failed : tree.ensureFrom root names = (after, .error .embeddedNul))
    : Path.HasNul ⟨root, names.reverse⟩ := by
  induction names generalizing tree after with
  | nil => exact hasNul_of_ensureLast failed
  | cons name above ih =>
    rw [ensureFrom] at failed
    split at failed
    · split at failed
      · exact hasNul_of_ensureLast failed
      · obtain ⟨part, member, nul⟩ := ih failed
        refine ⟨part, ?_, nul⟩
        rw [List.reverse_cons]
        exact List.mem_append_left _ member
    · exact hasNul_of_ensureLast failed

end FileTree

end ReservedWords
