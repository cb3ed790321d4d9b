import ReservedWords.Proofs.FileTree.Ways
import ReservedWords.Proofs.Grammar.Loading

/-!
The file of an analysis. It stands in the scratch directory under the stem of the grammar's name, if
that fits; nothing else changes, and leaving it once more changes nothing at all.
-/

namespace ReservedWords.Load

variable {tree : FileTree} {path scratch : Path} {options : Options} {name : String}
variable {place directory : FileTree.Place}

/-- The name of the file that the analysis of a grammar leaves. -/
def cacheName (path : Path) : String :=
  path.stem ++ cacheEnding

theorem cacheName_ne_of_length_le (short : name.length ≤ 2) : cacheName path ≠ name := by
  rintro rfl
  rw [cacheName, String.length_append] at short
  have ending : cacheEnding.length = 11 := by decide
  omega

theorem isName_cacheName (normal : path.IsNormal) : Path.IsName (cacheName path) := by
  refine ⟨cacheName_ne_of_length_le (by decide), cacheName_ne_of_length_le (by decide), ?_⟩
  rw [cacheName, String.toList_append, List.mem_append]
  rintro (stem | ending)
  · obtain ⟨part, member, inside⟩ := Path.mem_part_of_mem_stem stem
    exact (normal part member).2.2 inside
  · exact absurd ending (by decide)

theorem getLast?_cacheName (path : Path) : (cacheName path).toList.getLast? = some 'e' := by
  have ending : cacheEnding.toList = ".lark-cach".toList ++ ['e'] := by decide
  rw [cacheName, String.toList_append, ending, ← List.append_assoc, List.getLast?_concat]

/-- The file of an analysis is found under its name in the scratch directory, if that fits. -/
theorem resolve_cachePath (normal : path.IsNormal) (scratchNormal : scratch.IsNormal)
    (noNul : '\x00' ∉ path.text.toList) (led : tree.resolve scratch.text = .ok directory)
    (found : tree.find? directory = some .directory)
    : tree.resolve (cachePath path scratch).text = .ok place
      ↔ FileTree.Fits scratch (cacheName path) ∧ place = directory ++ [cacheName path] := by
  have nameNoNul : '\x00' ∉ (cacheName path).toList := by
    rw [cacheName, String.toList_append, List.mem_append]
    rintro (stem | ending)
    · obtain ⟨part, member, inside⟩ := Path.mem_part_of_mem_stem stem
      exact noNul (Path.mem_text_of_mem_part normal member inside)
    · exact absurd ending (by decide)
  exact FileTree.resolve_child scratchNormal (isName_cacheName normal)
    (cacheName_ne_of_length_le (by decide)) nameNoNul led found

/-- The analysis of a load leaves a file, if anything. -/
theorem differsAt_leaveCache (tree : FileTree) (path scratch : Path) (options : Options)
    : ∃ changed,
        tree.DiffersAt changed (leaveCache tree path scratch options)
        ∧ tree.nodes.length ≤ (leaveCache tree path scratch options).nodes.length
        ∧ ∀ place,
            changed place → tree.resolve (cachePath path scratch).text = .ok place := by
  have nothing
      : tree.DiffersAt (fun _ => False) tree :=
    ⟨rfl, fun _ _ => rfl, fun _ => False.elim⟩
  rw [leaveCache]
  split
  · split
    · rename_i written same
      obtain ⟨differs, size⟩ := FileTree.differsAt_of_write same
      exact ⟨_, differs, size, fun _ led => led⟩
    · exact ⟨_, nothing, Nat.le_refl _, fun _ => False.elim⟩
  · exact ⟨_, nothing, Nat.le_refl _, fun _ => False.elim⟩

/-- Without tables of its parser's own, or without a place for the file, an analysis leaves nothing.
-/
theorem leaveCache_of_unresolved
    (nowhere
      : options.parser = "lalr" → ∀ place, tree.resolve (cachePath path scratch).text ≠ .ok place)
    : leaveCache tree path scratch options = tree := by
  rw [leaveCache]
  split
  · rename_i lalr
    cases led : tree.resolve (cachePath path scratch).text with
    | error error => rw [FileTree.write_of_unresolved led]
    | ok place => exact absurd led (nowhere lalr place)
  · rfl

/-- What an analysis with tables of its parser's own does where its file belongs: a directory or a
sink stays there, and anything else makes room for the file. -/
theorem leaveCache_of_resolve (lalr : options.parser = "lalr")
    (led : tree.resolve (cachePath path scratch).text = .ok place)
    : (leaveCache tree path scratch options = tree
        ∧ (tree.find? place = some .directory ∨ tree.find? place = some .sink))
      ∨ place ≠ []
        ∧ leaveCache tree path scratch options = tree.put place (.file cacheContent) := by
  rw [leaveCache, if_pos lalr, FileTree.write_of_resolve led]
  have inner (noDirectory : tree.find? place ≠ some .directory) : place ≠ [] := by
    rintro rfl
    exact noDirectory rfl
  cases found : tree.find? place with
  | none => exact .inr ⟨inner (by rw [found]; nofun), rfl⟩
  | some node =>
    cases node with
    | directory => exact .inl ⟨rfl, .inl rfl⟩
    | sink => exact .inl ⟨rfl, .inr rfl⟩
    | file content => exact .inr ⟨inner (by rw [found]; nofun), rfl⟩

/-- Something stands where the file of an analysis with tables belongs. -/
theorem find?_leaveCache_ne_none (lalr : options.parser = "lalr")
    (led : tree.resolve (cachePath path scratch).text = .ok place)
    : (leaveCache tree path scratch options).find? place ≠ none := by
  rcases leaveCache_of_resolve lalr led with ⟨same, found | found⟩ | ⟨inner, same⟩
  · rw [same, found]
    nofun
  · rw [same, found]
    nofun
  · rw [same, FileTree.find?_put_self inner]
    nofun

section

variable (normal : path.IsNormal) (scratchNormal : scratch.IsNormal)
variable (noNul : '\x00' ∉ path.text.toList) (led : tree.resolve scratch.text = .ok directory)
variable (found : tree.find? directory = some .directory)

include normal scratchNormal noNul led found

/-- Only where the file of an analysis belongs does the tree change. -/
theorem find?_leaveCache
    : (leaveCache tree path scratch options).find? place = tree.find? place
      ∨ options.parser = "lalr"
        ∧ FileTree.Fits scratch (cacheName path)
        ∧ place = directory ++ [cacheName path] := by
  by_cases nowhere
      : options.parser = "lalr" → ∀ place, tree.resolve (cachePath path scratch).text ≠ .ok place
  · rw [leaveCache_of_unresolved nowhere]
    exact .inl rfl
  · simp only [not_forall, not_not] at nowhere
    obtain ⟨lalr, other, there⟩ := nowhere
    obtain ⟨fits, same⟩ := (resolve_cachePath normal scratchNormal noNul led found).mp there
    by_cases here : place = other
    · exact .inr ⟨lalr, fits, here.trans same⟩
    · rcases leaveCache_of_resolve lalr there with ⟨unchanged, -⟩ | ⟨-, left⟩
      · rw [unchanged]
        exact .inl rfl
      · rw [left]
        exact .inl (FileTree.find?_put_of_ne here)

/-- After an analysis something stands where something has stood, and where its file belongs. -/
theorem find?_leaveCache_ne_none_iff
    : (leaveCache tree path scratch options).find? place ≠ none
      ↔ tree.find? place ≠ none
        ∨ options.parser = "lalr"
          ∧ FileTree.Fits scratch (cacheName path)
          ∧ place = directory ++ [cacheName path] := by
  have left
      (here
        : options.parser = "lalr"
          ∧ FileTree.Fits scratch (cacheName path)
          ∧ place = directory ++ [cacheName path])
      : (leaveCache tree path scratch options).find? place ≠ none :=
    find?_leaveCache_ne_none here.1
      ((resolve_cachePath normal scratchNormal noNul led found).mpr here.2)
  have kept
      : (leaveCache tree path scratch options).find? place = tree.find? place
        ∨ options.parser = "lalr"
          ∧ FileTree.Fits scratch (cacheName path)
          ∧ place = directory ++ [cacheName path] :=
    find?_leaveCache normal scratchNormal noNul led found
  rcases kept with same | here
  · rw [same]
    refine ⟨.inl, fun held => held.elim id fun here => ?_⟩
    exact same ▸ left here
  · exact ⟨fun _ => .inr here, fun _ => left here⟩

end

/-- Leaving the file of an analysis once more changes nothing. -/
theorem leaveCache_leaveCache (tree : FileTree) (path scratch : Path) (options : Options)
    : leaveCache (leaveCache tree path scratch options) path scratch options
      = leaveCache tree path scratch options := by
  by_cases nowhere
      : options.parser = "lalr" → ∀ place, tree.resolve (cachePath path scratch).text ≠ .ok place
  · rw [leaveCache_of_unresolved nowhere, leaveCache_of_unresolved nowhere]
  · simp only [not_forall, not_not] at nowhere
    obtain ⟨lalr, place, led⟩ := nowhere
    obtain ⟨changed, differs, -⟩ := differsAt_leaveCache tree path scratch options
    have again := differs.keepsDirectories.resolve led
    rcases leaveCache_of_resolve lalr led with ⟨same, -⟩ | ⟨inner, same⟩
    · rw [same, same]
    · rcases leaveCache_of_resolve lalr again with ⟨unchanged, -⟩ | ⟨-, once⟩
      · exact unchanged
      · rw [once, same, FileTree.put_put]

end ReservedWords.Load
