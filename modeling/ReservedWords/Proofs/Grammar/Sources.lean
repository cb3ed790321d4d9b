import ReservedWords.Proofs.FileTree.Changes
import ReservedWords.Proofs.Grammar.Drafts

/-!
One grammar in two places. If what a text imports is found alike in both, all the way down, the text
defines the same grammar in both.
-/

namespace ReservedWords.Grammar

variable [Installation]
variable {context other : ImportContext} {name text : String}

/-- Every import that a text comes to is found in the other place as well, with the same text. -/
def FindsSame (context other : ImportContext) (name text : String) : Prop :=
  ∀ imports found inner (request : ImportRequest) result,
    Reaches context imports name text found inner
    → request.AskedBy found inner
    → request.search context = .ok result
    → request.search other = .ok result

theorem FindsSame.refl : FindsSame context context name text :=
  fun _ _ _ _ _ _ _ found => found

/-- A text without imports finds them alike everywhere. -/
theorem FindsSame.of_not_asked (none : ∀ request : ImportRequest, ¬ request.AskedBy name text)
    : FindsSame context other name text := by
  intro imports found inner request result reached asked
  cases reached with
  | here => exact absurd asked (none request)
  | through first => exact absurd first (none _)

theorem FindsSame.through (same : FindsSame context other name text) {request : ImportRequest}
    {next between : String} (asked : request.AskedBy name text)
    (first : request.search context = .ok (next, between))
    : FindsSame context other next between :=
  fun _ _ _ _ _ reached => same _ _ _ _ _ (.through asked first reached)

namespace Draft

/-- A text has the same definitions in the other place, however much deeper imports may be nested
there, by induction on the depth. -/
theorem ofText_of_findsSame (same : FindsSame context other name text) {depth more : Nat}
    (deep : depth ≤ more) {rename : Option (String → String)} {cells : List Body} {draft : Draft}
    (done : ofText context depth name text rename cells = .ok draft)
    : ofText other more name text rename cells = .ok draft := by
  induction depth generalizing more name text rename cells draft with
  | zero => cases done
  | succ depth ih =>
    obtain ⟨more, rfl⟩ := Nat.exists_eq_add_of_le' (Nat.le_trans depth.succ_pos deep)
    rw [ofText_succ] at done ⊢
    obtain ⟨defined, drafted, linked⟩ := bind_eq_ok.mp done
    obtain ⟨statements, parsed, drafted⟩ := bind_eq_ok.mp drafted
    obtain ⟨requests, collected, drafted⟩ := bind_eq_ok.mp drafted
    obtain ⟨merged, added, performed⟩ := bind_eq_ok.mp drafted
    have imported : requests.foldlM (addImport other more rename) { cells } = .ok merged := by
      refine foldlM_eq_ok_of_step (fun request member before after step => ?_) added
      have asked : request.AskedBy name text := ⟨statements, requests, parsed, collected, member⟩
      obtain ⟨⟨found, inner⟩, first, step⟩ := bind_eq_ok.mp step
      obtain ⟨imported, read, step⟩ := bind_eq_ok.mp step
      have reread := ih (same.through asked first) (Nat.le_of_succ_le_succ deep) read
      refine bind_eq_ok.mpr ⟨_, same _ _ _ _ _ .here asked first, ?_⟩
      exact bind_eq_ok.mpr ⟨imported, reread, step⟩
    refine bind_eq_ok.mpr ⟨defined, ?_, linked⟩
    refine bind_eq_ok.mpr ⟨statements, parsed, bind_eq_ok.mpr ⟨requests, collected, ?_⟩⟩
    exact bind_eq_ok.mpr ⟨merged, imported, performed⟩

end Draft

/-- A text that is read in both places defines the same grammar in both. -/
theorem eq_of_findsSame (same : FindsSame context other name text) {first second : Grammar}
    (read : Grammar.read context name text = .ok first)
    (reread : Grammar.read other name text = .ok second)
    : first = second := by
  obtain ⟨draft, drafted, done⟩ := bind_eq_ok.mp read
  obtain ⟨again, redrafted, redone⟩ := bind_eq_ok.mp reread
  -- At a depth that is enough for both, both drafts are the one that is made there.
  let depth := max (context.tree.nodes.length + 2) (other.tree.nodes.length + 2)
  have here : Draft.ofText other depth name text none [] = .ok draft :=
    Draft.ofText_of_findsSame same (Nat.le_max_left _ _) drafted
  have there : Draft.ofText other depth name text none [] = .ok again :=
    Draft.ofText_of_findsSame FindsSame.refl (Nat.le_max_right _ _) redrafted
  cases here.symm.trans there
  exact Except.ok.inj (done.symm.trans redone)

/-- A grammar that is read in one place is read in the other as well, if that has no fewer places, since
imports may be nested as deep there. -/
theorem read_of_findsSame (same : FindsSame context other name text)
    (more : context.tree.nodes.length ≤ other.tree.nodes.length) {grammar : Grammar}
    (read : Grammar.read context name text = .ok grammar)
    : Grammar.read other name text = .ok grammar := by
  obtain ⟨draft, drafted, done⟩ := bind_eq_ok.mp read
  have deep : context.tree.nodes.length + 2 ≤ other.tree.nodes.length + 2 := by omega
  exact bind_eq_ok.mpr ⟨draft, Draft.ofText_of_findsSame same deep drafted, done⟩

-----------------------------------------------------------------------------------------
-- The files of imports
-----------------------------------------------------------------------------------------

namespace ImportRequest

/-- A search through directories tries a file in each of them, up to the one that has it. -/
inductive Tries (tree : FileTree) (file : String) : List String → String → Prop
  | here {directory : String} {directories : List String}
    : Tries tree file (directory :: directories) (join directory file)
  | further {directory : String} {directories : List String} {error : FileTree.Error} {name : String}
    (absent : tree.readText (join directory file) = .error (.file error))
    (tries : Tries tree file directories name)
    : Tries tree file (directory :: directories) name

variable {tree later : FileTree} {changed : FileTree.Place → Prop}

omit [Installation] in
/-- A search comes to the same if none of the files it tries has changed, by induction on the
directories. -/
theorem searchIn_of_differsAt (differs : tree.DiffersAt changed later) {file : String}
    {directories : List String}
    (kept
      : ∀ name place,
          Tries tree file directories name → tree.resolve name = .ok place → ¬ changed place)
    : searchIn later file directories = searchIn tree file directories := by
  induction directories with
  | nil => rfl
  | cons directory directories ih =>
    rw [searchIn, searchIn]
    rcases differs.readText fun place => kept _ place .here with same | ⟨error, other, absent, gone⟩
    · rw [same]
      cases found : tree.readText (join directory file) with
      | ok text => rfl
      | error fault =>
        cases fault with
        | undecodable => rfl
        | file error => exact ih fun name place tries => kept name place (.further found tries)
    · rw [absent, gone]
      exact ih fun name place tries => kept name place (.further absent tries)

theorem search_of_differsAt {directory : String} (differs : tree.DiffersAt changed later)
    {request : ImportRequest}
    (kept
      : ∀ name place,
          Tries tree request.file (directory :: request.base.toList) name
          → tree.resolve name = .ok place
          → ¬ changed place)
    {result : String × String} (found : request.search ⟨tree, directory⟩ = .ok result)
    : request.search ⟨later, directory⟩ = .ok result := by
  rw [search] at found ⊢
  dsimp only at found ⊢
  rw [searchIn_of_differsAt differs kept]
  obtain ⟨searched, same, found⟩ := bind_eq_ok.mp found
  refine bind_eq_ok.mpr ⟨searched, same, ?_⟩
  cases searched with
  | some result => exact found
  | none =>
    dsimp only at found ⊢
    split at found
    · exact found
    · split at found <;> cases found

end ImportRequest

/-- For an import that a text comes to, the file at a place is tried. -/
def LooksAt (context : ImportContext) (name text : String) (place : FileTree.Place) : Prop :=
  ∃ imports found inner,
    Reaches context imports name text found inner
    ∧ ∃ request : ImportRequest,
        request.AskedBy found inner
        ∧ ∃ file,
            ImportRequest.Tries context.tree request.file
              (context.directory :: request.base.toList) file
            ∧ context.tree.resolve file = .ok place

/-- Imports are found alike if none of the files that are tried for them has changed. -/
theorem FindsSame.of_differsAt {later : FileTree} {changed : FileTree.Place → Prop}
    (differs : context.tree.DiffersAt changed later)
    (kept : ∀ place, LooksAt context name text place → ¬ changed place)
    : FindsSame context ⟨later, context.directory⟩ name text := by
  intro imports found inner request result reached asked searched
  refine ImportRequest.search_of_differsAt differs (fun file place tries led => ?_) searched
  exact kept place ⟨imports, found, inner, reached, request, asked, file, tries, led⟩

end ReservedWords.Grammar
