import ReservedWords.Load
import ReservedWords.Proofs.FileTree.Newlines
import ReservedWords.Proofs.Grammar.Drafts

/-!
Loads with other line endings. A grammar that is found by the same searches is the same grammar; the
line endings of a file make no difference to a search, nor to anything else that a load does, so its
tables and its failures do not depend on them.
-/

namespace ReservedWords

open FileTree (DoneAlike NewlinesLeft Place respellLeft)
open Text (Newline)

-----------------------------------------------------------------------------------------
-- Grammars
-----------------------------------------------------------------------------------------

namespace Grammar

variable {context other : ImportContext}

/-- Where every search comes to the same, a text has the same definitions, by induction on the depth to
which imports are nested. -/
theorem Draft.ofText_congr [Installation]
    (same : ∀ request : ImportRequest, request.search other = request.search context)
    (depth : Nat) (name text : String) (rename : Option (String → String)) (cells : List Body)
    : ofText other depth name text rename cells = ofText context depth name text rename cells := by
  induction depth generalizing name text rename cells with
  | zero => rfl
  | succ depth ih =>
    have imports : addImport other depth rename = addImport context depth rename := by
      funext draft request
      simp only [addImport, same, ih]
    rw [ofText_succ, ofText_succ, unlinked, unlinked, imports]

/-- Where every search comes to the same and there are as many places, a text defines the same grammar,
or fails in the same way. -/
theorem read_congr [Installation]
    (same : ∀ request : ImportRequest, request.search other = request.search context)
    (size : other.tree.nodes.length = context.tree.nodes.length) (name text : String)
    : Grammar.read other name text = Grammar.read context name text := by
  rw [Grammar.read, Grammar.read, size, Draft.ofText_congr same]

namespace ImportRequest

/-- The directories are searched alike, by induction on them. -/
theorem searchIn_respell (tree : FileTree) (newlines : Place → Newline) (file : String)
    (directories : List String)
    : searchIn (tree.respell newlines) file directories = searchIn tree file directories := by
  induction directories with
  | nil => rfl
  | cons directory directories ih => rw [searchIn, searchIn, FileTree.readText_respell, ih]

theorem search_respell [Installation]
    (tree : FileTree) (newlines : Place → Newline) (directory : String)
    (request : ImportRequest)
    : request.search ⟨tree.respell newlines, directory⟩ = request.search ⟨tree, directory⟩ := by
  obtain ⟨newline, read⟩ := FileTree.read_respell tree newlines request.file
  simp only [search, searchIn_respell, read]
  -- Of a file outside the places searched, only whether it is there matters.
  cases tree.read request.file <;> rfl

end ImportRequest

theorem read_respell [Installation]
    (tree : FileTree) (newlines : Place → Newline) (directory name text : String)
    : Grammar.read ⟨tree.respell newlines, directory⟩ name text
      = Grammar.read ⟨tree, directory⟩ name text :=
  read_congr (ImportRequest.search_respell tree newlines directory)
    (FileTree.length_nodes_respell tree newlines) name text

end Grammar

-----------------------------------------------------------------------------------------
-- Loads
-----------------------------------------------------------------------------------------

variable (tree : FileTree) (newlines : Place → Newline) (path scratch : Path) (options : Options)

theorem readGrammar_respell
    : readGrammar (tree.respell newlines) path = readGrammar tree path := by
  rw [readGrammar, readGrammar, FileTree.readText_respell]

theorem readExpectation_respell
    : readExpectation (tree.respell newlines) path = readExpectation tree path := by
  rw [readExpectation, readExpectation, Expectation.read, Expectation.read,
    FileTree.readText_respell]

theorem prepareScratch_respell
    : DoneAlike tree newlines (prepareScratch tree scratch)
        (prepareScratch (tree.respell newlines) scratch) := by
  obtain ⟨later, made, leaves⟩ := FileTree.ensureDirectory_respell tree newlines scratch
  refine ⟨later, ?_⟩
  rw [prepareScratch, prepareScratch, made]
  generalize tree.ensureDirectory scratch = done at leaves ⊢
  obtain ⟨after, result⟩ := done
  cases result with
  | ok done => exact ⟨rfl, leaves⟩
  | error error => cases error <;> exact ⟨rfl, leaves⟩

theorem Load.analysed_respell [Installation] (text : String)
    : analysed (tree.respell newlines) path options text = analysed tree path options text := by
  rw [analysed, analysed, Grammar.read_respell]

theorem Load.leaveCache_respell
    : ∃ later,
        leaveCache (tree.respell newlines) path scratch options
          = (leaveCache tree path scratch options).respell later
        ∧ NewlinesLeft tree newlines (leaveCache tree path scratch options) later := by
  obtain ⟨later, written, leaves⟩ :=
    FileTree.write_respell tree newlines (cachePath path scratch).text cacheContent
  rw [leaveCache, leaveCache]
  split
  · rw [written]
    generalize tree.write (cachePath path scratch).text cacheContent = ended at leaves ⊢
    cases ended with
    | ok after => exact ⟨later, rfl, leaves after rfl⟩
    | error error => exact ⟨newlines, rfl, .refl tree newlines⟩
  · exact ⟨newlines, rfl, .refl tree newlines⟩

/-- A load comes to the same, whatever the line endings. The cache file has line feeds of its own. -/
theorem Load.run_respell [Installation]
    : DoneAlike tree newlines (run tree path scratch options)
        (run (tree.respell newlines) path scratch options) := by
  obtain ⟨middle, prepares, between⟩ := prepareScratch_respell tree newlines scratch
  rw [run, run, readGrammar_respell]
  cases readGrammar tree path with
  | error error => exact ⟨newlines, rfl, .refl tree newlines⟩
  | ok text =>
    dsimp only
    rw [prepares]
    generalize prepareScratch tree scratch = done at between ⊢
    obtain ⟨prepared, result⟩ := done
    cases result with
    | error error => exact ⟨middle, rfl, between⟩
    | ok done =>
      obtain ⟨later, left, leaves⟩ := leaveCache_respell prepared middle path scratch options
      dsimp only [respellLeft]
      rw [analysed_respell]
      cases analysed prepared path options text with
      | error error => exact ⟨middle, rfl, between⟩
      | ok tables => exact ⟨later, congrArg (·, _) left, between.trans leaves⟩

end ReservedWords
