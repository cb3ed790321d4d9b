import ReservedWords.CommandLine.Program

/-!
What the two commands come to. A command fails before or in its classification, or uses it; the
relations here name these cases with what holds in each, and they are the commands themselves.
-/

namespace ReservedWords.CommandLine.Request

variable [Installation]

/-- What an extraction comes to, of what its classification has done. Only a file that cannot be
written keeps a classification from being given. -/
inductive Extracts (done : Initialization FileTree LoadOutcome.Failure)
    : Option Path → Outcome → Prop where
  | failed {output error} (unclassified : done.result = .error error)
    : Extracts done output
        { tree := done.world, records := done.records, result := .error (.ofInitialization error) }
  | shown {classification} (classified : done.result = .ok classification)
    : Extracts done none
        { tree := done.world, output := document classification, records := done.records
          result := .ok .success }
  | written {path classification after} (classified : done.result = .ok classification)
    (written : writeFile done.world path (document classification) = (after, .ok ()))
    : Extracts done (some path)
        { tree := after, output := Request.written classification path, records := done.records
          result := .ok .success }
  | unwritten {path classification after error} (classified : done.result = .ok classification)
    (unwritten : writeFile done.world path (document classification) = (after, .error error))
    : Extracts done (some path)
        { tree := after, records := done.records, result := .error (.defect (.ofFile error)) }

/-- What a check comes to, of what its classification has done. Without a list that can be read
nothing is classified. -/
inductive Checks (done : Initialization FileTree LoadOutcome.Failure) (expected : Path)
    (tree : FileTree) : Outcome → Prop where
  | unreadable {error} (unreadable : readExpectation tree expected = .error error)
    : Checks done expected tree { tree, result := .error (.ofFile error) }
  | failed {labels error} (readable : readExpectation tree expected = .ok labels)
    (unclassified : done.result = .error error)
    : Checks done expected tree
        { tree := done.world, records := done.records, result := .error (.ofInitialization error) }
  | met {labels classification} (readable : readExpectation tree expected = .ok labels)
    (classified : done.result = .ok classification)
    (same : (classification.compareRestricted labels).isEmpty)
    : Checks done expected tree
        { tree := done.world, output := agreement labels expected, records := done.records
          result := .ok .success }
  | unmet {labels classification} (readable : readExpectation tree expected = .ok labels)
    (classified : done.result = .ok classification)
    (other : ¬ (classification.compareRestricted labels).isEmpty)
    : Checks done expected tree
        { tree := done.world, output := disagreement (classification.compareRestricted labels)
          records := done.records, result := .ok .difference }

variable {config : Config} {tree : FileTree} {outcome : Outcome}

theorem extracts (config : Config) (output : Option Path) (tree : FileTree)
    : Extracts (classify config tree) output (extract config output tree) := by
  unfold extract
  generalize classify config tree = done
  obtain ⟨extractor, world, result, records⟩ := done
  cases result with
  | error error => exact .failed rfl
  | ok classification =>
    cases output with
    | none => exact .shown rfl
    | some path =>
      match written : writeFile world path (document classification) with
      | (after, .ok ()) =>
        simp only [written]
        exact .written rfl written
      | (after, .error error) =>
        simp only [written]
        exact .unwritten rfl written

/-- An extraction comes to one end, and to no other. -/
theorem extract_eq_iff {output : Option Path}
    : extract config output tree = outcome ↔ Extracts (classify config tree) output outcome := by
  constructor
  · rintro rfl
    exact extracts config output tree
  · unfold extract
    generalize classify config tree = done
    intro ends
    cases ends with
    | failed unclassified => simp only [unclassified]
    | shown classified => simp only [classified]
    | written classified written | unwritten classified written => simp only [classified, written]

theorem checks (config : Config) (expected : Path) (tree : FileTree)
    : Checks (classify config tree) expected tree (check config expected tree) := by
  unfold check
  generalize classify config tree = done
  obtain ⟨extractor, world, result, records⟩ := done
  cases readable : readExpectation tree expected with
  | error error => exact .unreadable readable
  | ok labels =>
    cases result with
    | error error => exact .failed readable rfl
    | ok classification =>
      dsimp only
      split
      · rename_i same
        exact .met readable rfl same
      · rename_i other
        exact .unmet readable rfl other

/-- A check comes to one end, and to no other. -/
theorem check_eq_iff {expected : Path}
    : check config expected tree = outcome
      ↔ Checks (classify config tree) expected tree outcome := by
  constructor
  · rintro rfl
    exact checks config expected tree
  · unfold check
    generalize classify config tree = done
    intro ends
    cases ends with
    | unreadable unreadable => simp only [unreadable]
    | failed readable unclassified => simp only [readable, unclassified]
    | met readable classified same =>
      simp only [readable, classified]
      exact if_pos same
    | unmet readable classified other =>
      simp only [readable, classified]
      exact if_neg other

end ReservedWords.CommandLine.Request
