import ReservedWords.Grammar.Body
import ReservedWords.Proofs.Sorting

/-!
The atoms of a body: its names, literals, ranges and references. A change of a body is a change of its
atoms, and the atoms of the result are those that its atoms become.
-/

namespace ReservedWords.Grammar.Body

mutual

/-- The atoms of a body from left to right. -/
def atoms : Body → List Body
  | .symbol name => [.symbol name]
  | .literal text => [.literal text]
  | .range first last => [.range first last]
  | .reference cell => [.reference cell]
  | .use _ arguments => atomsOf arguments
  | .sequence parts => atomsOf parts
  | .choice options => atomsOf options
  | .included body => atoms body
  | .named body _ => atoms body
  | .bracket body => atoms body
  | .repeated body _ => atoms body
  | .counted body _ _ => atoms body

/-- The atoms of some bodies. -/
def atomsOf : List Body → List Body
  | [] => []
  | body :: bodies => atoms body ++ atomsOf bodies

end

section

variable {atom : Body}

mutual

/-- Every atom of a body is one of its parts, by mutual induction on the body. -/
theorem exists_mem_partsFrom (depth : Nat) (body : Body) (member : atom ∈ atoms body)
    : ∃ place, (place, atom) ∈ partsFrom depth body := by
  cases body with
  | symbol name | literal text | range first last | reference cell =>
    cases List.mem_singleton.mp member
    exact ⟨_, List.mem_singleton_self _⟩
  | use template arguments =>
    obtain ⟨place, inside⟩ := exists_mem_partsOfFrom (depth + 2) arguments member
    exact ⟨place, List.mem_cons_of_mem _ inside⟩
  | sequence parts | choice parts =>
    obtain ⟨place, inside⟩ := exists_mem_partsOfFrom (depth + 1) parts member
    exact ⟨place, List.mem_cons_of_mem _ inside⟩
  | included body | named body label | bracket body | repeated body sign | counted body low high =>
    obtain ⟨place, inside⟩ := exists_mem_partsFrom (depth + 1) body member
    exact ⟨place, List.mem_cons_of_mem _ inside⟩

/-- The same for some bodies. -/
theorem exists_mem_partsOfFrom (depth : Nat) (bodies : List Body) (member : atom ∈ atomsOf bodies)
    : ∃ place, (place, atom) ∈ partsOfFrom depth bodies := by
  cases bodies with
  | nil => cases member
  | cons body rest =>
    rcases List.mem_append.mp member with here | later
    · obtain ⟨place, inside⟩ := exists_mem_partsFrom depth body here
      exact ⟨place, List.mem_append_left _ inside⟩
    · obtain ⟨place, inside⟩ := exists_mem_partsOfFrom depth rest later
      exact ⟨place, List.mem_append_right _ inside⟩

end

theorem mem_parts_of_mem_atoms {body : Body} (member : atom ∈ body.atoms) : atom ∈ body.parts := by
  simpa [parts, mem_sorted] using exists_mem_partsFrom 0 body member

end

section

variable {atom : Body}

mutual

/-- An atom has no atoms but itself, by mutual induction on the body that it stands in. -/
theorem atoms_of_mem_atoms (body : Body) (member : atom ∈ atoms body) : atom.atoms = [atom] := by
  cases body with
  | symbol name | literal text | range first last | reference cell =>
    cases List.mem_singleton.mp member
    rfl
  | use template bodies | sequence bodies | choice bodies => exact atoms_of_mem_atomsOf bodies member
  | included body | named body label | bracket body | repeated body sign | counted body low high =>
    exact atoms_of_mem_atoms body member

theorem atoms_of_mem_atomsOf (bodies : List Body) (member : atom ∈ atomsOf bodies)
    : atom.atoms = [atom] := by
  cases bodies with
  | nil => cases member
  | cons body rest =>
    rcases List.mem_append.mp member with here | later
    · exact atoms_of_mem_atoms body here
    · exact atoms_of_mem_atomsOf rest later

end

end

section

variable {change other : Rewriting}

mutual

/-- The atoms of a body after a change, by mutual induction on the body. -/
theorem atoms_rewrite (change : Rewriting) (body : Body)
    : (rewrite change body).atoms = body.atoms.flatMap fun atom => (change.atom atom).atoms := by
  cases body with
  | symbol name | literal text | range first last | reference cell =>
    exact (List.append_nil _).symm
  | use template bodies | sequence bodies | choice bodies => exact atomsOf_rewriteAll change bodies
  | included body | named body label | bracket body | repeated body sign | counted body low high =>
    exact atoms_rewrite change body

/-- The same for some bodies. -/
theorem atomsOf_rewriteAll (change : Rewriting) (bodies : List Body)
    : atomsOf (rewriteAll change bodies)
      = (atomsOf bodies).flatMap fun atom => (change.atom atom).atoms := by
  cases bodies with
  | nil => rfl
  | cons body rest =>
    rw [rewriteAll, atomsOf, atomsOf, List.flatMap_append, atoms_rewrite change body,
      atomsOf_rewriteAll change rest]

end

/-- Two changes that treat templates and aliases alike. -/
structure Rewriting.Alike (change other : Rewriting) : Prop where
  template : change.template = other.template
  label : change.label = other.label

mutual

/-- Changes that make the same of the atoms of a body make the same of the body, by mutual induction
on the body. -/
theorem rewrite_congr (alike : change.Alike other) (body : Body)
    (agree : ∀ atom ∈ body.atoms, change.atom atom = other.atom atom)
    : rewrite change body = rewrite other body := by
  cases body with
  | symbol name | literal text | range first last | reference cell =>
    exact agree _ (List.mem_singleton_self _)
  | use template arguments =>
    rw [rewrite, rewrite, alike.template, rewriteAll_congr alike arguments agree]
  | sequence bodies | choice bodies => rw [rewrite, rewrite, rewriteAll_congr alike bodies agree]
  | named body label => rw [rewrite, rewrite, alike.label, rewrite_congr alike body agree]
  | included body | bracket body | repeated body sign | counted body low high =>
    rw [rewrite, rewrite, rewrite_congr alike body agree]

/-- The same for some bodies. -/
theorem rewriteAll_congr (alike : change.Alike other) (bodies : List Body)
    (agree : ∀ atom ∈ atomsOf bodies, change.atom atom = other.atom atom)
    : rewriteAll change bodies = rewriteAll other bodies := by
  cases bodies with
  | nil => rfl
  | cons body rest =>
    rw [rewriteAll, rewriteAll,
      rewrite_congr alike body fun atom member => agree atom (List.mem_append_left _ member),
      rewriteAll_congr alike rest fun atom member => agree atom (List.mem_append_right _ member)]

end

end

section

variable {body : Body} {definition other : Nat → Body}

/-- The names in a body with definitions in the places of references are its own and those in the
definitions. -/
theorem symbol_mem_withDefinitions {symbol : Symbol}
    : .symbol symbol ∈ (body.withDefinitions definition).atoms
      ↔ .symbol symbol ∈ body.atoms
        ∨ ∃ cell, .reference cell ∈ body.atoms ∧ .symbol symbol ∈ (definition cell).atoms := by
  rw [withDefinitions, atoms_rewrite, List.mem_flatMap]
  constructor
  · rintro ⟨atom, member, inside⟩
    have alone := atoms_of_mem_atoms body member
    cases atom with
    | reference cell => exact .inr ⟨cell, member, inside⟩
    | _ =>
      have same := List.mem_singleton.mp (alone ▸ inside)
      exact .inl (same ▸ member)
  · rintro (own | ⟨cell, member, inside⟩)
    · exact ⟨_, own, List.mem_singleton_self _⟩
    · exact ⟨_, member, inside⟩

theorem withDefinitions_congr
    (agree : ∀ cell, .reference cell ∈ body.atoms → definition cell = other cell)
    : body.withDefinitions definition = body.withDefinitions other := by
  refine rewrite_congr ?_ body fun atom member => ?_
  · exact ⟨rfl, rfl⟩
  cases atom with
  | reference cell => exact congrArg Body.included (agree cell member)
  | _ => rfl

end

end ReservedWords.Grammar.Body
