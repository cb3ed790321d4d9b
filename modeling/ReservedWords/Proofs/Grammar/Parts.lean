import ReservedWords.Grammar.Template
import ReservedWords.Proofs.Outcome
import ReservedWords.Proofs.Sorting

/-!
Patterns that stand in rules. A pattern stands in a body if a literal or a range in it has that
pattern. Instances of templates put symbols in the places of parameters, so nothing stands in them
that does not stand in the template.
-/

namespace ReservedWords.Grammar

namespace Body

/-- A pattern stands in a body if a literal or a range of the body has it. -/
def Shows (body : Body) (pattern : Pattern) : Prop :=
  ∃ part ∈ body.parts, part.literalPattern? = some (.ok pattern)

theorem mem_parts_iff {body part : Body}
    : part ∈ body.parts ↔ ∃ depth, (depth, part) ∈ body.partsFrom 0 := by
  simp [parts, mem_sorted]

/-- The patterns of the literals of a body are those that stand in it. -/
theorem mem_literalPatterns {body : Body} {patterns : List Pattern}
    (done : body.literalPatterns = .ok patterns) {pattern : Pattern}
    : pattern ∈ patterns ↔ body.Shows pattern := by
  have results : (body.parts.filterMap literalPattern?) = patterns.map .ok :=
    (List.map_id _).symm.trans (mapM_eq_ok.mp done)
  have found : pattern ∈ patterns ↔ .ok pattern ∈ body.parts.filterMap literalPattern? := by
    simp [results]
  rw [found, List.mem_filterMap]
  rfl

/-- A change that leaves every atom as it is or puts a symbol in its place. -/
def Rewriting.PutsSymbols (change : Rewriting) : Prop :=
  ∀ atom, change.atom atom = atom ∨ ∃ symbol, change.atom atom = .symbol symbol

section

variable {change : Rewriting} {place : Nat} {part : Body}

/-- An atom that is left or becomes a symbol shows no literal that it is not itself. -/
theorem mem_partsFrom_of_atom (puts : change.PutsSymbols) (literal : part.literalPattern? ≠ none)
    {depth : Nat} {atom : Body} (member : (place, part) ∈ partsFrom depth (change.atom atom))
    : (place, part) ∈ partsFrom depth atom := by
  rcases puts atom with same | ⟨symbol, put⟩
  · exact same ▸ member
  · rw [put, partsFrom, List.mem_singleton] at member
    cases member
    exact absurd rfl literal

mutual

/-- The literals of a body that has been changed stood in it before, by mutual induction on the
body. -/
theorem mem_partsFrom_of_rewrite (puts : change.PutsSymbols) (literal : part.literalPattern? ≠ none)
    {depth : Nat} (body : Body) (member : (place, part) ∈ partsFrom depth (rewrite change body))
    : (place, part) ∈ partsFrom depth body := by
  cases body with
  | symbol name | literal text | range first last | reference cell =>
    exact mem_partsFrom_of_atom puts literal member
  | use template arguments =>
    rw [rewrite, partsFrom, List.mem_cons] at member
    rcases member with here | inside
    · cases here
      exact absurd rfl literal
    · exact List.mem_cons_of_mem _ (mem_partsOfFrom_of_rewriteAll puts literal arguments inside)
  | sequence parts | choice parts =>
    rw [rewrite, partsFrom, List.mem_cons] at member
    rcases member with here | inside
    · cases here
      exact absurd rfl literal
    · exact List.mem_cons_of_mem _ (mem_partsOfFrom_of_rewriteAll puts literal parts inside)
  | included body | named body label | bracket body | repeated body sign | counted body low high =>
    rw [rewrite, partsFrom, List.mem_cons] at member
    rcases member with here | inside
    · cases here
      exact absurd rfl literal
    · exact List.mem_cons_of_mem _ (mem_partsFrom_of_rewrite puts literal body inside)

/-- The same for some bodies. -/
theorem mem_partsOfFrom_of_rewriteAll (puts : change.PutsSymbols)
    (literal : part.literalPattern? ≠ none) {depth : Nat} (bodies : List Body)
    (member : (place, part) ∈ partsOfFrom depth (rewriteAll change bodies))
    : (place, part) ∈ partsOfFrom depth bodies := by
  cases bodies with
  | nil => exact member
  | cons body rest =>
    rw [rewriteAll, partsOfFrom, List.mem_append] at member
    exact List.mem_append.mpr
      (member.imp (mem_partsFrom_of_rewrite puts literal body)
        (mem_partsOfFrom_of_rewriteAll puts literal rest))

end

/-- What stands in a body after such a change stood in it before. -/
theorem Shows.of_rewrite (puts : change.PutsSymbols) {body : Body} {pattern : Pattern}
    (shown : (rewrite change body).Shows pattern)
    : body.Shows pattern := by
  obtain ⟨part, member, literal⟩ := shown
  obtain ⟨depth, member⟩ := mem_parts_iff.mp member
  have present : part.literalPattern? ≠ none := literal ▸ Option.some_ne_none _
  have stood := mem_partsFrom_of_rewrite puts present body member
  exact ⟨part, mem_parts_iff.mpr ⟨depth, stood⟩, literal⟩

end

/-- What stands in an instance stands in its template. -/
theorem Shows.of_instantiate {body : Body} {arguments : List (String × Symbol)} {pattern : Pattern}
    (shown : (body.instantiate arguments).Shows pattern)
    : body.Shows pattern := by
  refine Shows.of_rewrite (fun atom => ?_) shown
  cases atom with
  | symbol name =>
    cases found : arguments.lookup name.name with
    | none => exact .inl (by simp only [found])
    | some argument => exact .inr ⟨argument, by simp only [found]⟩
  | _ => exact .inl rfl

end Body

namespace Rule

/-- A pattern stands in a rule or a template if it stands in its body. -/
def Shows (rule : Rule) (pattern : Pattern) : Prop :=
  ∃ body, rule.body = some body ∧ body.Shows pattern

variable {rules after : List Rule}

/-- An instance has the body of a rule with symbols in the places of parameters. -/
theorem body_of_instance {template : Symbol} {arguments : List Body} {created : Rule}
    (made : instance? rules template arguments = some created)
    : ∃ rule ∈ rules, ∃ body values,
        rule.body = some body ∧ created.body = some (body.instantiate values) := by
  rw [instance?] at made
  split at made
  · rename_i rule only
    split at made
    · obtain ⟨body, content, same⟩ := Option.map_eq_some_iff.mp made
      cases same
      have member : rule ∈ rules :=
        (List.mem_filter.mp (only ▸ List.mem_singleton_self rule)).1
      exact ⟨rule, member, body, _, content, rfl⟩
    · cases made
  · cases made

/-- Some rules with others after them, which have bodies and in which nothing stands that does not
stand in one of the first. -/
structure Extends (rules after : List Rule) : Prop where
  kept : rules <+: after
  bodiless : ∀ rule ∈ after, rule.body = none → rule ∈ rules
  shown
    : ∀ rule ∈ after, ∀ pattern, rule.Shows pattern → ∃ origin ∈ rules, origin.Shows pattern

theorem Extends.refl (rules : List Rule) : Extends rules rules where
  kept := List.prefix_refl rules
  bodiless := fun _ member _ => member
  shown := fun rule member _ shown => ⟨rule, member, shown⟩

theorem Extends.trans {between : List Rule} (first : Extends rules between)
    (second : Extends between after)
    : Extends rules after := by
  refine ⟨first.kept.trans second.kept, fun rule member empty => ?_,
    fun rule member pattern shown => ?_⟩
  · exact first.bodiless rule (second.bodiless rule member empty) empty
  · obtain ⟨origin, known, shown⟩ := second.shown rule member pattern shown
    exact first.shown origin known pattern shown

theorem extends_of_addInstance {part : Body} (done : addInstance rules part = .ok after)
    : Extends rules after := by
  cases part with
  | use template arguments =>
    rw [addInstance] at done
    split at done
    · cases done
      exact .refl rules
    · split at done
      · rename_i created made
        cases done
        obtain ⟨origin, present, body, values, content, same⟩ := body_of_instance made
        refine ⟨List.prefix_append rules [created], fun rule member empty => ?_,
          fun rule member pattern shown => ?_⟩
        · rcases List.mem_append.mp member with known | new
          · exact known
          · cases List.mem_singleton.mp new
            cases same.symm.trans empty
        · rcases List.mem_append.mp member with known | new
          · exact ⟨rule, known, shown⟩
          · cases List.mem_singleton.mp new
            obtain ⟨instantiated, found, shown⟩ := shown
            cases same.symm.trans found
            exact ⟨origin, present, body, content, shown.of_instantiate⟩
      · cases done
  | _ =>
    cases done
    exact .refl rules

/-- Adding the instances that a body needs only adds rules with bodies, and nothing new stands in
them. -/
theorem extends_of_addInstances {body : Body} (done : addInstances rules body = .ok after)
    : Extends rules after :=
  foldlM_preserves (fun _ _ _ _ kept step => kept.trans (extends_of_addInstance step)) (.refl rules)
    done

end Rule

/-- A pattern stands in a grammar if it stands in one of its rules or templates. -/
def Shows (grammar : Grammar) (pattern : Pattern) : Prop :=
  ∃ rule ∈ grammar.rules, rule.Shows pattern

end ReservedWords.Grammar
