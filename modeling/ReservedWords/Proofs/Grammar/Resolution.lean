import ReservedWords.Grammar.Terminal
import ReservedWords.Proofs.Grammar.Drafts

/-!
What definitions of terminals come to. Parentheses around one thing do not matter, and a terminal that
stands alone stands for its definition; a pattern is a text if a definition comes to a string in this
way, or to nothing at all, and it is a regular expression otherwise.
-/

namespace ReservedWords.Grammar

namespace Body

/-- A body without the parentheses around it, as long as they hold one thing. -/
def kernel : Body → Body
  | .included body => kernel body
  | .sequence [part] => kernel part
  | .choice [option] => kernel option
  | body => body

/-- Parentheses do not change the pattern. -/
theorem pattern_kernel [Installation] (body : Body) : body.kernel.pattern = body.pattern := by
  match body with
  | .included body | .sequence [body] | .choice [body] => exact pattern_kernel body
  | .symbol _ | .literal _ | .range _ _ | .use _ _ | .reference _ | .sequence []
  | .sequence (_ :: _ :: _) | .choice [] | .choice (_ :: _ :: _) | .named _ _ | .bracket _
  | .repeated _ _ | .counted _ _ _ => rfl

theorem kernel_rewrite (change : Rewriting) (body : Body)
    : (rewrite change body.kernel).kernel = (rewrite change body).kernel := by
  match body with
  | .included body | .sequence [body] | .choice [body] => exact kernel_rewrite change body
  | .symbol _ | .literal _ | .range _ _ | .use _ _ | .reference _ | .sequence []
  | .sequence (_ :: _ :: _) | .choice [] | .choice (_ :: _ :: _) | .named _ _ | .bracket _
  | .repeated _ _ | .counted _ _ _ => rfl

/-- What a definition can come to that has a text for its pattern: one literal, or nothing. -/
inductive IsPlain : Body → Prop
  | literal (text : Literal) : IsPlain (.literal text)
  | nothing : IsPlain (.sequence [])

theorem length_of_patterns [Installation] {bodies : List Body} {found : List (Option Pattern)}
    (done : patterns bodies = .ok found)
    : found.length = bodies.length := by
  induction bodies generalizing found with
  | nil =>
    cases done
    rfl
  | cons body rest ih =>
    obtain ⟨first, -, done⟩ := bind_eq_ok.mp done
    obtain ⟨others, later, done⟩ := bind_eq_ok.mp done
    cases done
    rw [List.length_cons, List.length_cons, ih later]

theorem visit_eq_ok {α : Type} {result : Option α} {value : α}
    : visit result = .ok value ↔ result = some value := by
  cases result <;> simp [visit]

theorem length_of_mapM_id {found : List (Option Pattern)} {all : List Pattern}
    (each : found.mapM id = some all)
    : all.length = found.length := by
  induction found generalizing all with
  | nil =>
    cases each
    rfl
  | cons first rest ih =>
    rw [List.mapM_cons] at each
    obtain ⟨pattern, -, each⟩ := Option.bind_eq_some_iff.mp each
    obtain ⟨others, later, each⟩ := Option.bind_eq_some_iff.mp each
    cases each
    rw [List.length_cons, List.length_cons, ih later]

theorem length_of_visit [Installation]
    {bodies : List Body} {found : List (Option Pattern)} {all : List Pattern}
    (done : patterns bodies = .ok found) (each : visit (found.mapM id) = .ok all)
    : all.length = bodies.length :=
  (length_of_mapM_id (visit_eq_ok.mp each)).trans (length_of_patterns done)

theorem ne_literal_rangePattern {first last : String} {value : Text.CodeText} {flags : List Char}
    : Literal.rangePattern first last ≠ .ok (.literal value flags) := by
  intro ranged
  obtain ⟨low, -, ranged⟩ := bind_eq_ok.mp ranged
  obtain ⟨high, -, ranged⟩ := bind_eq_ok.mp ranged
  split at ranged <;> cases ranged

/-- What is put together of several patterns is a regular expression. -/
theorem ne_literal_concatenate {patterns : List Pattern} (several : patterns.length ≠ 1)
    (some : patterns ≠ []) {value : Text.CodeText} {flags : List Char}
    : Pattern.concatenate patterns ≠ .literal value flags := by
  match patterns with
  | [] => exact absurd rfl some
  | [_] => exact absurd rfl several
  | _ :: _ :: _ => exact nofun

variable [Installation]

theorem ne_literal_alternate {patterns : List Pattern} (several : patterns.length ≠ 1)
    {value : Text.CodeText} {flags : List Char}
    : Pattern.alternate patterns ≠ .ok (.literal value flags) := by
  intro done
  match patterns with
  | [_] => exact absurd rfl several
  | [] | _ :: _ :: _ =>
    obtain ⟨ranks, -, done⟩ := bind_eq_ok.mp done
    cases done

theorem ne_literal_choice {options : List Body} {found : List (Option Pattern)} {all : List Pattern}
    {value : Text.CodeText} {flags : List Char} (several : options.length ≠ 1)
    (done : patterns options = .ok found) (each : visit (found.mapM id) = .ok all)
    : visit (Pattern.alternate all).toOption ≠ .ok (.literal value flags) := by
  intro alternated
  have several : all.length ≠ 1 := length_of_visit done each ▸ several
  cases made : Pattern.alternate all with
  | error fault =>
    rw [made] at alternated
    cases alternated
  | ok pattern =>
    rw [made] at alternated
    cases visit_eq_ok.mp alternated
    exact ne_literal_alternate several made

/-- A body whose pattern is a text is plain but for parentheses, by recursion on the parentheses. -/
theorem isPlain_kernel (body : Body) {value : Text.CodeText} {flags : List Char}
    (done : body.pattern = .ok (some (.literal value flags)))
    : body.kernel.IsPlain := by
  match body with
  | .included body | .sequence [body] | .choice [body] => exact isPlain_kernel body done
  | .literal text => exact .literal text
  | .sequence [] => exact .nothing
  | .symbol _ | .use _ _ | .reference _ => cases done
  | .range first last =>
    obtain ⟨pattern, ranged, done⟩ := bind_eq_ok.mp done
    cases done
    exact absurd ranged ne_literal_rangePattern
  | .sequence (first :: second :: rest) =>
    obtain ⟨found, each, done⟩ := bind_eq_ok.mp done
    obtain ⟨all, visited, done⟩ := bind_eq_ok.mp done
    have length := length_of_visit each visited
    have made : Pattern.concatenate all = .literal value flags := Option.some.inj (Except.ok.inj done)
    refine absurd made (ne_literal_concatenate ?_ ?_)
    · rw [length]
      simp
    · rintro rfl
      cases length
  | .choice [] =>
    obtain ⟨found, each, done⟩ := bind_eq_ok.mp done
    obtain ⟨all, visited, done⟩ := bind_eq_ok.mp done
    obtain ⟨pattern, alternated, done⟩ := bind_eq_ok.mp done
    cases done
    exact absurd alternated (ne_literal_choice (by simp) each visited)
  | .choice (first :: second :: rest) =>
    obtain ⟨found, each, done⟩ := bind_eq_ok.mp done
    obtain ⟨all, visited, done⟩ := bind_eq_ok.mp done
    obtain ⟨pattern, alternated, done⟩ := bind_eq_ok.mp done
    cases done
    exact absurd alternated (ne_literal_choice (by simp) each visited)
  | .named body label =>
    obtain ⟨-, -, done⟩ := bind_eq_ok.mp done
    cases done
  | .bracket body | .repeated body sign =>
    obtain ⟨found, -, done⟩ := bind_eq_ok.mp done
    obtain ⟨inner, -, done⟩ := bind_eq_ok.mp done
    cases done
  | .counted body low high =>
    obtain ⟨found, -, done⟩ := bind_eq_ok.mp done
    obtain ⟨sign, -, done⟩ := bind_eq_ok.mp done
    obtain ⟨inner, -, done⟩ := bind_eq_ok.mp done
    cases done

end Body

-----------------------------------------------------------------------------------------
-- Definitions in the places of names
-----------------------------------------------------------------------------------------

namespace Draft

/-- What a body comes to when parentheses around one thing are dropped, and a terminal that stands
alone then is replaced by its definition, and so on. -/
inductive ComesTo (draft : Draft) : Body → Body → Prop
  | here {body : Body} : ComesTo draft body body.kernel
  | name {body core : Body} {symbol : Symbol} {cell : Nat} (alone : body.kernel = .symbol symbol)
    (terminal : symbol.kind = .terminal)
    (means : draft.meanings.get? symbol.name = some (.terminal (some cell)))
    (definition : ComesTo draft (draft.cell cell) core)
    : ComesTo draft body core
  | reference {body core : Body} {cell : Nat} (alone : body.kernel = .reference cell)
    (definition : ComesTo draft (draft.cell cell) core)
    : ComesTo draft body core

variable {draft : Draft} {body core : Body}

/-- Parentheses around a body do not change what it comes to. -/
theorem ComesTo.of_kernel {other : Body} (comes : draft.ComesTo body core)
    (same : other.kernel = body.kernel)
    : draft.ComesTo other core := by
  cases comes with
  | here => exact same ▸ .here
  | name alone terminal means definition => exact .name (same.trans alone) terminal means definition
  | reference alone definition => exact .reference (same.trans alone) definition

/-- A body with references in the places of the names of terminals. -/
def linkedBody (draft : Draft) : Body → Body :=
  Body.rewrite
    { atom := fun atom =>
        match atom with
        | .symbol symbol => draft.referenceOf symbol
        | atom => atom }

/-- A body with definitions in the places of names, to a given depth. -/
def closedBody (draft : Draft) (depth : Nat) (body : Body) : Body :=
  draft.linked.close depth (draft.linkedBody body)

theorem cell_linked (draft : Draft) (id : Nat)
    : draft.linked.cell id = draft.linkedBody (draft.cell id) := by
  rw [cell, cell, linked, List.getElem?_map]
  cases draft.cells[id]? <;> rfl

theorem referenceOf_cases (draft : Draft) (symbol : Symbol)
    : draft.referenceOf symbol = .symbol symbol
      ∨ ∃ cell,
          symbol.kind = .terminal
          ∧ draft.meanings.get? symbol.name = some (.terminal (some cell))
          ∧ draft.referenceOf symbol = .reference cell := by
  rw [referenceOf]
  split
  · rename_i terminal means
    exact .inr ⟨_, terminal, means, rfl⟩
  · exact .inl rfl

theorem closedBody_reference_succ (draft : Draft) (depth id : Nat)
    : draft.closedBody (depth + 1) (.reference id)
      = .included (draft.closedBody depth (draft.cell id)) := by
  rw [closedBody, closedBody, ← cell_linked]
  rfl

theorem kernel_closedBody (draft : Draft) (depth : Nat) (body : Body)
    : (draft.closedBody depth body.kernel).kernel = (draft.closedBody depth body).kernel := by
  have linked
      : (draft.linkedBody body.kernel).kernel = (draft.linkedBody body).kernel :=
    Body.kernel_rewrite _ body
  cases depth with
  | zero => exact linked
  | succ depth =>
    rw [closedBody, closedBody, close, close, Body.withDefinitions, ← Body.kernel_rewrite, linked,
      Body.kernel_rewrite]

/-- The name of a terminal is closed like a reference to its cell. -/
theorem closedBody_symbol {symbol : Symbol} {cell : Nat}
    (refers : draft.referenceOf symbol = .reference cell) (depth : Nat)
    : draft.closedBody depth (.symbol symbol) = draft.closedBody depth (.reference cell) := by
  have linked : draft.linkedBody (.symbol symbol) = .reference cell := refers
  rw [closedBody, linked]
  rfl

/-- A closed definition that is plain but for parentheses comes from one that comes to it, by
recursion on the depth and on the parentheses. -/
theorem comesTo_of_closedBody (depth : Nat) (body : Body) (plain : core.IsPlain)
    (closed : (draft.closedBody depth body).kernel = core)
    : draft.ComesTo body core := by
  match depth, body with
  | depth, .included body | depth, .sequence [body] | depth, .choice [body] =>
    have closed : (draft.closedBody depth body).kernel = core := by cases depth <;> exact closed
    exact (comesTo_of_closedBody depth body plain closed).of_kernel rfl
  | 0, .reference id =>
    subst closed
    cases plain
  | depth + 1, .reference id =>
    rw [closedBody_reference_succ] at closed
    exact .reference rfl (comesTo_of_closedBody depth (draft.cell id) plain closed)
  | depth, .symbol symbol =>
    rcases draft.referenceOf_cases symbol with unlinked | ⟨cell, terminal, means, refers⟩
    · have linked : draft.linkedBody (.symbol symbol) = .symbol symbol := unlinked
      rw [closedBody, linked] at closed
      subst closed
      cases depth <;> cases plain
    · rw [closedBody_symbol refers] at closed
      cases depth with
      | zero =>
        subst closed
        cases plain
      | succ depth =>
        rw [closedBody_reference_succ] at closed
        exact .name rfl terminal means (comesTo_of_closedBody depth (draft.cell cell) plain closed)
  | depth, .literal text =>
    have closed : Body.literal text = core := by cases depth <;> exact closed
    exact closed ▸ .here
  | depth, .sequence [] =>
    have closed : Body.sequence [] = core := by cases depth <;> exact closed
    exact closed ▸ .here
  | depth, .range _ _ | depth, .use _ _ | depth, .sequence (_ :: _ :: _) | depth, .choice []
  | depth, .choice (_ :: _ :: _) | depth, .named _ _ | depth, .bracket _ | depth, .repeated _ _
  | depth, .counted _ _ _ =>
    subst closed
    cases depth <;> cases plain

/-- What comes to a plain definition is that definition once it is closed, but for parentheses, if
the depth is enough. -/
theorem ComesTo.closedBody (comes : draft.ComesTo body core) (plain : core.IsPlain) (depth : Nat)
    : (draft.closedBody depth body).kernel = core
      ∨ ∃ id, (draft.closedBody depth body).kernel = .reference id := by
  induction comes generalizing depth with
  | @here body =>
    have same := draft.kernel_closedBody depth body
    refine .inl (same.symm.trans ?_)
    generalize body.kernel = core at plain
    cases plain <;> cases depth <;> rfl
  | @name body core symbol cell alone terminal means definition ih =>
    have refers : draft.referenceOf symbol = .reference cell := by
      rw [referenceOf, terminal, means]
    rw [← kernel_closedBody, alone, closedBody_symbol refers]
    cases depth with
    | zero => exact .inr ⟨cell, rfl⟩
    | succ depth =>
      rw [closedBody_reference_succ]
      exact ih plain depth
  | @reference body core cell alone definition ih =>
    rw [← kernel_closedBody, alone]
    cases depth with
    | zero => exact .inr ⟨cell, rfl⟩
    | succ depth =>
      rw [closedBody_reference_succ]
      exact ih plain depth

/-- A closed definition with a pattern is plain but for parentheses if and only if the definition
comes to that. -/
theorem kernel_closedBody_iff [Installation] {depth : Nat} {pattern : Pattern}
    (done : (draft.closedBody depth body).pattern = .ok (some pattern)) (plain : core.IsPlain)
    : (draft.closedBody depth body).kernel = core ↔ draft.ComesTo body core := by
  refine ⟨comesTo_of_closedBody depth body plain, fun comes => ?_⟩
  rcases comes.closedBody plain depth with same | ⟨id, reference⟩
  · exact same
  · rw [← Body.pattern_kernel, reference] at done
    cases done

theorem mem_terminals_linked {terminal : String} {body : Body}
    : (terminal, some body) ∈ draft.linked.terminals
      ↔ ∃ cell,
          draft.meanings.get? terminal = some (.terminal (some cell))
          ∧ draft.closedBody draft.cells.length (draft.cell cell) = body := by
  have closed (cell : Nat)
      : draft.linked.closedCell cell = draft.closedBody draft.cells.length (draft.cell cell) := by
    rw [closedCell, cell_linked, closedBody]
    congr 1
    exact List.length_map _
  rw [terminals, List.mem_filterMap]
  constructor
  · rintro ⟨⟨name, meaning⟩, member, shown⟩
    cases meaning with
    | rule => cases shown
    | terminal cell =>
      cases cell with
      | none => cases shown
      | some cell =>
        cases shown
        exact ⟨cell, Dictionary.get?_eq_some_iff.mpr member, (closed cell).symm⟩
  · rintro ⟨cell, means, rfl⟩
    refine ⟨_, Dictionary.get?_eq_some_iff.mp means, ?_⟩
    rw [← closed]
    rfl

end Draft

/-- The definitions of a grammar text in which the names inside terminals are names. -/
def definitions [Installation]
    (context : ImportContext) (name text : String) : Except Failure Draft :=
  Draft.unlinked context (context.tree.nodes.length + 1) name text none []

/-- A grammar that is read has the definitions of its text, closed. -/
theorem exists_draft_of_read [Installation]
    {context : ImportContext} {name text : String} {grammar : Grammar}
    (read : Grammar.read context name text = .ok grammar)
    : ∃ draft,
        definitions context name text = .ok draft
        ∧ draft.link = .ok draft.linked
        ∧ grammar.terminals = draft.linked.terminals := by
  obtain ⟨linked, drafted, done⟩ := bind_eq_ok.mp read
  obtain ⟨-, -, done⟩ := bind_eq_ok.mp done
  cases done
  rw [Draft.ofText_succ] at drafted
  obtain ⟨draft, defined, drafted⟩ := bind_eq_ok.mp drafted
  have same : linked = draft.linked := by
    obtain ⟨-, -, drafted⟩ := bind_eq_ok.mp drafted
    obtain ⟨-, -, drafted⟩ := bind_eq_ok.mp drafted
    cases drafted
    rfl
  exact ⟨draft, defined, same ▸ drafted, congrArg Draft.terminals same⟩

end ReservedWords.Grammar
