import ReservedWords.Proofs.Grammar.Atoms
import ReservedWords.Proofs.Grammar.Reading
import ReservedWords.Proofs.Grammar.Resolution

/-!
Texts that differ in their rules only. Rules neither add nor change a cell, so a terminal that both
texts define has one definition in both, with the same definitions in the places of names.
-/

namespace ReservedWords.Grammar

/-- The name of the rule that a statement defines, overrides or extends. -/
def Statement.rule? : Statement → Option String
  | .define definition | .override definition | .extend definition =>
    if definition.kind = .rule then some definition.name else none
  | .ignore _ | .declare _ | .import _ _ _ => none

/-- The statements that are not about rules are the same in the same order. -/
def SameButRules (statements others : List Statement) : Prop :=
  (statements.filter fun statement => statement.rule?.isNone)
    = others.filter fun statement => statement.rule?.isNone

/-- A text differs from another in its rules only. -/
def EditsRules (text other : String) : Prop :=
  ∃ statements others,
    Draft.statements text = .ok statements
    ∧ Draft.statements other = .ok others
    ∧ SameButRules statements others

/-- A text defines, overrides or extends a rule. -/
def DefinesRule (text name : String) : Prop :=
  ∃ statement : Statement, statement.StandsIn text ∧ statement.rule? = some name

/-- No rule has the name of a terminal as it is written; only an import can give a terminal the name of
a rule. -/
theorem DefinesRule.spells {text name : String} (defines : DefinesRule text name)
    : SymbolKind.rule.Spells name := by
  obtain ⟨statement, ⟨statements, parsed, member⟩, rule⟩ := defines
  have lexical := Draft.lexical_of_statements parsed statement member
  cases statement with
  | define definition | override definition | extend definition =>
    obtain ⟨kind, same⟩ := Option.ite_none_right_eq_some.mp rule
    cases same
    exact kind ▸ lexical
  | ignore | declare | «import» => cases rule

/-- The requests for imports do not depend on rules. -/
theorem SameButRules.collect {statements others : List Statement}
    (same : SameButRules statements others) {name : String} {requests found : List ImportRequest}
    (done : ImportRequest.collect name statements = .ok requests)
    (redone : ImportRequest.collect name others = .ok found)
    : requests = found := by
  refine foldlM_related same ?_ ?_ ?_ rfl done redone
  · rintro statement - rule first second after rfl step
    cases statement with
    | define | override | extend =>
      cases step
      rfl
    | ignore | declare | «import» => exact absurd rfl rule
  · rintro statement - rule first second after rfl step
    cases statement with
    | define | override | extend =>
      cases step
      rfl
    | ignore | declare | «import» => exact absurd rfl rule
  · rintro statement - - first second next after rfl step restep
    cases step.symm.trans restep
    rfl

-----------------------------------------------------------------------------------------
-- The terminals of two drafts
-----------------------------------------------------------------------------------------

/-- No name stands for different terminals, and what is a terminal in one place is the same in the
other, but for some names that are taken there. -/
structure AlikeTerminals (taken : String → Prop) (meanings others : Dictionary Meaning) : Prop where
  same
    : ∀ {name cell other},
        meanings.get? name = some (.terminal cell)
        → others.get? name = some (.terminal other)
        → cell = other
  stays
    : ∀ {name cell},
        meanings.get? name = some (.terminal cell)
        → taken name ∨ others.get? name = some (.terminal cell)

section

variable {taken : String → Prop} {meanings others : Dictionary Meaning} {name : String}
variable {meaning : Meaning}

theorem AlikeTerminals.refl : AlikeTerminals taken meanings meanings where
  same means also := by
    cases means.symm.trans also
    rfl
  stays means := .inr means

theorem get?_insert_of_rule (rule : meaning.kind = .rule) {known : String} {cell : Option Nat}
    (means : (meanings.insert name meaning).get? known = some (.terminal cell))
    : known ≠ name ∧ meanings.get? known = some (.terminal cell) := by
  rw [Dictionary.get?_insert] at means
  split at means
  · cases means
    cases rule
  · rename_i differ
    exact ⟨differ, means⟩

theorem AlikeTerminals.rule_left (alike : AlikeTerminals taken meanings others)
    (rule : meaning.kind = .rule)
    : AlikeTerminals taken (meanings.insert name meaning) others where
  same means also := alike.same (get?_insert_of_rule rule means).2 also
  stays means := alike.stays (get?_insert_of_rule rule means).2

theorem AlikeTerminals.rule_right (alike : AlikeTerminals taken meanings others)
    (rule : meaning.kind = .rule) (takes : taken name)
    : AlikeTerminals taken meanings (others.insert name meaning) where
  same means also := alike.same means (get?_insert_of_rule rule also).2
  stays {known cell} means := by
    by_cases equal : known = name
    · exact .inl (equal ▸ takes)
    · rw [Dictionary.get?_insert, if_neg equal]
      exact alike.stays means

theorem AlikeTerminals.insert (alike : AlikeTerminals taken meanings others) (name : String)
    (meaning : Meaning)
    : AlikeTerminals taken (meanings.insert name meaning) (others.insert name meaning) where
  same {known cell other} means also := by
    rw [Dictionary.get?_insert] at means also
    by_cases equal : known = name
    · rw [if_pos equal] at means also
      cases means.symm.trans also
      rfl
    · rw [if_neg equal] at means also
      exact alike.same means also
  stays {known cell} means := by
    rw [Dictionary.get?_insert] at means ⊢
    by_cases equal : known = name
    · rw [if_pos equal] at means ⊢
      exact .inr means
    · rw [if_neg equal] at means ⊢
      exact alike.stays means

end

namespace Draft

variable {first second after next : Draft} {taken : String → Prop}

structure Alike (taken : String → Prop) (first second : Draft) : Prop where
  cells : first.cells = second.cells
  ignored : first.ignored = second.ignored
  meanings : AlikeTerminals taken first.meanings second.meanings

/-- A statement about a rule gives a name the meaning of a rule, and changes nothing else. -/
theorem exists_rule_of_perform {draft : Draft} {statement : Statement} {name : String}
    (edits : statement.rule? = some name) (done : draft.perform none statement = .ok after)
    : ∃ meaning : Meaning,
        meaning.kind = .rule
        ∧ after = { draft with meanings := draft.meanings.insert name meaning } := by
  have defined {definition : Definition} {options : RuleOptions} {overriding : Bool}
      (rule : definition.kind = .rule)
      (done : draft.define definition options overriding = .ok after)
      : ∃ meaning : Meaning,
          meaning.kind = .rule
          ∧ after
            = { draft with meanings := draft.meanings.insert definition.name meaning } := by
    cases definition with
    | terminal name priority body => cases rule
    | rule modifiers name parameters priority body =>
      obtain ⟨-, -, rfl⟩ := setMeaning_eq_ok.mp done
      exact ⟨.rule parameters (some body) options, rfl, rfl⟩
  cases statement with
  | define definition | override definition =>
    obtain ⟨rule, same⟩ := Option.ite_none_right_eq_some.mp edits
    cases same
    obtain ⟨options, -, done⟩ := bind_eq_ok.mp done
    exact defined rule done
  | extend definition =>
    obtain ⟨rule, same⟩ := Option.ite_none_right_eq_some.mp edits
    cases same
    obtain ⟨-, -, done⟩ := bind_eq_ok.mp done
    rcases extend_cases done with ⟨cell, -, terminal, -⟩ | ⟨parameters, body, options, -, -, rfl⟩
    · cases rule.symm.trans terminal
    · exact ⟨.rule parameters (some (addOption definition.body body)) options, rfl, rfl⟩
  | ignore | declare | «import» => cases edits

theorem Alike.ignore (alike : Alike taken first second) (body : Body)
    : Alike taken (first.ignore body) (second.ignore body) := by
  obtain ⟨cells, ignored, meanings⟩ := alike
  rw [Draft.ignore, Draft.ignore]
  split
  · rename_i name _
    exact ⟨cells, congrArg (· ++ [name]) ignored, meanings⟩
  · rw [cells, ignored]
    exact ⟨rfl, rfl, meanings.insert _ _⟩

theorem Alike.declare (alike : Alike taken first second) {symbol : Symbol}
    (done : first.declare symbol = .ok next) (redone : second.declare symbol = .ok after)
    : Alike taken next after := by
  obtain ⟨-, -, rfl⟩ := setMeaning_eq_ok.mp done
  obtain ⟨-, -, rfl⟩ := setMeaning_eq_ok.mp redone
  exact ⟨alike.cells, alike.ignored, alike.meanings.insert _ _⟩

/-- What a statement that is not about a rule comes to depends on the cells, the ignored names and
the terminal that is extended, so it keeps drafts alike. -/
theorem Alike.perform (alike : Alike taken first second) {statement : Statement}
    (shared : statement.rule? = none) (done : first.perform none statement = .ok next)
    (redone : second.perform none statement = .ok after)
    : Alike taken next after := by
  obtain ⟨cells, ignored, meanings⟩ := alike
  have defined {definition : Definition} {options others : RuleOptions} {overriding : Bool}
      (other : ¬ definition.kind = .rule)
      (done : first.define definition options overriding = .ok next)
      (redone : second.define definition others overriding = .ok after)
      : Alike taken next after := by
    cases definition with
    | rule modifiers name parameters priority body => exact absurd rfl other
    | terminal name priority body =>
      obtain ⟨-, -, rfl⟩ := setMeaning_eq_ok.mp done
      obtain ⟨-, -, rfl⟩ := setMeaning_eq_ok.mp redone
      refine ⟨congrArg (· ++ [body]) cells, ignored, ?_⟩
      rw [cells]
      exact meanings.insert name _
  cases statement with
  | define definition | override definition =>
    have other : definition.kind ≠ .rule := by simpa [Statement.rule?] using shared
    obtain ⟨options, -, done⟩ := bind_eq_ok.mp done
    obtain ⟨others, -, redone⟩ := bind_eq_ok.mp redone
    exact defined other done redone
  | extend definition =>
    have other : definition.kind ≠ .rule := by simpa [Statement.rule?] using shared
    obtain ⟨-, -, done⟩ := bind_eq_ok.mp done
    obtain ⟨-, -, redone⟩ := bind_eq_ok.mp redone
    rcases extend_cases done with ⟨cell, known, -, rfl⟩ | ⟨_, _, _, -, rule, -⟩
    · rcases extend_cases redone with ⟨again, reknown, -, rfl⟩ | ⟨_, _, _, -, rule, -⟩
      · cases meanings.same known reknown
        exact ⟨congrArg (·.modify cell (addOption definition.body)) cells, ignored, meanings⟩
      · exact absurd rule other
    · exact absurd rule other
  | ignore body =>
    cases done
    cases redone
    exact Alike.ignore ⟨cells, ignored, meanings⟩ body
  | declare symbols =>
    have all : symbols.filter (fun _ => true) = symbols.filter fun _ => true := rfl
    have start : Alike taken first second := ⟨cells, ignored, meanings⟩
    refine foldlM_related all ?_ ?_ ?_ start done redone
    · intro symbol _ other
      exact absurd rfl other
    · intro symbol _ other
      exact absurd rfl other
    · intro symbol _ _ before other next after kept step restep
      exact kept.declare step restep
  | «import» relative path names =>
    cases done
    cases redone
    exact ⟨cells, ignored, meanings⟩

/-- Two texts that differ in their rules only have alike drafts, where the names of the rules of the
second are taken. -/
theorem alike_of_unlinked [Installation]
    {context : ImportContext} {depth : Nat} {name text other : String}
    (edits : EditsRules text other) (done : unlinked context depth name text none [] = .ok first)
    (redone : unlinked context depth name other none [] = .ok second)
    : Alike (DefinesRule other) first second := by
  obtain ⟨statements, others, parsed, reparsed, same⟩ := edits
  obtain ⟨_, parsed', done⟩ := bind_eq_ok.mp done
  obtain ⟨_, reparsed', redone⟩ := bind_eq_ok.mp redone
  cases parsed.symm.trans parsed'
  cases reparsed.symm.trans reparsed'
  obtain ⟨requests, collected, done⟩ := bind_eq_ok.mp done
  obtain ⟨_, recollected, redone⟩ := bind_eq_ok.mp redone
  cases same.collect collected recollected
  obtain ⟨merged, added, done⟩ := bind_eq_ok.mp done
  obtain ⟨_, added', redone⟩ := bind_eq_ok.mp redone
  cases added.symm.trans added'
  have start : Alike (DefinesRule other) merged merged := ⟨rfl, rfl, .refl⟩
  refine foldlM_related same ?_ ?_ ?_ start done redone
  · intro statement _ edits before between after alike step
    obtain ⟨rule, edits⟩ := Option.ne_none_iff_exists'.mp (mt Option.isNone_iff_eq_none.mpr edits)
    obtain ⟨meaning, kind, rfl⟩ := exists_rule_of_perform edits step
    exact ⟨alike.cells, alike.ignored, alike.meanings.rule_left kind⟩
  · intro statement member edits before between after alike step
    obtain ⟨rule, edits⟩ := Option.ne_none_iff_exists'.mp (mt Option.isNone_iff_eq_none.mpr edits)
    obtain ⟨meaning, kind, rfl⟩ := exists_rule_of_perform edits step
    refine ⟨alike.cells, alike.ignored, alike.meanings.rule_right kind ?_⟩
    exact ⟨statement, ⟨others, reparsed, member⟩, edits⟩
  · intro statement _ shared before between next after alike step restep
    exact alike.perform (Option.isNone_iff_eq_none.mp shared) step restep

-----------------------------------------------------------------------------------------
-- The definitions of two drafts
-----------------------------------------------------------------------------------------

theorem mem_valueNames {body : Body} {symbol : Symbol} (member : .symbol symbol ∈ body.atoms)
    : symbol ∈ valueNames body :=
  List.mem_filterMap.mpr ⟨.symbol symbol, Body.mem_parts_of_mem_atoms member, rfl⟩

/-- The names in the definition of a terminal of an accepted draft are those of terminals with
definitions. -/
theorem exists_cell_of_link {draft linked : Draft} (done : draft.link = .ok linked)
    {name : String} {cell : Nat} (means : draft.meanings.get? name = some (.terminal (some cell)))
    {symbol : Symbol} (member : .symbol symbol ∈ (draft.closedCell cell).atoms)
    : symbol.kind = .terminal
      ∧ ∃ other, draft.meanings.get? symbol.name = some (.terminal (some other)) := by
  obtain ⟨⟨⟩, checked, -⟩ := bind_eq_ok.mp done
  have entry := forM_eq_ok.mp checked _ (Dictionary.get?_eq_some_iff.mp means)
  have named : draft.checkName name symbol = .ok () :=
    forM_eq_ok.mp entry symbol (mem_valueNames member)
  rw [checkName] at named
  split at named
  · cases named
  · rename_i terminal
    refine ⟨terminal, ?_⟩
    split at named
    · rename_i other known
      exact ⟨other, known⟩
    · cases named
    · cases named

section

variable {draft : Draft} {body : Body} {symbol : Symbol} {depth more : Nat}

/-- No name is lost where definitions are put in to a greater depth, by induction on the depth. -/
theorem symbol_mem_close (deep : depth ≤ more)
    (member : .symbol symbol ∈ (draft.close depth body).atoms)
    : .symbol symbol ∈ (draft.close more body).atoms := by
  induction depth generalizing more body with
  | zero =>
    cases more with
    | zero => exact member
    | succ more => exact Body.symbol_mem_withDefinitions.mpr (.inl member)
  | succ depth ih =>
    obtain ⟨more, rfl⟩ := Nat.exists_eq_add_of_le' (Nat.le_trans depth.succ_pos deep)
    rcases Body.symbol_mem_withDefinitions.mp member with own | ⟨cell, refers, inside⟩
    · exact Body.symbol_mem_withDefinitions.mpr (.inl own)
    · have deeper := ih (Nat.le_of_succ_le_succ deep) inside
      exact Body.symbol_mem_withDefinitions.mpr (.inr ⟨cell, refers, deeper⟩)

/-- A reference in a linked body was there before, or is the reference of a name there. -/
theorem reference_mem_linkedBody {cell : Nat}
    (member : .reference cell ∈ (draft.linkedBody body).atoms)
    : .reference cell ∈ body.atoms
      ∨ ∃ symbol, .symbol symbol ∈ body.atoms ∧ draft.referenceOf symbol = .reference cell := by
  rw [linkedBody, Body.atoms_rewrite, List.mem_flatMap] at member
  obtain ⟨atom, stands, inside⟩ := member
  have alone := Body.atoms_of_mem_atoms body stands
  cases atom with
  | symbol symbol =>
    have inside : .reference cell ∈ (draft.referenceOf symbol).atoms := inside
    rcases draft.referenceOf_cases symbol with same | ⟨other, -, -, refers⟩
    · rw [same] at inside
      cases List.mem_singleton.mp inside
    · rw [refers] at inside
      cases List.mem_singleton.mp inside
      exact .inr ⟨symbol, stands, refers⟩
  | _ =>
    have same := List.mem_singleton.mp (alone ▸ inside)
    exact .inl (same ▸ stands)

theorem closedBody_succ (draft : Draft) (depth : Nat) (body : Body)
    : draft.closedBody (depth + 1) body
      = (draft.linkedBody body).withDefinitions fun cell =>
          draft.closedBody depth (draft.cell cell) := by
  simp only [closedBody, close, cell_linked]

end

theorem close_of_cells (same : first.cells = second.cells) (depth : Nat) (body : Body)
    : first.close depth body = second.close depth body := by
  have cell : first.cell = second.cell := by
    funext id
    rw [Draft.cell, Draft.cell, same]
  induction depth generalizing body with
  | zero => rfl
  | succ depth ih => simp only [close, cell, ih]

/-- A cell that one name stands for in both drafts. -/
def Shared (first second : Draft) (cell : Nat) : Prop :=
  ∃ name,
    first.meanings.get? name = some (.terminal (some cell))
    ∧ second.meanings.get? name = some (.terminal (some cell))

/-- A name that becomes the reference of one cell in both drafts. -/
def Agrees (first second : Draft) (symbol : Symbol) : Prop :=
  ∃ cell,
    Shared first second cell
    ∧ first.referenceOf symbol = .reference cell
    ∧ second.referenceOf symbol = .reference cell

theorem Alike.agrees (alike : Alike taken first second) {linked relinked : Draft}
    (done : first.link = .ok linked) (redone : second.link = .ok relinked) {cell : Nat}
    (shared : Shared first second cell) {symbol : Symbol}
    (member : .symbol symbol ∈ (first.closedCell cell).atoms)
    : Agrees first second symbol := by
  obtain ⟨name, means, also⟩ := shared
  have closed : first.closedCell cell = second.closedCell cell := by
    rw [closedCell, closedCell, close_of_cells alike.cells, Draft.cell, Draft.cell, alike.cells]
  obtain ⟨terminal, other, known⟩ := exists_cell_of_link done means member
  obtain ⟨-, another, reknown⟩ := exists_cell_of_link redone also (closed ▸ member)
  cases alike.meanings.same known reknown
  refine ⟨other, ⟨symbol.name, known, reknown⟩, ?_, ?_⟩
  · rw [referenceOf, terminal, known]
  · rw [referenceOf, terminal, reknown]

theorem linkedBody_congr {body : Body}
    (inside : ∀ symbol, .symbol symbol ∈ body.atoms → Agrees first second symbol)
    : first.linkedBody body = second.linkedBody body := by
  refine Body.rewrite_congr ?_ body fun atom member => ?_
  · exact ⟨rfl, rfl⟩
  cases atom with
  | symbol symbol =>
    obtain ⟨cell, -, here, there⟩ := inside symbol member
    exact here.trans there.symm
  | _ => rfl

/-- Drafts that agree on the names in the definitions of the terminals that they share, close a body
alike if they agree on the names in it, by induction on the depth. -/
theorem closedBody_congr (cells : first.cells = second.cells)
    (agrees
      : ∀ {cell},
          Shared first second cell
          → ∀ {symbol},
              .symbol symbol ∈ (first.closedCell cell).atoms → Agrees first second symbol)
    {depth : Nat} (enough : depth ≤ first.cells.length) (body : Body)
    (within
      : ∀ symbol, .symbol symbol ∈ (first.close depth body).atoms → Agrees first second symbol)
    : first.closedBody depth body = second.closedBody depth body := by
  induction depth generalizing body with
  | zero => exact linkedBody_congr within
  | succ depth ih =>
    have inside : ∀ symbol, .symbol symbol ∈ body.atoms → Agrees first second symbol :=
      fun symbol member => within symbol (Body.symbol_mem_withDefinitions.mpr (.inl member))
    have fewer : depth ≤ first.cells.length := Nat.le_of_succ_le enough
    rw [closedBody_succ, closedBody_succ, ← linkedBody_congr inside]
    refine Body.withDefinitions_congr fun cell member => ?_
    have cell_congr : second.cell cell = first.cell cell := by rw [Draft.cell, Draft.cell, cells]
    rw [cell_congr]
    refine ih fewer _ fun symbol named => ?_
    -- The cell is that of a reference in the body, or that of a name there, which is shared.
    rcases reference_mem_linkedBody member with refers | ⟨name, stands, refers⟩
    · exact within symbol (Body.symbol_mem_withDefinitions.mpr (.inr ⟨cell, refers, named⟩))
    · obtain ⟨other, shared, here, -⟩ := inside name stands
      cases here.symm.trans refers
      exact agrees shared (symbol_mem_close fewer named)

end Draft

/-- A terminal that a text defines is defined alike in one that differs in its rules only, unless a
rule of the other has the name. -/
theorem defined_alike [Installation] {context : ImportContext} {name text other : String}
    {grammar regrammar : Grammar} (read : Grammar.read context name text = .ok grammar)
    (reread : Grammar.read context name other = .ok regrammar) (edits : EditsRules text other)
    {terminal : String} {body : Body} (listed : (terminal, some body) ∈ grammar.terminals)
    : DefinesRule other terminal ∨ (terminal, some body) ∈ regrammar.terminals := by
  obtain ⟨first, defined, linked, terminals⟩ := exists_draft_of_read read
  obtain ⟨second, redefined, relinked, reterminals⟩ := exists_draft_of_read reread
  have alike := Draft.alike_of_unlinked edits defined redefined
  rw [terminals] at listed
  obtain ⟨cell, means, closed⟩ := Draft.mem_terminals_linked.mp listed
  refine (alike.meanings.stays means).imp_right fun also => ?_
  have shared : Draft.Shared first second cell := ⟨terminal, means, also⟩
  have again
      : second.closedBody second.cells.length (second.cell cell)
        = first.closedBody first.cells.length (first.cell cell) := by
    rw [← alike.cells, Draft.cell, Draft.cell, ← alike.cells]
    refine (Draft.closedBody_congr alike.cells ?_ (Nat.le_refl _) _ ?_).symm
    · intro cell shared symbol member
      exact alike.agrees linked relinked shared member
    · intro symbol member
      exact alike.agrees linked relinked shared member
  rw [reterminals]
  exact Draft.mem_terminals_linked.mpr ⟨cell, also, again.trans closed⟩

end ReservedWords.Grammar
