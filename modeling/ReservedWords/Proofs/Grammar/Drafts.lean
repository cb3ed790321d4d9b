import ReservedWords.Grammar.Basic
import ReservedWords.Proofs.Dictionary
import ReservedWords.Proofs.Outcome

/-!
Names without a body. Where a draft has a name that is only declared, it has been declared in the
grammar text or in one of those that its imports come to, and it is no reserved name: a definition
and an ignored terminal come with a body, and an extension needs one.
-/

namespace ReservedWords.Grammar

-----------------------------------------------------------------------------------------
-- The texts that a grammar comes to
-----------------------------------------------------------------------------------------

/-- A statement stands in a text. -/
def Statement.StandsIn (text : String) (statement : Statement) : Prop :=
  ∃ statements, Draft.statements text = .ok statements ∧ statement ∈ statements

/-- A text that is known under `name` asks for an import. -/
def ImportRequest.AskedBy (name text : String) (request : ImportRequest) : Prop :=
  ∃ statements requests,
    Draft.statements text = .ok statements
    ∧ ImportRequest.collect name statements = .ok requests
    ∧ request ∈ requests

/-- Reading one text, which is known under a name, comes to another one by so many imports. -/
inductive Reaches [Installation] (context : ImportContext)
    : (imports : Nat) → (name text found inner : String) → Prop
  | here {name text : String} : Reaches context 0 name text name text
  | through {imports : Nat} {name text next between found inner : String} {request : ImportRequest}
    (asked : request.AskedBy name text) (first : request.search context = .ok (next, between))
    (later : Reaches context imports next between found inner)
    : Reaches context (imports + 1) name text found inner

/-- A text declares a symbol of a class. -/
def DeclaresIn (text : String) (kind : SymbolKind) : Prop :=
  ∃ symbols, (Statement.declare symbols).StandsIn text ∧ ∃ symbol ∈ symbols, symbol.kind = kind

/-- A text, or one that it comes to, declares a symbol of a class. -/
def Declared [Installation]
    (context : ImportContext) (name text : String) (kind : SymbolKind) : Prop :=
  ∃ imports found inner, Reaches context imports name text found inner ∧ DeclaresIn inner kind

theorem Declared.through [Installation] {context : ImportContext} {name text next between : String}
    {request : ImportRequest} {kind : SymbolKind} (asked : request.AskedBy name text)
    (first : request.search context = .ok (next, between))
    (later : Declared context next between kind)
    : Declared context name text kind := by
  obtain ⟨imports, found, inner, reaches, declares⟩ := later
  exact ⟨imports + 1, found, inner, .through asked first reaches, declares⟩

-----------------------------------------------------------------------------------------
-- The steps of a draft
-----------------------------------------------------------------------------------------

/-- The meaning of a name that is only declared. -/
inductive Meaning.IsBare : Meaning → Prop
  | terminal : IsBare (.terminal none)
  | rule (parameters : List String) (options : RuleOptions) : IsBare (.rule parameters none options)

namespace Draft

variable {holds : String → Meaning → Prop} {draft after : Draft}

/-- A name gets a meaning if it is not reserved, and known just where the meaning overrides one. -/
theorem setMeaning_eq_ok {name : String} {meaning : Meaning} {overriding : Bool}
    : draft.setMeaning name meaning overriding = .ok after
      ↔ draft.meanings.contains name = overriding
        ∧ ¬ isReserved name
        ∧ after = { draft with meanings := draft.meanings.insert name meaning } := by
  rw [setMeaning]
  cases draft.meanings.contains name <;> cases overriding <;> cases isReserved name <;>
    simp [reject, eq_comm]

/-- What an extension comes to: an alternative in front of the others in the cell of a terminal, or
in the body of a rule. -/
theorem extend_cases {definition : Definition} (done : draft.extend definition = .ok after)
    : (∃ cell,
          draft.meanings.get? definition.name = some (.terminal (some cell))
          ∧ definition.kind = .terminal
          ∧ after
            = { draft with cells := draft.cells.modify cell (addOption definition.body) })
      ∨ ∃ parameters body options,
          draft.meanings.get? definition.name = some (.rule parameters (some body) options)
          ∧ definition.kind = .rule
          ∧ after
            = { draft with
                meanings :=
                  draft.meanings.insert definition.name
                    (.rule parameters (some (addOption definition.body body)) options) } := by
  rw [extend] at done
  cases known : draft.meanings.get? definition.name with
  | none =>
    rw [known] at done
    cases done
  | some meaning =>
    simp only [known] at done
    split at done
    · cases done
    · rename_i same
      split at done
      · cases done
      · match meaning with
        | .terminal (some cell) =>
          cases done
          exact .inl ⟨cell, rfl, (not_not.mp same).symm, rfl⟩
        | .rule parameters (some body) options =>
          cases done
          exact .inr ⟨parameters, body, options, rfl, (not_not.mp same).symm, rfl⟩
        | .terminal none | .rule _ none _ => cases done

/-- What a definition means: its name, which is not reserved, has a body. -/
theorem meanings_of_define {definition : Definition} {options : RuleOptions} {overriding : Bool}
    (done : draft.define definition options overriding = .ok after)
    : ∃ meaning : Meaning,
        meaning.kind = definition.kind
        ∧ ¬ meaning.IsBare
        ∧ draft.meanings.contains definition.name = overriding
        ∧ ¬ isReserved definition.name
        ∧ after.meanings = draft.meanings.insert definition.name meaning := by
  cases definition with
  | rule modifiers name parameters priority body
  | terminal name priority body =>
    obtain ⟨known, free, rfl⟩ := setMeaning_eq_ok.mp done
    refine ⟨_, ?_, ?_, known, free, rfl⟩
    · rfl
    · nofun

/-- What a declaration means. -/
theorem meanings_of_declare {symbol : Symbol} (done : draft.declare symbol = .ok after)
    : ∃ meaning : Meaning,
        meaning.kind = symbol.kind
        ∧ draft.meanings.contains symbol.name = false
        ∧ ¬ isReserved symbol.name
        ∧ after.meanings = draft.meanings.insert symbol.name meaning := by
  obtain ⟨new, free, rfl⟩ := setMeaning_eq_ok.mp done
  refine ⟨_, ?_, new, free, rfl⟩
  cases symbol.kind <;> rfl

/-- Every name of a draft has a property together with its meaning. -/
def All (holds : String → Meaning → Prop) (draft : Draft) : Prop :=
  ∀ name meaning, (name, meaning) ∈ draft.meanings.entries → holds name meaning

theorem All.insert (all : draft.All holds) {name : String} {meaning : Meaning}
    (fact : holds name meaning) (changed : after.meanings = draft.meanings.insert name meaning)
    : after.All holds := by
  intro known old member
  rw [changed] at member
  rcases Dictionary.mem_entries_insert.mp member with ⟨rfl, rfl⟩ | ⟨-, earlier⟩
  · exact fact
  · exact all known old earlier

/-- A property that the carrying out of statements keeps: it does not depend on the body of a rule,
and an ignored body has it. -/
structure Kept (holds : String → Meaning → Prop) : Prop where
  extended
    : ∀ {name parameters body options} other,
        holds name (.rule parameters (some body) options)
        → holds name (.rule parameters (some other) options)
  ignored : ∀ (number : Nat) cell, holds ("__IGNORE_" ++ toString number) (.terminal (some cell))

theorem All.define (all : draft.All holds) {definition : Definition} {options : RuleOptions}
    {overriding : Bool}
    (named
      : ∀ meaning : Meaning,
          ¬ meaning.IsBare → ¬ isReserved definition.name → holds definition.name meaning)
    (done : draft.define definition options overriding = .ok after)
    : after.All holds := by
  obtain ⟨meaning, -, full, -, free, changed⟩ := meanings_of_define done
  exact all.insert (named meaning full free) changed

theorem All.extend (all : draft.All holds) (kept : Kept holds) {definition : Definition}
    (done : draft.extend definition = .ok after)
    : after.All holds := by
  rcases extend_cases done with ⟨cell, -, -, rfl⟩ | ⟨parameters, body, options, known, -, rfl⟩
  · exact all
  · exact all.insert (kept.extended _ (all _ _ (Dictionary.get?_eq_some_iff.mp known))) rfl

theorem All.ignore (all : draft.All holds) (kept : Kept holds) (body : Body)
    : (draft.ignore body).All holds := by
  rw [Draft.ignore]
  split
  · exact all
  · exact all.insert (kept.ignored _ _) rfl

theorem All.declare (all : draft.All holds) {symbol : Symbol}
    (named
      : ∀ meaning : Meaning,
          meaning.kind = symbol.kind → ¬ isReserved symbol.name → holds symbol.name meaning)
    (done : draft.declare symbol = .ok after)
    : after.All holds := by
  obtain ⟨meaning, same, -, free, changed⟩ := meanings_of_declare done
  exact all.insert (named meaning same free) changed

/-- A property of the names that a statement defines or declares holds after it, by cases on the
statement. -/
theorem All.perform (all : draft.All holds) (kept : Kept holds)
    {rename : Option (String → String)} {statement : Statement}
    (defined
      : ∀ definition,
          statement = .define definition ∨ statement = .override definition
          → ∀ meaning : Meaning,
              ¬ meaning.IsBare
              → ¬ isReserved (rename.getD id definition.name)
              → holds (rename.getD id definition.name) meaning)
    (declared
      : ∀ symbols,
          statement = .declare symbols
          → ∀ symbol ∈ symbols,
              ∀ meaning : Meaning,
                meaning.kind = symbol.kind
                → ¬ isReserved (rename.getD id symbol.name)
                → holds (rename.getD id symbol.name) meaning)
    (done : draft.perform rename statement = .ok after)
    : after.All holds := by
  have renamed (definition : Definition)
      : (perform.renamed rename definition).name = rename.getD id definition.name := by
    cases rename <;> cases definition <;> rfl
  cases statement with
  | define definition =>
    obtain ⟨options, -, done⟩ := bind_eq_ok.mp done
    exact all.define (renamed definition ▸ defined definition (.inl rfl)) done
  | override definition =>
    obtain ⟨options, -, done⟩ := bind_eq_ok.mp done
    exact all.define (renamed definition ▸ defined definition (.inr rfl)) done
  | extend definition =>
    obtain ⟨-, -, done⟩ := bind_eq_ok.mp done
    exact all.extend kept done
  | ignore body =>
    cases done
    split
    · exact all
    · exact all.ignore kept body
  | declare symbols =>
    refine foldlM_preserves (fun symbol member before next held step => ?_) all done
    have named := declared symbols rfl symbol member
    cases rename with
    | none => exact held.declare named step
    | some f => exact held.declare named step
  | «import» relative path names =>
    cases done
    exact all

theorem All.keep (all : draft.All holds) {names : List String}
    (done : draft.keep names = .ok after)
    : after.All holds := by
  obtain ⟨found, -, done⟩ := bind_eq_ok.mp done
  cases done
  intro name meaning member
  exact all name meaning (List.mem_filter.mp member).1

theorem All.merge (all : draft.All holds) {imported : Draft} (others : imported.All holds)
    {file : String} (done : draft.merge imported file = .ok after)
    : after.All holds := by
  rw [Draft.merge] at done
  split at done
  · cases done
  · cases done
    intro name meaning member
    rcases Dictionary.mem_of_mem_foldl_insert member with known | added
    · exact all name meaning known
    · exact others name meaning added

-----------------------------------------------------------------------------------------
-- The definitions of a text
-----------------------------------------------------------------------------------------

/-- Adds what is asked for of an imported grammar. -/
def addImport [Installation]
    (context : ImportContext) (depth : Nat) (rename : Option (String → String))
    (draft : Draft) (request : ImportRequest)
    : Except Failure Draft := do
  let (found, inner) ← request.search context
  let imported ← ofText context depth found inner (some (request.rename rename)) draft.cells
  let kept ← imported.keep (request.names.keys.map (request.rename rename))
  draft.merge kept request.file

/-- The definitions of a text while the names inside its terminals are names. -/
def unlinked [Installation] (context : ImportContext) (depth : Nat) (name text : String)
    (rename : Option (String → String)) (cells : List Body)
    : Except Failure Draft := do
  let statements ← statements text
  let requests ← ImportRequest.collect name statements
  let draft ← requests.foldlM (addImport context depth rename) { cells }
  statements.foldlM (perform rename) draft

theorem ofText_succ [Installation] (context : ImportContext) (depth : Nat) (name text : String)
    (rename : Option (String → String)) (cells : List Body)
    : ofText context (depth + 1) name text rename cells
      = unlinked context depth name text rename cells >>= link := by
  simp only [ofText, unlinked, bind_assoc]
  rfl

/-- Without imports the definitions are those of the statements. -/
theorem unlinked_of_statements [Installation]
    {context : ImportContext} {depth : Nat} {name text : String}
    {rename : Option (String → String)} {cells : List Body} {parsed : List Statement}
    (read : statements text = .ok parsed) (plain : ImportRequest.collect name parsed = .ok [])
    : unlinked context depth name text rename cells = parsed.foldlM (perform rename) { cells } := by
  rw [unlinked, read]
  simp only [bind, Except.bind, plain, List.foldlM_nil, pure, Except.pure]

/-- A text without imports gives the grammar of its statements. -/
theorem read_of_statements [Installation]
    {context : ImportContext} {name text : String} {parsed : List Statement}
    {draft linked : Draft} (read : statements text = .ok parsed)
    (plain : ImportRequest.collect name parsed = .ok [])
    (performed : parsed.foldlM (perform none) {} = .ok draft) (closed : draft.link = .ok linked)
    (valid : linked.validate = .ok ())
    : Grammar.read context name text = .ok ⟨linked.terminals, linked.rules, linked.ignored⟩ := by
  have drafted
      : ofText context (context.tree.nodes.length + 2) name text none [] = .ok linked := by
    rw [ofText_succ, unlinked_of_statements read plain]
    exact bind_eq_ok.mpr ⟨draft, performed, closed⟩
  exact bind_eq_ok.mpr ⟨linked, drafted, bind_eq_ok.mpr ⟨(), valid, rfl⟩⟩

section

variable [Installation]
variable {context : ImportContext} {depth : Nat} {name text : String}
variable {rename : Option (String → String)} {cells : List Body}

/-- The names of a draft that are only declared are declared in the text, or in one that it comes
to, and are not reserved. -/
def DeclaredBy (context : ImportContext) (name text : String) (draft : Draft) : Prop :=
  draft.All fun shown meaning =>
    meaning.IsBare → ¬ isReserved shown ∧ Declared context name text meaning.kind

/-- If this holds for what is imported, it holds once all statements are carried out. -/
theorem declaredBy_of_unlinked
    (imported
      : ∀ {found inner rename cells draft},
          ofText context depth found inner rename cells = .ok draft
          → draft.DeclaredBy context found inner)
    (done : unlinked context depth name text rename cells = .ok draft)
    : draft.DeclaredBy context name text := by
  obtain ⟨statements, parsed, done⟩ := bind_eq_ok.mp done
  obtain ⟨requests, collected, done⟩ := bind_eq_ok.mp done
  obtain ⟨merged, added, performed⟩ := bind_eq_ok.mp done
  have start : merged.DeclaredBy context name text := by
    refine foldlM_preserves (fun request member before next kept step => ?_) ?_ added
    · have asked : request.AskedBy name text := ⟨statements, requests, parsed, collected, member⟩
      obtain ⟨⟨found, inner⟩, first, step⟩ := bind_eq_ok.mp step
      obtain ⟨other, read, step⟩ := bind_eq_ok.mp step
      obtain ⟨needed, reduced, step⟩ := bind_eq_ok.mp step
      -- What the imported text comes to, this text comes to as well.
      have others : other.DeclaredBy context name text :=
        fun shown meaning present empty =>
          (imported read shown meaning present empty).imp_right (Declared.through asked first)
      exact kept.merge (others.keep reduced) step
    · intro shown meaning member
      cases member
  refine foldlM_preserves (fun statement member before next kept step => ?_) start performed
  refine kept.perform ⟨fun _ _ => nofun, fun _ _ => nofun⟩ ?_ ?_ step
  · intro definition _ meaning full _ empty
    exact absurd empty full
  · intro symbols same symbol present meaning kind free _
    refine ⟨free, 0, name, text, .here, symbols, ?_, symbol, present, kind.symm⟩
    exact ⟨statements, parsed, same ▸ member⟩

/-- By induction on the depth to which imports are nested. -/
theorem declaredBy_of_ofText (done : ofText context depth name text rename cells = .ok draft)
    : draft.DeclaredBy context name text := by
  induction depth generalizing name text rename cells draft with
  | zero => cases done
  | succ depth ih =>
    rw [ofText_succ] at done
    obtain ⟨defined, drafted, done⟩ := bind_eq_ok.mp done
    obtain ⟨-, -, done⟩ := bind_eq_ok.mp done
    obtain ⟨-, -, done⟩ := bind_eq_ok.mp done
    cases done
    have known : defined.DeclaredBy context name text := declaredBy_of_unlinked ih drafted
    exact known

end

end Draft

-----------------------------------------------------------------------------------------
-- The terminals and the rules of a grammar
-----------------------------------------------------------------------------------------

/-- The terminals of a draft stand in the order of their names there. -/
theorem Draft.sublist_terminals (draft : Draft)
    : (draft.terminals.map Prod.fst).Sublist (draft.meanings.entries.map Prod.fst) := by
  rw [terminals]
  induction draft.meanings.entries with
  | nil => exact .slnil
  | cons entry rest ih =>
    obtain ⟨name, meaning⟩ := entry
    cases meaning with
    | terminal cell => exact ih.cons_cons name
    | rule parameters body options => exact ih.cons name

/-- A terminal without a definition is one whose name has no cell. -/
theorem Draft.mem_meanings_of_declared {draft : Draft} {terminal : String}
    (declared : (terminal, none) ∈ draft.terminals)
    : (terminal, .terminal none) ∈ draft.meanings.entries := by
  obtain ⟨⟨name, meaning⟩, member, shown⟩ := List.mem_filterMap.mp declared
  match meaning with
  | .terminal none =>
    cases shown
    exact member
  | .terminal (some cell) | .rule _ _ _ => cases shown

section

variable [Installation]
variable {context : ImportContext} {name text : String} {grammar : Grammar}

/-- No two terminals of a grammar that is read have one name. -/
theorem nodup_terminals (read : Grammar.read context name text = .ok grammar)
    : (grammar.terminals.map Prod.fst).Nodup := by
  obtain ⟨draft, -, done⟩ := bind_eq_ok.mp read
  obtain ⟨-, -, done⟩ := bind_eq_ok.mp done
  cases done
  exact draft.sublist_terminals.nodup draft.meanings.nodup

/-- A terminal without a definition has no reserved name. -/
theorem not_isReserved_of_declared (read : Grammar.read context name text = .ok grammar)
    {terminal : String} (declared : (terminal, none) ∈ grammar.terminals)
    : ¬ isReserved terminal := by
  obtain ⟨draft, drafted, done⟩ := bind_eq_ok.mp read
  obtain ⟨-, -, done⟩ := bind_eq_ok.mp done
  cases done
  have member := Draft.mem_meanings_of_declared declared
  exact (Draft.declaredBy_of_ofText drafted terminal _ member .terminal).1

/-- A rule without a body is declared. -/
theorem declared_of_bodiless (read : Grammar.read context name text = .ok grammar) {rule : Rule}
    (member : rule ∈ grammar.rules) (bodiless : rule.body = none)
    : Declared context name text .rule := by
  obtain ⟨draft, drafted, done⟩ := bind_eq_ok.mp read
  obtain ⟨-, -, done⟩ := bind_eq_ok.mp done
  cases done
  obtain ⟨⟨shown, meaning⟩, present, same⟩ := List.mem_filterMap.mp member
  match meaning with
  | .rule parameters none options =>
    exact (Draft.declaredBy_of_ofText drafted shown _ present (.rule _ _)).2
  | .rule parameters (some body) options =>
    cases same
    cases bodiless
  | .terminal cell => cases same

end

end ReservedWords.Grammar
