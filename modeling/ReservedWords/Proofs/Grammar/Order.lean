import ReservedWords.Proofs.Grammar.Drafts
import ReservedWords.Proofs.Grammar.Reading

/-!
The order of definitions. A grammar lists its terminals and its rules in the order in which its
statements introduce them: a definition or a declaration adds its name at the end, and what overrides
or extends a definition, or ignores a terminal, leaves every name in its place and in its class.
-/

namespace ReservedWords.Grammar

/-- The names of one class among names with their classes. -/
def namesOf (kind : SymbolKind) (names : List (SymbolKind × String)) : List String :=
  (names.filter (·.1 = kind)).map Prod.snd

/-- The names that a statement introduces, with their classes. -/
def Statement.introduces : Statement → List (SymbolKind × String)
  | .define definition => [(definition.kind, definition.name)]
  | .declare symbols => symbols.map fun symbol => (symbol.kind, symbol.name)
  | .override _ | .extend _ | .ignore _ | .import _ _ _ => []

theorem not_isReserved_of_spells {kind : SymbolKind} {name : String} (spells : kind.Spells name)
    : ¬ isReserved name := by
  obtain ⟨first, rest, shape, letter, -⟩ := spells
  have other := SymbolKind.ne_underscore letter
  rcases shape with plain | hidden
  · simp [isReserved, Options.startsWith, plain, Ne.symm other]
  · simp [isReserved, Options.startsWith, hidden, Ne.symm other]

theorem isReserved_ignored (number : Nat) : isReserved ("__IGNORE_" ++ toString number) := by
  simp [isReserved, Options.startsWith, String.toList_append]

namespace Draft

/-- The name of an entry with its class. -/
def classified (entry : String × Meaning) : SymbolKind × String :=
  (entry.2.kind, entry.1)

/-- Some names stand in their order and in their classes among those of a draft. -/
structure Lists (known : List (SymbolKind × String)) (draft : Draft) : Prop where
  order : known.Sublist (draft.meanings.entries.map classified)
  spelled : ∀ kind name, (kind, name) ∈ known → kind.Spells name

variable {draft after : Draft} {known : List (SymbolKind × String)} {name : String}
variable {meaning : Meaning}

/-- A meaning of the same class leaves a name in its place, by induction on the entries. -/
theorem sublist_upsert {entries : List (String × Meaning)}
    (order : known.Sublist (entries.map classified))
    (same : ∀ kind, (kind, name) ∈ known → kind = meaning.kind)
    : known.Sublist ((Dictionary.upsert name meaning entries).map classified) := by
  induction entries generalizing known with
  | nil =>
    cases order
    exact List.nil_sublist _
  | cons entry rest ih =>
    obtain ⟨first, old⟩ := entry
    rw [Dictionary.upsert]
    split
    · rename_i equal
      subst equal
      cases order with
      | cons _ order => exact order.cons _
      | cons_cons _ order =>
        have unchanged : classified (first, old) = classified (first, meaning) :=
          Prod.ext (same _ List.mem_cons_self) rfl
        rw [List.map_cons, unchanged]
        exact order.cons_cons _
    · cases order with
      | cons _ order => exact (ih order same).cons _
      | cons_cons _ order =>
        exact (ih order fun kind member => same kind (List.mem_cons_of_mem _ member)).cons_cons _

theorem Lists.insert (lists : Lists known draft)
    (same : ∀ kind, (kind, name) ∈ known → kind = meaning.kind)
    (changed : after.meanings = draft.meanings.insert name meaning)
    : Lists known after :=
  ⟨changed ▸ sublist_upsert lists.order same, lists.spelled⟩

/-- A name that is spelled like those of its class takes the place that it has. -/
theorem Lists.override (lists : Lists known draft) (spells : meaning.kind.Spells name)
    (changed : after.meanings = draft.meanings.insert name meaning)
    : Lists known after := by
  refine lists.insert (fun kind member => ?_) changed
  exact SymbolKind.eq_of_spells (lists.spelled kind name member) spells

/-- A new name is added at the end. -/
theorem Lists.introduce (lists : Lists known draft) (new : draft.meanings.contains name = false)
    (spells : meaning.kind.Spells name)
    (changed : after.meanings = draft.meanings.insert name meaning)
    : Lists (known ++ [(meaning.kind, name)]) after := by
  have absent : name ∉ draft.meanings.entries.map Prod.fst := by
    intro member
    have present : draft.meanings.contains name = true := Dictionary.isSome_get?_iff.mpr member
    cases new.symm.trans present
  have added : after.meanings.entries = draft.meanings.entries ++ [(name, meaning)] :=
    changed ▸ Dictionary.upsert_of_not_mem absent
  constructor
  · rw [added, List.map_append]
    exact lists.order.append (List.Sublist.refl _)
  · intro kind other member
    rcases List.mem_append.mp member with old | last
    · exact lists.spelled kind other old
    · cases List.mem_singleton.mp last
      exact spells

theorem Lists.extend (lists : Lists known draft) {definition : Definition}
    (spells : definition.kind.Spells definition.name) (done : draft.extend definition = .ok after)
    : Lists known after := by
  rcases extend_cases done with ⟨cell, -, -, rfl⟩ | ⟨parameters, body, options, -, same, rfl⟩
  · exact ⟨lists.order, lists.spelled⟩
  · rw [same] at spells
    refine lists.insert (fun kind member => ?_) rfl
    exact SymbolKind.eq_of_spells (lists.spelled kind _ member) spells

/-- The name of an ignored body is reserved, so it is none of those that are spelled properly. -/
theorem Lists.ignore (lists : Lists known draft) (body : Body)
    : Lists known (draft.ignore body) := by
  rw [Draft.ignore]
  split
  · exact ⟨lists.order, lists.spelled⟩
  · refine lists.insert (fun kind member => ?_) rfl
    exact absurd (isReserved_ignored _) (not_isReserved_of_spells (lists.spelled kind _ member))

theorem Lists.declare (lists : Lists known draft) {symbol : Symbol}
    (spells : symbol.kind.Spells symbol.name) (done : draft.declare symbol = .ok after)
    : Lists (known ++ [(symbol.kind, symbol.name)]) after := by
  obtain ⟨meaning, same, new, -, changed⟩ := meanings_of_declare done
  have spells : meaning.kind.Spells symbol.name := same.symm ▸ spells
  rw [← same]
  exact lists.introduce new spells changed

/-- A statement adds the names that it introduces, by cases on the statement. -/
theorem Lists.perform (lists : Lists known draft) {statement : Statement}
    (lexical : statement.Lexical) (done : draft.perform none statement = .ok after)
    : Lists (known ++ statement.introduces) after := by
  cases statement with
  | define definition =>
    obtain ⟨options, -, done⟩ := bind_eq_ok.mp done
    obtain ⟨meaning, same, -, new, -, changed⟩ := meanings_of_define done
    have spells : meaning.kind.Spells definition.name := same.symm ▸ lexical
    rw [Statement.introduces, ← show meaning.kind = definition.kind from same]
    exact lists.introduce new spells changed
  | override definition =>
    obtain ⟨options, -, done⟩ := bind_eq_ok.mp done
    obtain ⟨meaning, same, -, -, -, changed⟩ := meanings_of_define done
    have spells : meaning.kind.Spells definition.name := same.symm ▸ lexical
    rw [Statement.introduces, List.append_nil]
    exact lists.override spells changed
  | extend definition =>
    obtain ⟨-, -, done⟩ := bind_eq_ok.mp done
    rw [Statement.introduces, List.append_nil]
    exact lists.extend lexical done
  | ignore body =>
    cases done
    rw [Statement.introduces, List.append_nil]
    exact lists.ignore body
  | declare symbols =>
    rw [Statement.introduces, List.map_eq_flatMap]
    refine foldlM_collects (fun symbol member known before after kept step => ?_) lists done
    exact kept.declare (lexical symbol member) step
  | «import» relative path names =>
    cases done
    rwa [Statement.introduces, List.append_nil]

/-- The names that the statements of a text introduce stand in this order in its draft, after those
that it imports. -/
theorem lists_of_ofText [Installation] {context : ImportContext} {depth : Nat} {name text : String}
    {cells : List Body} (done : ofText context depth name text none cells = .ok draft)
    : ∃ found, statements text = .ok found ∧ Lists (found.flatMap Statement.introduces) draft := by
  cases depth with
  | zero => cases done
  | succ depth =>
    rw [ofText_succ] at done
    obtain ⟨defined, drafted, done⟩ := bind_eq_ok.mp done
    obtain ⟨-, -, done⟩ := bind_eq_ok.mp done
    obtain ⟨-, -, done⟩ := bind_eq_ok.mp done
    cases done
    obtain ⟨found, parsed, drafted⟩ := bind_eq_ok.mp drafted
    obtain ⟨requests, -, drafted⟩ := bind_eq_ok.mp drafted
    obtain ⟨merged, -, performed⟩ := bind_eq_ok.mp drafted
    have start : Lists [] merged := ⟨List.nil_sublist _, nofun⟩
    have lists : Lists ([] ++ found.flatMap Statement.introduces) defined := by
      refine foldlM_collects (fun statement member known before after kept step => ?_) start
        performed
      exact kept.perform (lexical_of_statements parsed statement member) step
    exact ⟨found, parsed, lists.order, lists.spelled⟩

-----------------------------------------------------------------------------------------
-- The terminals and the rules of a grammar
-----------------------------------------------------------------------------------------

theorem map_fst_terminals (draft : Draft)
    : draft.terminals.map Prod.fst = namesOf .terminal (draft.meanings.entries.map classified) := by
  rw [terminals]
  induction draft.meanings.entries with
  | nil => rfl
  | cons entry rest ih =>
    obtain ⟨name, meaning⟩ := entry
    cases meaning with
    | terminal cell => exact congrArg (name :: ·) ih
    | rule parameters body options => exact ih

theorem map_name_rules (draft : Draft)
    : draft.rules.map Rule.name = namesOf .rule (draft.meanings.entries.map classified) := by
  rw [rules]
  induction draft.meanings.entries with
  | nil => rfl
  | cons entry rest ih =>
    obtain ⟨name, meaning⟩ := entry
    cases meaning with
    | terminal cell => exact ih
    | rule parameters body options => exact congrArg (name :: ·) ih

end Draft

/-- No two rules of a grammar that is read have one name. -/
theorem nodup_rules [Installation]
    {context : ImportContext} {name text : String} {grammar : Grammar}
    (read : Grammar.read context name text = .ok grammar)
    : (grammar.rules.map Rule.name).Nodup := by
  obtain ⟨draft, -, done⟩ := bind_eq_ok.mp read
  obtain ⟨-, -, done⟩ := bind_eq_ok.mp done
  cases done
  have keys : (draft.meanings.entries.map Draft.classified).map Prod.snd = draft.meanings.keys := by
    rw [List.map_map]
    rfl
  rw [Draft.map_name_rules]
  exact (List.filter_sublist.map Prod.snd).nodup (keys ▸ draft.meanings.nodup)

/-- A grammar lists terminals and rules in the order in which its text introduces them. -/
theorem sublist_of_read [Installation]
    {context : ImportContext} {name text : String} {grammar : Grammar}
    (read : Grammar.read context name text = .ok grammar)
    : ∃ statements,
        Draft.statements text = .ok statements
        ∧ (namesOf .terminal (statements.flatMap Statement.introduces)).Sublist
            (grammar.terminals.map Prod.fst)
        ∧ (namesOf .rule (statements.flatMap Statement.introduces)).Sublist
            (grammar.rules.map Rule.name) := by
  obtain ⟨draft, drafted, done⟩ := bind_eq_ok.mp read
  obtain ⟨-, -, done⟩ := bind_eq_ok.mp done
  cases done
  obtain ⟨statements, parsed, lists⟩ := Draft.lists_of_ofText drafted
  rw [Draft.map_fst_terminals, Draft.map_name_rules]
  exact ⟨statements, parsed, (lists.order.filter _).map _, (lists.order.filter _).map _⟩

end ReservedWords.Grammar
