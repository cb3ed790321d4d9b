import ReservedWords.Grammar.Import
import ReservedWords.Proofs.Grammar.Lexemes
import ReservedWords.Proofs.Outcome

/-!
What reading statements gives. Every reader passes on lexemes as they are, so the names that statements
introduce, and those that they import, are spelled like names.
-/

namespace ReservedWords.Grammar

/-- A name is spelled like those of one class or the other. -/
def IsName (name : String) : Prop :=
  ∃ kind : SymbolKind, kind.Spells name

/-- The names of an import are spelled like names. -/
def ImportNames.Lexical : ImportNames → Prop
  | .last => True
  | .as name => IsName name
  | .list names => ∀ name ∈ names, IsName name

/-- The names of a statement that are no part of a body are spelled like those of their classes. -/
def Statement.Lexical : Statement → Prop
  | .define definition | .override definition | .extend definition =>
    definition.kind.Spells definition.name
  | .ignore _ => True
  | .declare symbols => ∀ symbol ∈ symbols, symbol.kind.Spells symbol.name
  | .import _ path names => path ≠ [] ∧ (∀ name ∈ path, IsName name) ∧ names.Lexical

namespace Statement

variable {α β : Type}

/-- What a reader gives from sound lexemes, which are all that it leaves. -/
def Gives (reader : Reader α) (holds : α → Prop) : Prop :=
  ∀ lexemes value rest,
    (∀ lexeme ∈ lexemes, Lexeme.Sound lexeme)
    → reader.run lexemes = .ok (value, rest)
    → holds value ∧ ∀ lexeme ∈ rest, Lexeme.Sound lexeme

section

variable {first : Reader α} {next : α → Reader β} {holds : α → Prop} {after : β → Prop}

theorem gives_pure {value : α} (fact : holds value) : Gives (pure value) holds := by
  intro lexemes result rest sound done
  cases done
  exact ⟨fact, sound⟩

theorem Gives.bind (start : Gives first holds) (later : ∀ value, holds value → Gives (next value) after)
    : Gives (first >>= next) after := by
  intro lexemes result rest sound done
  rw [StateT.run_bind] at done
  obtain ⟨⟨value, between⟩, began, done⟩ := bind_eq_ok.mp done
  obtain ⟨fact, kept⟩ := start _ _ _ sound began
  exact later value fact _ _ _ kept done

theorem Gives.ite {condition : Prop} [Decidable condition] {other : Reader α}
    (left : Gives first holds) (right : Gives other holds)
    : Gives (if condition then first else other) holds := by
  split
  · exact left
  · exact right

theorem gives_peek : Gives peek Lexeme.Sound := by
  intro lexemes result rest sound done
  cases done
  refine ⟨?_, sound⟩
  cases lexemes with
  | nil => exact Lexeme.sound_finish
  | cons lexeme others => exact sound lexeme List.mem_cons_self

theorem gives_skip : Gives skip fun _ => True := by
  intro lexemes result rest sound done
  cases done
  exact ⟨trivial, fun lexeme member => sound lexeme (List.mem_of_mem_tail member)⟩

theorem gives_refuse : Gives (refuse : Reader α) holds := by
  intro lexemes result rest sound done
  cases done

theorem gives_peekKind : Gives peekKind fun _ => True :=
  gives_peek.bind fun _ _ => gives_pure trivial

theorem gives_fuel : Gives fuel fun _ => True := by
  intro lexemes result rest sound done
  cases done
  exact ⟨trivial, sound⟩

/-- A lexeme that is expected has the kind. -/
theorem gives_expect (kind : LexemeKind)
    : Gives (expect kind) fun lexeme => lexeme.kind = kind ∧ lexeme.Sound := by
  refine gives_peek.bind fun lexeme sound => ?_
  split
  · rename_i same
    exact gives_skip.bind fun _ _ => gives_pure ⟨same, sound⟩
  · exact gives_refuse

theorem gives_accept (kind : LexemeKind) : Gives (accept kind) fun _ => True := by
  refine gives_peekKind.bind fun _ _ => ?_
  split
  · exact gives_skip.bind fun _ _ => gives_pure trivial
  · exact gives_pure trivial

theorem gives_discard (given : Gives first holds) : Gives (discard first) fun _ => True :=
  given.bind fun _ _ => gives_pure trivial

theorem gives_anyName : Gives anyName IsName := by
  refine gives_peek.bind fun lexeme sound => ?_
  split
  · rename_i named
    refine gives_skip.bind fun _ _ => gives_pure ?_
    rcases named with rule | terminal
    · exact ⟨.rule, sound .rule rule⟩
    · exact ⟨.terminal, sound .terminal terminal⟩
  · exact gives_refuse

theorem gives_anySymbol : Gives anySymbol fun symbol => symbol.kind.Spells symbol.name := by
  refine gives_peek.bind fun lexeme sound => ?_
  split
  · rename_i rule
    exact gives_skip.bind fun _ _ => gives_pure (sound .rule rule)
  · rename_i terminal
    exact gives_skip.bind fun _ _ => gives_pure (sound .terminal terminal)
  · exact gives_refuse

/-- There is at least one item, by induction on the fuel. -/
theorem gives_separated (separator : LexemeKind) (given : Gives first holds) (fuel : Nat)
    : Gives (separated separator first fuel) fun values =>
        values ≠ [] ∧ ∀ value ∈ values, holds value := by
  induction fuel with
  | zero => exact gives_refuse
  | succ fuel ih =>
    refine given.bind fun value fact => (gives_accept separator).bind fun more _ => ?_
    split
    · refine ih.bind fun values ⟨_, facts⟩ => gives_pure ⟨nofun, ?_⟩
      exact List.forall_mem_cons.mpr ⟨fact, facts⟩
    · exact gives_pure ⟨nofun, List.forall_mem_singleton.mpr fact⟩

end

-----------------------------------------------------------------------------------------
-- Bodies
-----------------------------------------------------------------------------------------

/-- What a reader leaves is sound if it gets sound lexemes. -/
abbrev Keeps (reader : Reader α) : Prop :=
  Gives reader fun _ => True

mutual

/-- By mutual induction on the fuel, here and below. -/
theorem keeps_readOptions (fuel : Nat) : Keeps (readOptions fuel) := by
  cases fuel with
  | zero => exact gives_refuse
  | succ fuel =>
    have others (option : Body) (more : Bool)
        : Keeps (if more then do return option :: (← readOptions fuel) else return [option]) := by
      split
      · exact (keeps_readOptions fuel).bind fun options _ => gives_pure trivial
      · exact gives_pure trivial
    have bars (option : Body)
        : Keeps do
            let more ← if ← accept .bar then pure true else accept .newlineBar
            if more then return option :: (← readOptions fuel)
            return [option] := by
      refine (gives_accept _).bind fun bar _ => ?_
      extract_lets follow
      split
      · exact others option true
      · exact (gives_accept _).bind fun more _ => others option more
    rw [readOptions]
    refine (keeps_readParts fuel).bind fun parts _ => (gives_accept _).bind fun named _ => ?_
    split
    · exact (gives_expect _).bind fun label _ => bars _
    · exact bars _

theorem keeps_readParts (fuel : Nat) : Keeps (readParts fuel) := by
  cases fuel with
  | zero => exact gives_refuse
  | succ fuel =>
    rw [readParts]
    refine gives_peekKind.bind fun kind _ => ?_
    split
    · refine (keeps_readPart fuel).bind fun part _ => (keeps_readParts fuel).bind fun others _ => ?_
      exact gives_pure trivial
    · exact gives_pure trivial

theorem keeps_readPart (fuel : Nat) : Keeps (readPart fuel) := by
  cases fuel with
  | zero => exact gives_refuse
  | succ fuel =>
    rw [readPart]
    refine (keeps_readAtom fuel).bind fun atom _ => gives_peek.bind fun next _ => ?_
    split
    · exact gives_skip.bind fun _ _ => gives_pure trivial
    · split
      · refine gives_skip.bind fun _ _ => (gives_expect _).bind fun low _ => ?_
        refine (gives_accept _).bind fun range _ => ?_
        split
        · exact (gives_expect _).bind fun high _ => gives_pure trivial
        · exact gives_pure trivial
      · exact gives_pure trivial

theorem keeps_readAtom (fuel : Nat) : Keeps (readAtom fuel) := by
  cases fuel with
  | zero => exact gives_refuse
  | succ fuel =>
    rw [readAtom]
    refine (gives_accept _).bind fun group _ => ?_
    split
    · refine (keeps_readOptions fuel).bind fun options _ => ?_
      exact (gives_discard (gives_expect _)).bind fun _ _ => gives_pure trivial
    · refine (gives_accept _).bind fun bracket _ => ?_
      split
      · refine (keeps_readOptions fuel).bind fun options _ => ?_
        exact (gives_discard (gives_expect _)).bind fun _ _ => gives_pure trivial
      · exact keeps_readValue fuel

theorem keeps_readValue (fuel : Nat) : Keeps (readValue fuel) := by
  cases fuel with
  | zero => exact gives_refuse
  | succ fuel =>
    rw [readValue]
    refine gives_peek.bind fun lexeme _ => ?_
    split
    · exact gives_skip.bind fun _ _ => gives_pure trivial
    · exact gives_skip.bind fun _ _ => gives_pure trivial
    · refine gives_skip.bind fun _ _ => (gives_accept _).bind fun range _ => ?_
      split
      · exact (gives_expect _).bind fun last _ => gives_pure trivial
      · exact gives_pure trivial
    · refine gives_skip.bind fun _ _ => (gives_accept _).bind fun used _ => ?_
      split
      · refine (keeps_readArguments fuel).bind fun arguments _ => ?_
        exact (gives_discard (gives_expect _)).bind fun _ _ => gives_pure trivial
      · exact gives_pure trivial
    · exact gives_refuse

theorem keeps_readArguments (fuel : Nat) : Keeps (readArguments fuel) := by
  cases fuel with
  | zero => exact gives_refuse
  | succ fuel =>
    rw [readArguments]
    refine (keeps_readValue fuel).bind fun argument _ => (gives_accept _).bind fun more _ => ?_
    split
    · exact (keeps_readArguments fuel).bind fun others _ => gives_pure trivial
    · exact gives_pure trivial

end

-----------------------------------------------------------------------------------------
-- Statements
-----------------------------------------------------------------------------------------

theorem keeps_readBody : Keeps readBody := by
  refine gives_fuel.bind fun fuel _ => (keeps_readOptions fuel).bind fun options _ => ?_
  exact (gives_discard (gives_expect _)).bind fun _ _ => gives_pure trivial

theorem keeps_readPriority : Keeps readPriority := by
  refine (gives_accept _).bind fun dot _ => ?_
  split
  · exact (gives_expect _).bind fun number _ => gives_pure trivial
  · exact gives_pure trivial

theorem gives_readDefinition
    : Gives readDefinition fun definition => definition.kind.Spells definition.name := by
  refine gives_peek.bind fun first sound => ?_
  split
  · rename_i terminal
    refine gives_skip.bind fun _ _ => keeps_readPriority.bind fun priority _ => ?_
    refine (gives_discard (gives_expect _)).bind fun _ _ => keeps_readBody.bind fun body _ => ?_
    exact gives_pure (sound .terminal terminal)
  -- A rule is read on in one way after its modifiers and without any.
  iterate 2
    · extract_lets rule
      have spelled (modifiers : String)
          : Gives (rule modifiers) fun definition =>
              definition.kind.Spells definition.name := by
        refine (gives_expect _).bind fun name ⟨same, sound⟩ => (gives_accept _).bind fun brace _ => ?_
        extract_lets body
        have rest (parameters : List String)
            : Gives (body parameters) fun definition =>
                definition.kind.Spells definition.name := by
          refine keeps_readPriority.bind fun priority _ => ?_
          refine (gives_discard (gives_expect _)).bind fun _ _ => ?_
          exact keeps_readBody.bind fun body _ => gives_pure (sound .rule same)
        split
        · refine gives_fuel.bind fun fuel _ => ?_
          refine (gives_separated _ (gives_expect _) fuel).bind fun names _ => ?_
          exact (gives_discard (gives_expect _)).bind fun _ _ => rest _
        · exact rest []
      exact Gives.ite (gives_skip.bind fun _ _ => spelled _) (spelled "")
  · exact gives_refuse

theorem gives_readImportNames : Gives readImportNames ImportNames.Lexical := by
  refine gives_peekKind.bind fun kind _ => ?_
  split
  · refine gives_skip.bind fun _ _ => gives_fuel.bind fun fuel _ => ?_
    refine (gives_separated _ gives_anyName fuel).bind fun names ⟨_, named⟩ => ?_
    exact (gives_discard (gives_expect _)).bind fun _ _ => gives_pure named
  · exact gives_skip.bind fun _ _ => gives_anyName.bind fun name named => gives_pure named
  · exact gives_pure trivial

theorem gives_readImport : Gives readImport Lexical := by
  refine (gives_accept _).bind fun relative _ => gives_fuel.bind fun fuel _ => ?_
  refine (gives_separated _ gives_anyName fuel).bind fun path ⟨full, named⟩ => ?_
  refine gives_readImportNames.bind fun names lexical => ?_
  exact (gives_discard (gives_expect _)).bind fun _ _ => gives_pure ⟨full, named, lexical⟩

theorem gives_readSymbols (fuel : Nat)
    : Gives (readSymbols fuel) fun symbols => ∀ symbol ∈ symbols, symbol.kind.Spells symbol.name := by
  induction fuel with
  | zero => exact gives_refuse
  | succ fuel ih =>
    refine gives_anySymbol.bind fun symbol spells => (gives_accept _).bind fun newline _ => ?_
    split
    · exact gives_pure (List.forall_mem_singleton.mpr spells)
    · exact ih.bind fun symbols others => gives_pure (List.forall_mem_cons.mpr ⟨spells, others⟩)

theorem gives_readAll (fuel : Nat)
    : Gives (readAll fuel) fun statements => ∀ statement ∈ statements, statement.Lexical := by
  induction fuel with
  | zero => exact gives_refuse
  | succ fuel ih =>
    have followed {γ : Type} {reader : Reader γ} {holds : γ → Prop} {make : γ → Statement}
        (given : Gives reader holds) (lexical : ∀ value, holds value → (make value).Lexical)
        : Gives (do return make (← reader) :: (← readAll fuel)) fun statements =>
            ∀ statement ∈ statements, statement.Lexical :=
      given.bind fun value fact => ih.bind fun statements others =>
        gives_pure (List.forall_mem_cons.mpr ⟨lexical value fact, others⟩)
    refine gives_peekKind.bind fun kind _ => ?_
    split
    · exact gives_pure nofun
    · exact gives_skip.bind fun _ _ => ih
    · exact gives_skip.bind fun _ _ => followed keeps_readBody fun _ _ => trivial
    · refine gives_skip.bind fun _ _ => gives_fuel.bind fun fuel _ => ?_
      exact followed (gives_readSymbols fuel) fun _ spells => spells
    · exact gives_skip.bind fun _ _ => followed gives_readImport fun _ lexical => lexical
    · exact gives_skip.bind fun _ _ => followed gives_readDefinition fun _ spells => spells
    · exact gives_skip.bind fun _ _ => followed gives_readDefinition fun _ spells => spells
    · exact followed gives_readDefinition fun _ spells => spells

theorem gives_readText
    : Gives readText fun statements => ∀ statement ∈ statements, statement.Lexical := by
  refine gives_peekKind.bind fun kind _ => ?_
  extract_lets all
  have given : Gives (all ()) fun statements => ∀ statement ∈ statements, statement.Lexical :=
    fun lexemes => gives_readAll (lexemes.length + 1) lexemes
  have refused : Gives (refuse : Reader Unit) fun _ => True := gives_refuse
  exact Gives.ite (refused.bind fun _ _ => given) given

end Statement

/-- The statements of a text introduce and import what is spelled like names. -/
theorem Draft.lexical_of_statements {text : String} {found : List Statement}
    (parsed : Draft.statements text = .ok found)
    : ∀ statement ∈ found, statement.Lexical := by
  rw [Draft.statements] at parsed
  split at parsed
  · rename_i statements read
    cases parsed
    rw [Statement.ofText, Statement.ofLexemes] at read
    cases result : Statement.readText.run (Lexeme.list (text.toList ++ ['\n'])) with
    | error lexeme =>
      rw [result] at read
      cases read
    | ok pair =>
      rw [result] at read
      cases read
      have sound := fun lexeme member =>
        @Lexeme.sound_of_mem_list (text.toList ++ ['\n']) lexeme member
      exact (Statement.gives_readText _ _ _ sound result).1
  · cases parsed

end ReservedWords.Grammar
