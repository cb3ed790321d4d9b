import ReservedWords.Proofs.FileTree
import ReservedWords.Proofs.Grammar.Naming
import ReservedWords.Proofs.Grammar.Order

/-!
The names in a grammar. They consist of letters, digits and underscores, those that imported
definitions get included, and none has two underscores in front but those of ignored bodies.
-/

namespace ReservedWords.Grammar

/-- A character that stands in names. -/
def IsNameChar (c : Char) : Prop :=
  ∃ kind : SymbolKind, Lexeme.continues kind.isLetter c

/-- A text of characters that stand in names. -/
def OfNameChars (text : String) : Prop :=
  ∀ c ∈ text.toList, IsNameChar c

/-- A text of such characters with at least one of them. -/
structure IsIdentifier (name : String) : Prop where
  chars : OfNameChars name
  full : name ≠ ""

theorem isNameChar_underscore : IsNameChar '_' :=
  ⟨.rule, rfl⟩

theorem isNameChar_of_isLetter {kind : SymbolKind} {c : Char} (letter : kind.isLetter c)
    : IsNameChar c :=
  ⟨kind, by simp [Lexeme.continues, letter]⟩

theorem isNameChar_of_isDigit {c : Char} (digit : c.isDigit) : IsNameChar c := by
  have between : '0' ≤ c ∧ c ≤ '9' := by simpa [Char.isDigit, Char.le_def] using digit
  exact ⟨.rule, by simp [Lexeme.continues, Lexeme.isNameDigit, between]⟩

theorem OfNameChars.append {first second : String} (left : OfNameChars first)
    (right : OfNameChars second)
    : OfNameChars (first ++ second) := by
  intro c member
  rw [String.toList_append, List.mem_append] at member
  exact member.elim (left c) (right c)

theorem ofNameChars_underscores : OfNameChars "__" := by
  simp [OfNameChars, isNameChar_underscore]

theorem ofNameChars_toString (number : Nat) : OfNameChars (toString number) := by
  intro c member
  rw [Nat.toString_eq_ofList_toDigits, String.toList_ofList] at member
  exact isNameChar_of_isDigit (Nat.isDigit_of_mem_toDigits (by decide) (by decide) member)

theorem IsName.isIdentifier {name : String} (named : IsName name) : IsIdentifier name := by
  obtain ⟨kind, first, rest, shape, letter, more⟩ := named
  have chars : ∀ c ∈ first :: rest, IsNameChar c :=
    List.forall_mem_cons.mpr ⟨isNameChar_of_isLetter letter, fun c member => ⟨kind, more c member⟩⟩
  constructor
  · intro c member
    rcases shape with plain | hidden
    · exact chars c (plain ▸ member)
    · rw [hidden, List.mem_cons] at member
      exact member.elim (fun underscore => underscore ▸ isNameChar_underscore) (chars c)
  · rintro rfl
    rcases shape with plain | hidden
    · cases plain
    · cases hidden

-----------------------------------------------------------------------------------------
-- The names of imported definitions
-----------------------------------------------------------------------------------------

/-- A change of names that makes names of names. -/
def KeepsNames (rename : Option (String → String)) : Prop :=
  ∀ name, IsIdentifier name → IsIdentifier (rename.getD id name)

theorem keepsNames_none : KeepsNames none :=
  fun _ named => named

namespace ImportRequest

/-- The path of a request, and the names that it gives, are names. -/
structure Lexical (request : ImportRequest) : Prop where
  path : ∀ name ∈ request.path, OfNameChars name
  names : ∀ name given, (name, given) ∈ request.names.entries → IsIdentifier given

def AllLexical (requests : List ImportRequest) : Prop :=
  ∀ request ∈ requests, request.Lexical

variable {grammar : String} {request : ImportRequest} {requests after : List ImportRequest}

theorem lexical_of_ofStatement {relative : Bool} {path : List String} {names : ImportNames}
    (lexical : (Statement.import relative path names).Lexical)
    (made : ofStatement grammar relative path names = .ok request)
    : request.Lexical := by
  obtain ⟨full, named, lexical⟩ := lexical
  have chars : ∀ name ∈ path, OfNameChars name := fun name member =>
    (named name member).isIdentifier.chars
  unfold ofStatement at made
  extract_lets base last single at made
  have lastNamed : IsIdentifier last := by
    simp only [last, List.getLast?_eq_some_getLast full]
    exact (named _ (List.getLast_mem full)).isIdentifier
  have of_single {newName : Option String}
      (identifier : ∀ given, newName = some given → IsIdentifier given)
      (made : single newName = .ok request)
      : request.Lexical := by
    simp only [single] at made
    split at made
    · cases made
    · cases made
      refine ⟨fun name member => chars name (List.dropLast_subset _ member), ?_⟩
      intro name given member
      cases List.mem_singleton.mp member
      cases newName with
      | none => exact lastNamed
      | some newName => exact identifier newName rfl
  cases names with
  | last => exact of_single (fun _ same => by cases same) made
  | as newName =>
    refine of_single (fun given same => ?_) made
    cases same
    exact lexical.isIdentifier
  | list names =>
    cases made
    refine ⟨chars, fun name given member => ?_⟩
    obtain ⟨_, listed, same⟩ := List.mem_map.mp (Dictionary.mem_of_mem_ofList member)
    cases same
    exact (lexical name listed).isIdentifier

theorem AllLexical.add (known : AllLexical requests) (lexical : request.Lexical)
    (done : add requests request = .ok after)
    : AllLexical after := by
  induction requests generalizing after with
  | nil =>
    cases done
    exact List.forall_mem_singleton.mpr lexical
  | cons first others ih =>
    obtain ⟨head, tail⟩ := List.forall_mem_cons.mp known
    rw [ImportRequest.add] at done
    split at done
    · split at done
      · cases done
        refine List.forall_mem_cons.mpr ⟨⟨head.path, fun name given member => ?_⟩, tail⟩
        rcases Dictionary.mem_of_mem_foldl_insert member with old | new
        · exact head.names name given old
        · exact lexical.names name given new
      · cases done
    · cases rest : ImportRequest.add others request with
      | error error =>
        rw [rest] at done
        cases done
      | ok later =>
        rw [rest] at done
        cases done
        exact List.forall_mem_cons.mpr ⟨head, ih tail rest⟩

theorem allLexical_of_collect {statements : List Statement}
    (lexical : ∀ statement ∈ statements, statement.Lexical)
    (done : collect grammar statements = .ok requests)
    : AllLexical requests := by
  have start : AllLexical [] := nofun
  refine foldlM_preserves (fun statement member before after known step => ?_) start done
  cases statement with
  | «import» relative path names =>
    obtain ⟨request, made, step⟩ := bind_eq_ok.mp step
    exact known.add (lexical_of_ofStatement (lexical _ member) made) step
  | _ =>
    cases step
    exact known

/-- The name of an imported definition is the one that it is asked for under, or its own after the
path. -/
theorem Lexical.keepsNames_rename (lexical : request.Lexical) {outer : Option (String → String)}
    (keeps : KeepsNames outer)
    : KeepsNames (some (request.rename outer)) := by
  intro name named
  have separator : OfNameChars "__" := ofNameChars_underscores
  have path : OfNameChars ("__".intercalate request.path) := by
    intro c member
    rcases mem_toList_intercalate member with between | ⟨part, listed, inside⟩
    · exact separator c between
    · exact lexical.path part listed c inside
  have under {last : String} (chars : OfNameChars last)
      : IsIdentifier ("__".intercalate request.path ++ "__" ++ last) := by
    refine ⟨(path.append separator).append chars, ?_⟩
    simp
  have renamed : IsIdentifier (request.rename none name) := by
    rw [rename]
    cases asked : request.names.get? name with
    | some given => exact lexical.names name given (Dictionary.get?_eq_some_iff.mp asked)
    | none =>
      simp only
      split
      · rename_i rest shape
        have inner : OfNameChars (String.ofList rest) := by
          intro c member
          rw [String.toList_ofList] at member
          exact named.chars c (shape ▸ List.mem_cons_of_mem _ member)
        have lead : OfNameChars "_" := by simp [OfNameChars, isNameChar_underscore]
        refine ⟨((lead.append path).append separator).append inner, ?_⟩
        simp
      · exact under named.chars
  have both : request.rename outer name = outer.getD id (request.rename none name) := by
    cases outer <;> rfl
  rw [Option.getD_some, both]
  exact keeps _ renamed

end ImportRequest

-----------------------------------------------------------------------------------------
-- The names of a draft
-----------------------------------------------------------------------------------------

/-- The names that a grammar can have: a name that is not reserved, or that of an ignored body. -/
inductive OwnName (name : String) : Prop
  | free (identifier : IsIdentifier name) (free : ¬ isReserved name) : OwnName name
  | ignored (number : Nat) (same : name = "__IGNORE_" ++ toString number) : OwnName name

theorem OwnName.isIdentifier {name : String} (own : OwnName name) : IsIdentifier name := by
  cases own with
  | free identifier => exact identifier
  | ignored number same =>
    have letters : ∀ c ∈ "__IGNORE_".toList, Lexeme.continues SymbolKind.terminal.isLetter c :=
      List.all_eq_true.mp rfl
    have mark : OfNameChars "__IGNORE_" := fun c member => ⟨.terminal, letters c member⟩
    refine ⟨same ▸ mark.append (ofNameChars_toString number), ?_⟩
    simp [same]

theorem OwnName.ne_numbered {name : String} (own : OwnName name) (number : Nat)
    : name ≠ "__ANON_" ++ toString number := by
  rintro rfl
  cases own with
  | free _ free => exact free (Terminal.isReserved_numbered number)
  | ignored other same =>
    have chars := congrArg String.toList same
    simp [String.toList_append] at chars

namespace Draft

variable {context : ImportContext} {depth : Nat} {name text : String}
variable {rename : Option (String → String)} {cells : List Body} {draft : Draft}

def OwnsNames (draft : Draft) : Prop :=
  draft.All fun name _ => OwnName name

theorem kept_ownName : Kept fun name _ => OwnName name where
  extended _ own := own
  ignored number _ := .ignored number rfl

theorem OwnsNames.perform {after : Draft} {statement : Statement} (owns : draft.OwnsNames)
    (lexical : statement.Lexical) (keeps : KeepsNames rename)
    (done : draft.perform rename statement = .ok after)
    : after.OwnsNames := by
  have own {kind : SymbolKind} {name : String} (spells : kind.Spells name)
      (free : ¬ isReserved (rename.getD id name))
      : OwnName (rename.getD id name) :=
    .free (keeps name (IsName.isIdentifier ⟨kind, spells⟩)) free
  refine All.perform owns kept_ownName ?_ ?_ done
  · rintro definition (rfl | rfl) meaning _ free
    · exact own lexical free
    · exact own lexical free
  · rintro symbols rfl symbol member meaning _ free
    exact own (lexical symbol member) free

/-- By induction on the depth to which imports are nested. -/
theorem ownsNames_of_ofText [Installation] (keeps : KeepsNames rename)
    (done : ofText context depth name text rename cells = .ok draft)
    : draft.OwnsNames := by
  induction depth generalizing name text rename cells draft with
  | zero => cases done
  | succ depth ih =>
    rw [ofText_succ] at done
    obtain ⟨defined, drafted, done⟩ := bind_eq_ok.mp done
    obtain ⟨-, -, done⟩ := bind_eq_ok.mp done
    obtain ⟨-, -, done⟩ := bind_eq_ok.mp done
    cases done
    obtain ⟨statements, parsed, drafted⟩ := bind_eq_ok.mp drafted
    obtain ⟨requests, collected, drafted⟩ := bind_eq_ok.mp drafted
    obtain ⟨merged, added, performed⟩ := bind_eq_ok.mp drafted
    have lexical := lexical_of_statements parsed
    have asked := ImportRequest.allLexical_of_collect lexical collected
    have nothing : OwnsNames { cells } := by
      intro name meaning member
      cases member
    have start : merged.OwnsNames := by
      refine foldlM_preserves (fun request member before after owns step => ?_) nothing added
      obtain ⟨⟨found, inner⟩, -, step⟩ := bind_eq_ok.mp step
      obtain ⟨imported, read, step⟩ := bind_eq_ok.mp step
      obtain ⟨needed, reduced, step⟩ := bind_eq_ok.mp step
      have others : imported.OwnsNames := ih ((asked request member).keepsNames_rename keeps) read
      exact All.merge owns (others.keep reduced) step
    have owns : defined.OwnsNames := by
      refine foldlM_preserves (fun statement member before after owns step => ?_) start performed
      exact OwnsNames.perform owns (lexical statement member) keeps step
    exact owns

end Draft

theorem ownName_of_mem_terminals [Installation]
    {context : ImportContext} {name text : String} {grammar : Grammar}
    (read : Grammar.read context name text = .ok grammar) {terminal : String} {body : Option Body}
    (listed : (terminal, body) ∈ grammar.terminals)
    : OwnName terminal := by
  obtain ⟨draft, drafted, done⟩ := bind_eq_ok.mp read
  obtain ⟨-, -, done⟩ := bind_eq_ok.mp done
  cases done
  have key : terminal ∈ draft.meanings.entries.map Prod.fst :=
    draft.sublist_terminals.subset (List.mem_map_of_mem listed)
  obtain ⟨⟨known, meaning⟩, member, rfl⟩ := List.mem_map.mp key
  exact Draft.ownsNames_of_ofText keepsNames_none drafted known meaning member

end ReservedWords.Grammar
