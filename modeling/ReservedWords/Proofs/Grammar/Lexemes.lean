import ReservedWords.Grammar.Body
import ReservedWords.Grammar.Lexeme

/-!
The texts of names. Only a name in small letters is a lexeme for a rule, and only one in capitals is a
lexeme for a terminal, so the text of a name tells its class.
-/

namespace ReservedWords.Grammar

namespace Lexeme

/-- The characters of a name after its first letter. -/
def continues (isLetter : Char → Bool) (c : Char) : Bool :=
  c = '_' || isLetter c || isNameDigit c

/-- A name in letters of one case, with an underscore or not before the first of them. -/
structure Spells (isLetter : Char → Bool) (text : List Char) (first : Char) (rest : List Char)
    : Prop where
  shape : text = first :: rest ∨ text = '_' :: first :: rest
  letter : isLetter first
  more : ∀ c ∈ rest, continues isLetter c

/-- What is taken as a name is spelled like one. -/
theorem exists_of_afterName {isLetter : Char → Bool} {text after : List Char}
    (found : afterName isLetter text = some after)
    : ∃ name first rest, text = name ++ after ∧ Spells isLetter name first rest := by
  unfold afterName at found
  extract_lets start at found
  have lead : ∃ mark, text = mark ++ start ∧ (mark = [] ∨ mark = ['_']) := by
    by_cases underscore : text.head? = some '_'
    · refine ⟨['_'], ?_, .inr rfl⟩
      obtain ⟨rest, rfl⟩ := List.head?_eq_some_iff.mp underscore
      rfl
    · exact ⟨[], by simp [start, if_neg underscore], .inl rfl⟩
  obtain ⟨mark, same, lead⟩ := lead
  clear_value start
  cases start with
  | nil => cases found
  | cons first rest =>
    simp only at found
    split at found
    · rename_i letter
      cases found
      refine ⟨mark ++ first :: rest.takeWhile (continues isLetter), first,
        rest.takeWhile (continues isLetter), ?_, ?_, letter, List.all_eq_true.mp List.all_takeWhile⟩
      · rw [same, List.append_assoc, List.cons_append]
        exact congrArg (mark ++ first :: ·) List.takeWhile_append_dropWhile.symm
      · rcases lead with rfl | rfl
        · exact .inl rfl
        · exact .inr rfl
    · cases found

end Lexeme

-----------------------------------------------------------------------------------------
-- The two classes of names
-----------------------------------------------------------------------------------------

namespace SymbolKind

variable {kind other : SymbolKind} {name : String} {c : Char}

/-- The letters of the names of a class of symbols. -/
def isLetter : SymbolKind → Char → Bool
  | .rule => Lexeme.isLower
  | .terminal => Lexeme.isUpper

/-- The kind of the lexemes for names of a class of symbols. -/
def lexeme : SymbolKind → LexemeKind
  | .rule => .rule
  | .terminal => .terminal

/-- A name is spelled like those of a class of symbols. -/
def Spells (kind : SymbolKind) (name : String) : Prop :=
  ∃ first rest, Lexeme.Spells kind.isLetter name.toList first rest

theorem ne_underscore (letter : kind.isLetter c) : c ≠ '_' := by
  rintro rfl
  cases kind <;> exact absurd letter (by decide)

theorem eq_of_isLetter (letter : kind.isLetter c) (same : other.isLetter c) : kind = other := by
  have apart : ¬ (Lexeme.isLower c ∧ Lexeme.isUpper c) := by
    simp only [Lexeme.isLower, Lexeme.isUpper, Bool.and_eq_true, decide_eq_true_eq]
    rintro ⟨⟨low, -⟩, -, high⟩
    exact absurd (Char.le_trans low high) (by decide)
  cases kind <;> cases other
  · rfl
  · exact absurd ⟨same, letter⟩ apart
  · exact absurd ⟨letter, same⟩ apart
  · rfl

/-- The spelling of a name tells its class. -/
theorem eq_of_spells (spells : kind.Spells name) (same : other.Spells name) : kind = other := by
  obtain ⟨first, rest, shape, letter, -⟩ := spells
  obtain ⟨second, others, shape', letter', -⟩ := same
  rcases shape with plain | hidden
  · rcases shape' with plain' | hidden'
    · cases plain.symm.trans plain'
      exact eq_of_isLetter letter letter'
    · cases plain.symm.trans hidden'
      exact absurd rfl (ne_underscore letter)
  · rcases shape' with plain' | hidden'
    · cases hidden.symm.trans plain'
      exact absurd rfl (ne_underscore letter')
    · cases hidden.symm.trans hidden'
      exact eq_of_isLetter letter letter'

end SymbolKind

namespace Lexeme

/-- A lexeme for a name is spelled like one of its class. -/
def Sound (lexeme : Lexeme) : Prop :=
  ∀ kind : SymbolKind, lexeme.kind = kind.lexeme → kind.Spells lexeme.text

/-- The only class with the kind of a name is that of such names. -/
theorem afterName_of_first? {kind : SymbolKind} {text after : List Char}
    (found : first? text = some (some kind.lexeme, after))
    : afterName kind.isLetter text = some after := by
  obtain ⟨⟨other, look⟩, member, same⟩ := List.exists_of_findSome?_eq_some found
  obtain ⟨rest, taken, equal⟩ := Option.map_eq_some_iff.mp same
  cases equal
  cases kind <;> simp [classes, SymbolKind.lexeme] at member <;> exact member ▸ taken

theorem spells_of_first? {kind : SymbolKind} {text after : List Char}
    (found : first? text = some (some kind.lexeme, after))
    : kind.Spells (String.ofList (text.take (text.length - after.length))) := by
  obtain ⟨name, first, rest, rfl, spells⟩ := exists_of_afterName (afterName_of_first? found)
  refine ⟨first, rest, ?_⟩
  rw [List.length_append, Nat.add_sub_cancel, List.take_left, String.toList_ofList]
  exact spells

theorem sound_of_ne {lexeme : Lexeme} (other : ∀ kind : SymbolKind, lexeme.kind ≠ kind.lexeme)
    : lexeme.Sound :=
  fun kind same => absurd same (other kind)

theorem sound_unknown {text : String} {line column : Nat} : Sound ⟨.unknown, text, line, column⟩ :=
  sound_of_ne fun kind => by cases kind <;> exact nofun

theorem sound_finish {line column : Nat} : Sound ⟨.finish, "", line, column⟩ :=
  sound_of_ne fun kind => by cases kind <;> exact nofun

/-- By induction on the fuel. -/
theorem sound_of_mem_cut {fuel line column : Nat} {last : Nat × Nat} {text : List Char}
    {lexeme : Lexeme} (member : lexeme ∈ cut fuel line column last text)
    : lexeme.Sound := by
  induction fuel generalizing line column last text with
  | zero => exact List.mem_singleton.mp member ▸ sound_unknown
  | succ fuel ih =>
    rw [cut] at member
    split at member
    · exact List.mem_singleton.mp member ▸ sound_finish
    · split at member
      · exact List.mem_singleton.mp member ▸ sound_unknown
      · rename_i kind rest found
        extract_lets taken at member
        cases kind with
        | none => exact ih member
        | some kind =>
          rcases List.mem_cons.mp member with rfl | later
          · rintro kind rfl
            exact spells_of_first? found
          · exact ih later

theorem sound_of_mem_list {text : List Char} {lexeme : Lexeme} (member : lexeme ∈ list text)
    : lexeme.Sound :=
  sound_of_mem_cut member

end Lexeme

end ReservedWords.Grammar
