import Mathlib.Data.List.TakeWhile
import ReservedWords.Json.Reader
import ReservedWords.Proofs.Outcome

/-!
What a reader leaves. Whatever is read stands at the front of a text, and the end of the text is left;
so an integer with too many digits is only met in a text with a run of that many.
-/

namespace ReservedWords.Json

variable {α β : Type} {text rest : List Char} {c : Char}

/-- A text with more digits in a row than an integer that is converted may have. -/
def HasLongRun (text : List Char) : Prop :=
  ∃ front digits back,
    text = front ++ digits ++ back ∧ (∀ c ∈ digits, isDigit c) ∧ integerDigits < digits.length

theorem HasLongRun.of_suffix (long : HasLongRun rest) (tail : rest <:+ text) : HasLongRun text := by
  obtain ⟨front, digits, back, rfl, all, many⟩ := long
  obtain ⟨before, rfl⟩ := tail
  exact ⟨before ++ front, digits, back, by simp only [List.append_assoc], all, many⟩

/-- A reading that starts at a text, leaves an end of the text, and meets too long an integer only in
a long run of digits. -/
structure Continues (text : List Char) (outcome : Except Stop (α × List Char)) : Prop where
  rest : ∀ value rest, outcome = .ok (value, rest) → rest <:+ text
  long : outcome = .error .longInteger → HasLongRun text

namespace Continues

variable {first : Except Stop (α × List Char)} {next : α × List Char → Except Stop (β × List Char)}

theorem ok {value : α} (tail : rest <:+ text) : Continues text (.ok (value, rest)) :=
  ⟨fun _ _ same => by cases same; exact tail, nofun⟩

theorem pure {value : α} (tail : rest <:+ text)
    : Continues text (Pure.pure (value, rest) : Except Stop (α × List Char)) :=
  ok tail

theorem fault {cause : Cause} {remaining : Nat}
    : Continues text (.error (.fault cause remaining) : Except Stop (α × List Char)) :=
  ⟨nofun, nofun⟩

theorem mono (continues : Continues rest first) (tail : rest <:+ text) : Continues text first :=
  ⟨fun value left same => (continues.rest value left same).trans tail,
    fun long => (continues.long long).of_suffix tail⟩

theorem bind (start : Continues text first) (later : ∀ value rest, Continues rest (next (value, rest)))
    : Continues text (first >>= next) := by
  cases first with
  | error stop =>
    refine ⟨nofun, fun long => start.long ?_⟩
    cases long
    rfl
  | ok found =>
    obtain ⟨value, rest⟩ := found
    exact (later value rest).mono (start.rest value rest rfl)

end Continues

theorem skipGap_suffix (text : List Char) : skipGap text <:+ text :=
  List.dropWhile_suffix _

theorem suffix_of_skipGap (same : skipGap text = c :: rest) : rest <:+ text :=
  (List.suffix_cons c rest).trans (same ▸ skipGap_suffix text)

-----------------------------------------------------------------------------------------
-- Strings, words and numbers
-----------------------------------------------------------------------------------------

/-- The units of a string are read from its front, by induction on the text. -/
theorem continues_readUnits (whole : Nat) (text : List Char)
    : Continues text (readUnits whole text) := by
  have behind (front rest : List Char) : rest <:+ front ++ rest := List.suffix_append front rest
  fun_induction readUnits whole text with
  | case1 | case3 | case5 | case6 | case8 | case9 => exact .fault
  | case2 rest => exact .ok (behind ['"'] rest)
  | case4 a b c d next rest unit _ _ ih =>
    refine (ih.mono (behind ['\\', 'u', a, b, c, d] (next :: rest))).bind fun units after => ?_
    exact .pure (List.suffix_refl after)
  | case7 e rest _ unit _ _ ih =>
    exact (ih.mono (behind ['\\', e] rest)).bind fun units after => .pure (List.suffix_refl after)
  | case10 c rest _ _ _ ih =>
    exact (ih.mono (behind [c] rest)).bind fun units after => .pure (List.suffix_refl after)

theorem continues_readString (text : List Char) : Continues text (readString text) :=
  (continues_readUnits _ text).bind fun _ after => .pure (List.suffix_refl after)

/-- A word is read from the front of a text, by induction on the word. -/
theorem afterWord?_suffix {word : List Char} (found : afterWord? word text = some rest)
    : rest <:+ text := by
  induction word generalizing text with
  | nil =>
    cases found
    exact List.suffix_refl _
  | cons w word ih =>
    cases text with
    | nil => cases found
    | cons c text =>
      rw [afterWord?] at found
      split at found
      · exact (ih found).trans (List.suffix_cons c text)
      · cases found

theorem readWord?_suffix {value : Value Text.CodeText} (found : readWord? text = some (value, rest))
    : rest <:+ text := by
  obtain ⟨⟨word, meaning⟩, -, matched⟩ := List.exists_of_findSome?_eq_some found
  obtain ⟨left, after, same⟩ := Option.map_eq_some_iff.mp matched
  cases same
  exact afterWord?_suffix after

theorem readFraction_suffix (text : List Char) : (readFraction text).2 <:+ text := by
  rw [readFraction.eq_def]
  split
  · split
    · exact ((List.dropWhile_suffix _).trans (List.suffix_cons _ _)).trans (List.suffix_cons _ _)
    · exact List.suffix_refl _
  · exact List.suffix_refl _

theorem readExponent_suffix (text : List Char) : (readExponent text).2 <:+ text := by
  fun_cases readExponent text with
  | case1 | case3 | case4 => exact List.suffix_refl _
  | case2 mark rest _ sign digits signed =>
    have tail : digits <:+ rest := by
      split at signed <;> cases signed
      · exact List.suffix_cons _ _
      · exact List.suffix_cons _ _
      · exact List.suffix_refl _
    exact ((List.dropWhile_suffix _).trans tail).trans (List.suffix_cons _ _)

/-- The digits of a whole number stand at the front of a text, before what is left. -/
theorem readWhole_eq_some {digits : List Char} (found : readWhole text = some (digits, rest))
    : text = digits ++ rest ∧ ∀ c ∈ digits, isDigit c := by
  rw [readWhole.eq_def] at found
  split at found
  · cases found
    exact ⟨rfl, List.forall_mem_singleton.mpr rfl⟩
  · split at found
    · cases found
    · cases found
      exact ⟨List.takeWhile_append_dropWhile.symm, fun c member => List.mem_takeWhile_imp member⟩

/-- A number is read from the front of a text; only the digits before its point can be too many. -/
theorem continues_readNumber (text : List Char) : Continues text (readNumber text) := by
  unfold readNumber
  split
  rename_i negative digitsOn signed
  have unsigned : digitsOn <:+ text := by
    split at signed <;> cases signed
    · exact List.suffix_cons _ _
    · exact List.suffix_refl _
  dsimp only
  split
  · exact .fault
  · rename_i digits rest found
    obtain ⟨rfl, all⟩ := readWhole_eq_some found
    have first := readFraction_suffix rest
    have second := readExponent_suffix (readFraction rest).2
    have tail := ((second.trans first).trans (List.suffix_append digits rest)).trans unsigned
    split
    · split
      · rename_i many
        exact ⟨nofun, fun _ => .of_suffix ⟨[], digits, rest, rfl, all, many⟩ unsigned⟩
      · exact .ok tail
    · exact .ok tail

-----------------------------------------------------------------------------------------
-- Values
-----------------------------------------------------------------------------------------

section

variable {fuel : Nat}

theorem continues_readValue_succ (items : ∀ text, Continues text (readItems fuel text))
    (members : ∀ text, Continues text (readMembers fuel text)) (text : List Char)
    : Continues text (readValue (fuel + 1) text) := by
  have inside {sign : Char} (rest : List Char) : skipGap rest <:+ sign :: rest :=
    (skipGap_suffix rest).trans (List.suffix_cons _ _)
  rw [readValue.eq_def]
  dsimp only
  split
  · exact ((continues_readString _).mono (List.suffix_cons _ _)).bind fun _ after =>
      .pure (List.suffix_refl after)
  · split
    · rename_i same
      exact .ok ((suffix_of_skipGap same).trans (List.suffix_cons _ _))
    · exact ((items _).mono (inside _)).bind fun _ after => .pure (List.suffix_refl after)
  · split
    · rename_i same
      exact .ok ((suffix_of_skipGap same).trans (List.suffix_cons _ _))
    · exact ((members _).mono (inside _)).bind fun _ after => .pure (List.suffix_refl after)
  · split
    · rename_i found
      exact .ok (readWord?_suffix found)
    · exact continues_readNumber text

theorem continues_readItems_succ (values : ∀ text, Continues text (readValue fuel text))
    (items : ∀ text, Continues text (readItems fuel text)) (text : List Char)
    : Continues text (readItems (fuel + 1) text) := by
  rw [readItems.eq_def]
  refine (values text).bind fun item rest => ?_
  dsimp only
  split
  · rename_i same
    exact .pure (suffix_of_skipGap same)
  · rename_i after same
    have next := (skipGap_suffix after).trans (suffix_of_skipGap same)
    exact ((items _).mono next).bind fun _ left => .pure (List.suffix_refl left)
  · exact .fault

theorem continues_readMembers_succ (values : ∀ text, Continues text (readValue fuel text))
    (members : ∀ text, Continues text (readMembers fuel text)) (text : List Char)
    : Continues text (readMembers (fuel + 1) text) := by
  rw [readMembers.eq_def]
  dsimp only
  split
  · refine ((continues_readString _).mono (List.suffix_cons _ _)).bind fun name rest => ?_
    dsimp only
    split
    · rename_i after same
      have next := (skipGap_suffix after).trans (suffix_of_skipGap same)
      refine ((values _).mono next).bind fun value rest => ?_
      dsimp only
      split
      · rename_i same
        exact .pure (suffix_of_skipGap same)
      · rename_i after same
        have next := (skipGap_suffix after).trans (suffix_of_skipGap same)
        exact ((members _).mono next).bind fun _ left => .pure (List.suffix_refl left)
      · exact .fault
    · exact .fault
  · exact .fault

end

/-- Values, items and members are read from the front of a text, by induction on the depth of the
calls. -/
theorem continues_read (fuel : Nat)
    : (∀ text, Continues text (readValue fuel text))
      ∧ (∀ text, Continues text (readItems fuel text))
      ∧ ∀ text, Continues text (readMembers fuel text) := by
  induction fuel with
  | zero => exact ⟨fun _ => .fault, fun _ => .fault, fun _ => .fault⟩
  | succ fuel ih =>
    obtain ⟨values, items, members⟩ := ih
    exact ⟨continues_readValue_succ items members, continues_readItems_succ values items,
      continues_readMembers_succ values members⟩

/-- A text is refused for too long an integer only if it has more digits in a row than are converted.
-/
theorem hasLongRun_of_read {text : String} (refused : read text = .error .longInteger)
    : HasLongRun text.toList := by
  have stopped : readText text.toList = .error .longInteger := by
    rw [read] at refused
    split at refused
    · cases refused
    · assumption
    · cases refused
  rw [readText] at stopped
  split at stopped
  · cases stopped
  · have value := (continues_read (2 * (skipGap text.toList).length + 2)).1 (skipGap text.toList)
    refine (value.long ?_).of_suffix (skipGap_suffix _)
    cases found : readValue (2 * (skipGap text.toList).length + 2) (skipGap text.toList) with
    | error stop =>
      simp only [found] at stopped
      cases stopped
      rfl
    | ok result =>
      simp only [found] at stopped
      obtain ⟨value, rest⟩ := result
      cases ended : skipGap rest with
      | nil =>
        simp only [bind, Except.bind, ended] at stopped
        cases stopped
      | cons c rest =>
        simp only [bind, Except.bind, ended] at stopped
        cases stopped

end ReservedWords.Json
