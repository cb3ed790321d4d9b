import Mathlib.Algebra.Group.Nat.Defs
import Mathlib.Data.List.Basic
import ReservedWords.Json.Printer
import ReservedWords.Json.Reader
import ReservedWords.Proofs.Text.CodePoint
import ReservedWords.Text.Lines

/-!
Quoted strings. What stands for a code point inside a string is printable ASCII and is read back as
the UTF-16 units of the code point, and the units of a text join to the text with its pairs of
surrogates joined. A text and the same text with its pairs joined are therefore written alike.
-/

namespace ReservedWords

-----------------------------------------------------------------------------------------
-- Hexadecimal digits
-----------------------------------------------------------------------------------------

namespace Text

variable {n width : Nat}

theorem hexValue?_hexDigit (small : n < 16) : hexValue? (hexDigit n) = some n := by
  revert n
  decide

theorem printable_hexDigit (small : n < 16)
    : 0x20 ≤ (hexDigit n).toNat ∧ (hexDigit n).toNat < 0x7F := by
  revert n
  decide

theorem hexNumber?_append_singleton (digits : List Char) (c : Char)
    : hexNumber? (digits ++ [c])
      = (hexNumber? digits).bind fun total => (hexValue? c).bind fun digit =>
          some (16 * total + digit) := by
  simp only [hexNumber?, List.foldl_append]
  rfl

/-- The digits of a number are read back, by induction on how many there are. -/
theorem hexNumber?_hexDigits (small : n < 16 ^ width)
    : hexNumber? (hexDigits width n) = some n := by
  induction width generalizing n with
  | zero =>
    obtain rfl : n = 0 := by omega
    rfl
  | succ width ih =>
    have fewer : n / 16 < 16 ^ width := by omega
    have whole : 16 * (n / 16) + n % 16 = n := Nat.div_add_mod n 16
    rw [hexDigits, hexNumber?_append_singleton, ih fewer,
      hexValue?_hexDigit (Nat.mod_lt n (by decide)), Option.bind_some, Option.bind_some, whole]

/-- The digits of a number are printable, by induction on how many there are. -/
theorem printable_of_mem_hexDigits {c : Char} (member : c ∈ hexDigits width n)
    : 0x20 ≤ c.toNat ∧ c.toNat < 0x7F := by
  induction width generalizing n with
  | zero => cases member
  | succ width ih =>
    rcases List.mem_append.mp member with earlier | last
    · exact ih earlier
    · rw [List.mem_singleton.mp last]
      exact printable_hexDigit (Nat.mod_lt n (by decide))

end Text

namespace Json

open Text (CodePoint CodeText hexNumber? hexDigits)

-----------------------------------------------------------------------------------------
-- Units and escapes
-----------------------------------------------------------------------------------------

variable {c : Char} {point high low : CodePoint} {unit : Nat} {front later text : List Char}
variable {found others : List Nat}

theorem units_of_toNat_lt (small : point.toNat < 0x10000) : units point = [point.toNat] :=
  if_pos small

theorem lt_of_mem_units (member : unit ∈ units point) : unit < 0x10000 := by
  have bound := point.toNat_lt
  rw [units] at member
  split at member
  · rw [List.mem_singleton.mp member]
    assumption
  · rcases List.mem_pair.mp member with first | second <;> omega

/-- The units of a pair are those of its halves. -/
theorem units_paired (first : high.IsHigh) (second : low.IsLow)
    : units (.paired high low) = units high ++ units low := by
  have number := CodePoint.toNat_paired first second
  rw [CodePoint.IsHigh] at first
  rw [CodePoint.IsLow] at second
  have highSmall : high.toNat < 0x10000 := by omega
  have lowSmall : low.toNat < 0x10000 := by omega
  have large : ¬ (CodePoint.paired high low).toNat < 0x10000 := by omega
  have highUnit : 0xD800 + ((CodePoint.paired high low).toNat - 0x10000) / 0x400 = high.toNat := by
    omega
  have lowUnit : 0xDC00 + ((CodePoint.paired high low).toNat - 0x10000) % 0x400 = low.toNat := by
    omega
  rw [units_of_toNat_lt highSmall, units_of_toNat_lt lowSmall, units, if_neg large, highUnit, lowUnit,
    List.singleton_append]

/-- The code points that the units of a code point are: itself, or the halves of its pair. -/
def halves (point : CodePoint) : CodeText :=
  (units point).map CodePoint.ofNat

theorem halves_of_toNat_lt (small : point.toNat < 0x10000) : halves point = [point] := by
  rw [halves, units_of_toNat_lt small, List.map_singleton, CodePoint.ofNat_toNat]

/-- A code point beyond those with one unit is the pair of its halves. -/
theorem halves_of_le_toNat (large : 0x10000 ≤ point.toNat)
    : ∃ high low : CodePoint,
        high.IsHigh ∧ low.IsLow ∧ halves point = [high, low] ∧ .paired high low = point := by
  have bound := point.toNat_lt
  have highNumber
      : (CodePoint.ofNat (0xD800 + (point.toNat - 0x10000) / 0x400)).toNat
        = 0xD800 + (point.toNat - 0x10000) / 0x400 :=
    CodePoint.toNat_ofNat (by omega)
  have lowNumber
      : (CodePoint.ofNat (0xDC00 + (point.toNat - 0x10000) % 0x400)).toNat
        = 0xDC00 + (point.toNat - 0x10000) % 0x400 :=
    CodePoint.toNat_ofNat (by omega)
  have first : (CodePoint.ofNat (0xD800 + (point.toNat - 0x10000) / 0x400)).IsHigh := by
    rw [CodePoint.IsHigh, highNumber]
    omega
  have second : (CodePoint.ofNat (0xDC00 + (point.toNat - 0x10000) % 0x400)).IsLow := by
    rw [CodePoint.IsLow, lowNumber]
    omega
  refine ⟨_, _, first, second, ?_, ?_⟩
  · rw [halves, units, if_neg (by omega)]
    rfl
  · apply CodePoint.toNat_injective
    rw [CodePoint.toNat_paired first second, highNumber, lowNumber]
    omega

/-- The halves of a first code point are joined to it again, unless it is a first half itself and the
second one comes next. -/
theorem joined_halves_append {rest : CodeText}
    (apart : ∀ next ∈ rest.head?, ¬(point.IsHigh ∧ next.IsLow))
    : (halves point ++ rest).joined = point :: rest.joined := by
  rcases Nat.lt_or_ge point.toNat 0x10000 with small | large
  · rw [halves_of_toNat_lt small]
    cases rest with
    | nil => rfl
    | cons next rest =>
      rw [List.singleton_append, CodeText.joined, if_neg (apart next rfl)]
  · obtain ⟨high, low, first, second, same, whole⟩ := halves_of_le_toNat large
    rw [same, List.cons_append, List.singleton_append, CodeText.joined, if_pos ⟨first, second⟩, whole]

/-- A second half that comes first among halves is a code point of its own. -/
theorem isLow_of_head?_halves {rest : CodeText} {next : CodePoint}
    (first : (halves point ++ rest).head? = some next) (half : next.IsLow)
    : point.IsLow := by
  rcases Nat.lt_or_ge point.toNat 0x10000 with small | large
  · rw [halves_of_toNat_lt small] at first
    cases first
    exact half
  · obtain ⟨high, low, above, -, same, -⟩ := halves_of_le_toNat large
    rw [same] at first
    cases first
    rw [CodePoint.IsHigh] at above
    rw [CodePoint.IsLow] at half
    omega

/-- The units of a text join to the text with its pairs joined, by induction on the text. -/
theorem joinUnits_flatMap_units (text : CodeText)
    : joinUnits (text.flatMap units) = text.joined := by
  rw [joinUnits, List.map_flatMap]
  change CodeText.joined (text.flatMap halves) = text.joined
  fun_induction CodeText.joined text with
  | case1 => rfl
  | case2 point =>
    have alone : (halves point ++ []).joined = [point] := by
      apply joined_halves_append
      intro next first
      cases first
    exact alone
  | case3 high low rest pair ih =>
    have below := pair.1.2
    have under := pair.2.2
    rw [List.flatMap_cons, List.flatMap_cons, halves_of_toNat_lt (by omega),
      halves_of_toNat_lt (by omega), List.singleton_append, List.singleton_append, CodeText.joined,
      if_pos pair, ih]
  | case4 high low rest apart ih =>
    rw [List.flatMap_cons, joined_halves_append, ih]
    intro next first pair
    exact apart ⟨pair.1, isLow_of_head?_halves first pair.2⟩

/-- A front of a string's content is read as the given units, whatever comes after it. The content
goes on after it, with the closing quote if with nothing else. -/
def Reads (front : List Char) (found : List Nat) : Prop :=
  ∀ whole rest, rest ≠ [] →
    readUnits whole (front ++ rest)
    = (readUnits whole rest).map fun more => (found ++ more.1, more.2)

namespace Reads

theorem nil : Reads [] [] := by
  intro whole rest _
  rw [List.nil_append]
  cases readUnits whole rest <;> rfl

theorem append (first : Reads front found) (second : Reads later others)
    : Reads (front ++ later) (found ++ others) := by
  intro whole rest more
  rw [List.append_assoc, first whole (later ++ rest) (by simp [more]), second whole rest more]
  cases readUnits whole rest with
  | error stop => rfl
  | ok after => simp [Except.map]

/-- What is read for each item in turn is read for all of them, by induction on them. -/
theorem flatMap {α : Type} {text : α → List Char} {meaning : α → List Nat} {items : List α}
    (each : ∀ item ∈ items, Reads (text item) (meaning item))
    : Reads (items.flatMap text) (items.flatMap meaning) := by
  induction items with
  | nil => exact nil
  | cons item rest ih =>
    exact (each item List.mem_cons_self).append
      (ih fun later member => each later (List.mem_cons_of_mem _ member))

theorem plain (unquoted : c ≠ '"') (unescaped : c ≠ '\\') (printable : 0x20 ≤ c.toNat)
    : Reads [c] [c.toNat] := by
  intro whole rest _
  rw [List.singleton_append, readUnits.eq_def]
  simp only [if_neg unquoted, if_neg unescaped, if_neg (Nat.not_lt.mpr printable)]
  rfl

theorem simple {mark : Char} (escape : simpleEscape? mark = some c)
    : Reads ['\\', mark] [c.toNat] := by
  -- Without this the reader may take the mark for that of a unit.
  have other : mark ≠ 'u' := by
    rintro rfl
    cases escape
  intro whole rest _
  rw [List.cons_append, List.singleton_append, readUnits.eq_def]
  simp only [if_neg (show '\\' ≠ '"' by decide), if_pos, escape]
  rfl

theorem unitEscape (small : unit < 0x10000) : Reads (unitEscape unit) [unit] := by
  intro whole rest more
  obtain ⟨next, after, rfl⟩ := List.exists_cons_of_ne_nil more
  have digits
      : hexDigits 4 unit
        = [Text.hexDigit (unit / 16 / 16 / 16 % 16), Text.hexDigit (unit / 16 / 16 % 16),
            Text.hexDigit (unit / 16 % 16), Text.hexDigit (unit % 16)] :=
    rfl
  have number : Text.hexNumber? (hexDigits 4 unit) = some unit := Text.hexNumber?_hexDigits small
  rw [Json.unitEscape, readUnits.eq_def]
  rw [digits] at number ⊢
  simp [number]
  rfl

end Reads

/-- An escape of one letter is printable, and so far down is what it stands for. -/
theorem lt_of_simpleEscape {mark : Char} (escape : simpleEscape? mark = some c)
    : 0x20 ≤ mark.toNat ∧ mark.toNat < 0x7F ∧ c.toNat < 0x7F := by
  rw [simpleEscape?] at escape
  split_ifs at escape with same backspace feed newline carriage tab <;> cases escape
  · rcases same with rfl | rfl | rfl <;> decide
  · subst backspace
    decide
  · subst feed
    decide
  · subst newline
    decide
  · subst carriage
    decide
  · subst tab
    decide

/-- A short form is an escape of one letter, or the character itself. -/
theorem shortForm?_cases {form : List Char} (short : shortForm? c = some form)
    : (∃ mark, form = ['\\', mark] ∧ simpleEscape? mark = some c)
      ∨ form = [c] ∧ c ≠ '"' ∧ c ≠ '\\' ∧ 0x20 ≤ c.toNat ∧ c.toNat < 0x7F := by
  rw [shortForm?] at short
  split_ifs at short with quoted newline carriage tab feed backspace printable <;> cases short
  · rcases quoted with rfl | rfl <;> exact .inl ⟨_, rfl, rfl⟩
  · exact .inl ⟨'n', rfl, newline ▸ rfl⟩
  · exact .inl ⟨'r', rfl, carriage ▸ rfl⟩
  · exact .inl ⟨'t', rfl, tab ▸ rfl⟩
  · exact .inl ⟨'f', rfl, feed ▸ rfl⟩
  · exact .inl ⟨'b', rfl, backspace ▸ rfl⟩
  · rw [not_or] at quoted
    exact .inr ⟨rfl, quoted.1, quoted.2, printable⟩

theorem toNat_lt_of_shortForm {form : List Char} (short : shortForm? c = some form)
    : c.toNat < 0x7F := by
  rcases shortForm?_cases short with ⟨mark, -, escape⟩ | ⟨-, -, -, -, small⟩
  · exact (lt_of_simpleEscape escape).2.2
  · exact small

theorem reads_shortForm {form : List Char} (short : shortForm? c = some form)
    : Reads form (units (.char c)) := by
  have small : (CodePoint.char c).toNat < 0x10000 :=
    Nat.lt_trans (toNat_lt_of_shortForm short) (by decide)
  rw [units_of_toNat_lt small]
  rcases shortForm?_cases short with ⟨mark, rfl, escape⟩ | ⟨rfl, unquoted, unescaped, printable, -⟩
  · exact .simple escape
  · exact .plain unquoted unescaped printable

/-- What stands for a code point is its short form, or the escapes of its units. -/
theorem stringPoint_cases (point : CodePoint)
    : (∃ c, point = .char c ∧ shortForm? c = some (stringPoint point))
      ∨ stringPoint point = (units point).flatMap unitEscape := by
  rw [stringPoint]
  split
  · rename_i form found
    obtain ⟨c, same, short⟩ := Option.bind_eq_some_iff.mp found
    cases point with
    | char c =>
      cases same
      exact .inl ⟨c, rfl, short⟩
    | surrogate index => cases same
  · exact .inr rfl

/-- What stands for a code point is read as its units. -/
theorem reads_stringPoint (point : CodePoint) : Reads (stringPoint point) (units point) := by
  rcases stringPoint_cases point with ⟨c, rfl, short⟩ | same
  · exact reads_shortForm short
  · have each : Reads ((units point).flatMap unitEscape) ((units point).flatMap fun unit => [unit]) :=
      .flatMap fun unit member => .unitEscape (lt_of_mem_units member)
    rw [List.flatMap_singleton'] at each
    rwa [same]

/-- A quoted text is read back up to its closing quote, with its pairs joined. -/
theorem readString_flatMap_stringPoint (text : CodeText) (rest : List Char)
    : readString (text.flatMap stringPoint ++ '"' :: rest) = .ok (text.joined, rest) := by
  have read : Reads (text.flatMap stringPoint) (text.flatMap units) :=
    .flatMap fun point _ => reads_stringPoint point
  rw [readString, read _ ('"' :: rest) (List.cons_ne_nil _ _), readUnits.eq_def]
  simp only [if_pos, Except.map, List.append_nil]
  simp [joinUnits_flatMap_units]

-----------------------------------------------------------------------------------------
-- Pairs
-----------------------------------------------------------------------------------------

theorem stringPoint_of_le_toNat (large : 0x7F ≤ point.toNat)
    : stringPoint point = (units point).flatMap unitEscape := by
  rcases stringPoint_cases point with ⟨c, rfl, short⟩ | same
  · have small := toNat_lt_of_shortForm short
    rw [CodePoint.toNat] at large
    omega
  · exact same

/-- A pair is written as its halves are. -/
theorem stringPoint_paired (first : high.IsHigh) (second : low.IsLow)
    : stringPoint (.paired high low) = stringPoint high ++ stringPoint low := by
  have number := CodePoint.toNat_paired first second
  have above := first.1
  have below := second.1
  rw [stringPoint_of_le_toNat (by omega), stringPoint_of_le_toNat (by omega),
    stringPoint_of_le_toNat (by omega), units_paired first second, List.flatMap_append]

/-- A text is read back with its pairs joined, and joining them again changes nothing. -/
theorem joined_joined (text : CodeText) : text.joined.joined = text.joined := by
  rw [← joinUnits_flatMap_units text.joined,
    CodeText.flatMap_joined fun _ _ first second => units_paired first second,
    joinUnits_flatMap_units]

/-- A text is written as it is with its pairs joined. -/
theorem stringForm_joined (text : CodeText) : stringForm text.joined = stringForm text := by
  rw [stringForm, stringForm,
    CodeText.flatMap_joined fun _ _ first second => stringPoint_paired first second]

-----------------------------------------------------------------------------------------
-- Plain text
-----------------------------------------------------------------------------------------

/-- A text of nothing but line feeds and printable ASCII. -/
def IsPlain (text : List Char) : Prop :=
  ∀ c ∈ text, c = '\n' ∨ 0x20 ≤ c.toNat ∧ c.toNat < 0x7F

namespace IsPlain

theorem of_all (all : text.all fun c => c = '\n' ∨ 0x20 ≤ c.toNat ∧ c.toNat < 0x7F)
    : IsPlain text := by
  simpa [IsPlain] using all

theorem singleton (printable : 0x20 ≤ c.toNat ∧ c.toNat < 0x7F) : IsPlain [c] := by
  intro other member
  rw [List.mem_singleton.mp member]
  exact .inr printable

theorem append (first : IsPlain front) (second : IsPlain later) : IsPlain (front ++ later) :=
  fun c member => (List.mem_append.mp member).elim (first c) (second c)

theorem flatMap {α : Type} {form : α → List Char} {items : List α}
    (each : ∀ item ∈ items, IsPlain (form item))
    : IsPlain (items.flatMap form) := by
  intro c member
  obtain ⟨item, present, inside⟩ := List.mem_flatMap.mp member
  exact each item present c inside

theorem toNat_lt (plain : IsPlain text) (member : c ∈ text) : c.toNat < 0x80 := by
  rcases plain c member with rfl | ⟨-, small⟩
  · decide
  · omega

/-- Such a text is read as it is written: no character in it is a carriage return. -/
theorem normalizeNewlines_eq (plain : IsPlain text) : Text.normalizeNewlines text = text := by
  induction text with
  | nil => rfl
  | cons c rest ih =>
    have other : c ≠ '\r' := by
      rintro rfl
      simpa using plain '\r' List.mem_cons_self
    have later := ih fun c member => plain c (List.mem_cons_of_mem _ member)
    rw [Text.normalizeNewlines, if_neg other, later]
    exact fun _ same => absurd same other

end IsPlain

theorem isPlain_unitEscape : IsPlain (unitEscape unit) :=
  have mark : IsPlain ['\\', 'u'] := .of_all rfl
  have digits : IsPlain (hexDigits 4 unit) :=
    fun _ member => .inr (Text.printable_of_mem_hexDigits member)
  mark.append digits

theorem isPlain_shortForm {form : List Char} (short : shortForm? c = some form) : IsPlain form := by
  rcases shortForm?_cases short with ⟨mark, rfl, escape⟩ | ⟨rfl, -, -, printable⟩
  · have slash : IsPlain ['\\'] := .of_all rfl
    obtain ⟨low, high, -⟩ := lt_of_simpleEscape escape
    exact slash.append (.singleton ⟨low, high⟩)
  · exact .singleton printable

theorem isPlain_stringPoint (point : CodePoint) : IsPlain (stringPoint point) := by
  rcases stringPoint_cases point with ⟨c, rfl, short⟩ | same
  · exact isPlain_shortForm short
  · rw [same]
    exact .flatMap fun _ _ => isPlain_unitEscape

theorem isPlain_stringForm (text : CodeText) : IsPlain (stringForm text) :=
  have quote : IsPlain ['"'] := .of_all rfl
  .append (quote.append (.flatMap fun point _ => isPlain_stringPoint point)) quote

end Json

end ReservedWords
