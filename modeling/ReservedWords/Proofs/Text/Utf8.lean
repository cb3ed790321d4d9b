import Mathlib.Data.List.Basic
import ReservedWords.Text.Utf8

/-!
Texts and their bytes. A character has one to four bytes, from which it is read back, so exactly the
byte sequences that write a text are read, and each as the text that it writes.
-/

namespace ReservedWords.Text

-----------------------------------------------------------------------------------------
-- The bytes of a character
-----------------------------------------------------------------------------------------

/-- A number is the code of a character unless it is that of a surrogate or too large. -/
def IsCode (n : Nat) : Prop :=
  n < 0xD800 ∨ 0xDFFF < n ∧ n < 0x110000

theorem isCode_toNat (char : Char) : IsCode char.toNat :=
  char.valid

theorem toNat_ofNat_of_isCode {n : Nat} (code : IsCode n) : (Char.ofNat n).toNat = n := by
  have valid : n.isValidChar := code
  rw [Char.ofNat, dif_pos valid]
  rfl

theorem isTail_iff {byte : UInt8} : isTail byte ↔ 0x80 ≤ byte.toNat ∧ byte.toNat < 0xC0 := by
  simp [isTail, UInt8.le_iff_toNat_le, UInt8.lt_iff_toNat_lt]

theorem isSecond_iff {lead byte : UInt8}
    : isSecond lead byte
      ↔ 0x80 ≤ byte.toNat
        ∧ byte.toNat < 0xC0
        ∧ (lead.toNat = 0xE0 → 0xA0 ≤ byte.toNat)
        ∧ (lead.toNat = 0xED → byte.toNat < 0xA0)
        ∧ (lead.toNat = 0xF0 → 0x90 ≤ byte.toNat)
        ∧ (lead.toNat = 0xF4 → byte.toNat < 0x90) := by
  simp only [isSecond, Bool.and_eq_true, isTail_iff, Bool.not_eq_true', Bool.and_eq_false_iff,
    beq_eq_false_iff_ne, decide_eq_false_iff_not, UInt8.le_iff_toNat_le, UInt8.lt_iff_toNat_lt,
    ne_eq, ← UInt8.toNat_inj, UInt8.reduceToNat]
  omega

section

variable {char : Char} {a b c d : UInt8}

theorem codePoint_eq_iff {lead : Nat} {tails : List UInt8}
    (code : IsCode (tails.foldl (fun code byte => code * 64 + byte.toNat % 64) lead))
    : codePoint lead tails = char
      ↔ char.toNat = tails.foldl (fun code byte => code * 64 + byte.toNat % 64) lead := by
  constructor
  · rintro rfl
    exact toNat_ofNat_of_isCode code
  · intro same
    rw [codePoint, ← same, Char.ofNat_toNat]

theorem encodeChar_eq_one
    : String.utf8EncodeChar char = [a] ↔ a.toNat < 0x80 ∧ codePoint a.toNat [] = char := by
  have numbers : String.utf8EncodeChar char = [a] ↔ a.toNat < 0x80 ∧ char.toNat = a.toNat := by
    have small := a.toNat_lt
    simp only [String.utf8EncodeChar, Char.toNat_val]
    split_ifs <;> simp [← UInt8.toNat_inj] <;> omega
  refine numbers.trans (and_congr_right fun low => ?_)
  exact (@codePoint_eq_iff char a.toNat [] (.inl (Nat.lt_trans low (by decide)))).symm

theorem encodeChar_eq_two
    : String.utf8EncodeChar char = [a, b]
      ↔ (0xC2 ≤ a.toNat ∧ a.toNat < 0xE0)
        ∧ isTail b
        ∧ codePoint (a.toNat % 32) [b] = char := by
  have numbers
      : String.utf8EncodeChar char = [a, b]
        ↔ (0xC2 ≤ a.toNat ∧ a.toNat < 0xE0)
          ∧ isTail b
          ∧ char.toNat = a.toNat % 32 * 64 + b.toNat % 64 := by
    rw [isTail_iff]
    simp only [String.utf8EncodeChar, Char.toNat_val]
    split_ifs <;> simp [← UInt8.toNat_inj] <;> omega
  refine numbers.trans (and_congr_right fun lead => and_congr_right fun tail => ?_)
  refine (@codePoint_eq_iff char (a.toNat % 32) [b] ?_).symm
  simp only [List.foldl_cons, List.foldl_nil, IsCode]
  omega

theorem encodeChar_eq_three
    : String.utf8EncodeChar char = [a, b, c]
      ↔ (0xE0 ≤ a.toNat ∧ a.toNat < 0xF0)
        ∧ isSecond a b
        ∧ isTail c
        ∧ codePoint (a.toNat % 16) [b, c] = char := by
  have numbers
      : String.utf8EncodeChar char = [a, b, c]
        ↔ (0xE0 ≤ a.toNat ∧ a.toNat < 0xF0)
          ∧ isSecond a b
          ∧ isTail c
          ∧ char.toNat = (a.toNat % 16 * 64 + b.toNat % 64) * 64 + c.toNat % 64 := by
    have code := isCode_toNat char
    rw [IsCode] at code
    rw [isSecond_iff, isTail_iff]
    simp only [String.utf8EncodeChar, Char.toNat_val]
    -- One direction at a time, since the arithmetic of both together is slow.
    split_ifs <;> simp [← UInt8.toNat_inj] <;> (try constructor) <;> intros <;> omega
  refine numbers.trans (and_congr_right fun lead => and_congr_right fun second =>
    and_congr_right fun third => ?_)
  refine (@codePoint_eq_iff char (a.toNat % 16) [b, c] ?_).symm
  rw [isSecond_iff] at second
  simp only [List.foldl_cons, List.foldl_nil, IsCode]
  omega

theorem encodeChar_eq_four
    : String.utf8EncodeChar char = [a, b, c, d]
      ↔ (0xF0 ≤ a.toNat ∧ a.toNat < 0xF5)
        ∧ isSecond a b
        ∧ isTail c
        ∧ isTail d
        ∧ codePoint (a.toNat % 8) [b, c, d] = char := by
  have numbers
      : String.utf8EncodeChar char = [a, b, c, d]
        ↔ (0xF0 ≤ a.toNat ∧ a.toNat < 0xF5)
          ∧ isSecond a b
          ∧ isTail c
          ∧ isTail d
          ∧ char.toNat
            = ((a.toNat % 8 * 64 + b.toNat % 64) * 64 + c.toNat % 64) * 64 + d.toNat % 64 := by
    have code := isCode_toNat char
    rw [IsCode] at code
    rw [isSecond_iff, isTail_iff, isTail_iff]
    simp only [String.utf8EncodeChar, Char.toNat_val]
    -- One direction at a time, since the arithmetic of both together is slow.
    split_ifs <;> simp [← UInt8.toNat_inj] <;> (try constructor) <;> intros <;> omega
  refine numbers.trans (and_congr_right fun lead => and_congr_right fun second =>
    and_congr_right fun third => and_congr_right fun fourth => ?_)
  refine (@codePoint_eq_iff char (a.toNat % 8) [b, c, d] ?_).symm
  rw [isSecond_iff] at second
  simp only [List.foldl_cons, List.foldl_nil, IsCode]
  omega

/-- The bytes of a character are one, two, three or four. -/
theorem exists_encodeChar_eq (char : Char)
    : (∃ a, String.utf8EncodeChar char = [a])
      ∨ (∃ a b, String.utf8EncodeChar char = [a, b])
      ∨ (∃ a b c, String.utf8EncodeChar char = [a, b, c])
      ∨ ∃ a b c d, String.utf8EncodeChar char = [a, b, c, d] := by
  rw [String.utf8EncodeChar]
  split_ifs
  · exact .inl ⟨_, rfl⟩
  · exact .inr (.inl ⟨_, _, rfl⟩)
  · exact .inr (.inr (.inl ⟨_, _, _, rfl⟩))
  · exact .inr (.inr (.inr ⟨_, _, _, _, rfl⟩))

-----------------------------------------------------------------------------------------
-- Reading what is written
-----------------------------------------------------------------------------------------

variable {position : Nat} {rest bytes : Bytes} {chars : List Char}

/-- The bytes of a character are read as this character, whatever stands behind them. -/
theorem decodeFrom_append
    : decodeFrom position (String.utf8EncodeChar char ++ rest)
      = (decodeFrom (position + (String.utf8EncodeChar char).length) rest).map (char :: ·) := by
  rcases exists_encodeChar_eq char with
    ⟨a, form⟩ | ⟨a, b, form⟩ | ⟨a, b, c, form⟩ | ⟨a, b, c, d, form⟩
  · obtain ⟨low, same⟩ := encodeChar_eq_one.mp form
    rw [form, decodeFrom.eq_def]
    simp [UInt8.lt_iff_toNat_lt, low, same]
  · obtain ⟨⟨least, most⟩, tail, same⟩ := encodeChar_eq_two.mp form
    have above : ¬ a.toNat < 0x80 ∧ ¬ a.toNat < 0xC2 := by omega
    rw [form, decodeFrom.eq_def]
    simp [UInt8.lt_iff_toNat_lt, above, most, tail, same]
  · obtain ⟨⟨least, most⟩, second, third, same⟩ := encodeChar_eq_three.mp form
    have above : ¬ a.toNat < 0x80 ∧ ¬ a.toNat < 0xC2 ∧ ¬ a.toNat < 0xE0 := by omega
    rw [form, decodeFrom.eq_def]
    simp [UInt8.lt_iff_toNat_lt, above, most, second, third, same]
  · obtain ⟨⟨least, most⟩, second, third, fourth, same⟩ := encodeChar_eq_four.mp form
    have above
        : ¬ a.toNat < 0x80 ∧ ¬ a.toNat < 0xC2 ∧ ¬ a.toNat < 0xE0 ∧ ¬ a.toNat < 0xF0 := by
      omega
    rw [form, decodeFrom.eq_def]
    simp [UInt8.lt_iff_toNat_lt, above, most, second, third, fourth, same]

theorem map_cons_eq_ok {outcome : Except DecodeFault (List Char)}
    : outcome.map (char :: ·) = .ok chars
      ↔ ∃ others, outcome = .ok others ∧ chars = char :: others := by
  cases outcome with
  | error fault => simp [Except.map]
  | ok others => simp [Except.map, eq_comm]

/-- What is read starts with a character whose bytes stand in front. -/
theorem exists_of_decodeFrom_cons (decoded : decodeFrom position (a :: rest) = .ok chars)
    : ∃ char after others,
        a :: rest = String.utf8EncodeChar char ++ after
        ∧ decodeFrom (position + (String.utf8EncodeChar char).length) after = .ok others
        ∧ chars = char :: others := by
  have starts {char : Char} {front after : Bytes} (form : String.utf8EncodeChar char = front)
      (whole : a :: rest = front ++ after)
      (later : (decodeFrom (position + front.length) after).map (char :: ·) = .ok chars)
      : ∃ char after others,
          a :: rest = String.utf8EncodeChar char ++ after
          ∧ decodeFrom (position + (String.utf8EncodeChar char).length) after = .ok others
          ∧ chars = char :: others := by
    obtain ⟨others, remaining, same⟩ := map_cons_eq_ok.mp later
    subst form
    exact ⟨char, after, others, whole, remaining, same⟩
  rw [decodeFrom.eq_def] at decoded
  simp only [UInt8.lt_iff_toNat_lt, UInt8.reduceToNat] at decoded
  split_ifs at decoded with one misplaced two three four
  · exact starts (encodeChar_eq_one.mpr ⟨one, rfl⟩) rfl decoded
  · cases rest with
    | nil => cases decoded
    | cons b rest =>
      dsimp only at decoded
      split_ifs at decoded with tail
      exact starts (encodeChar_eq_two.mpr ⟨⟨by omega, two⟩, tail, rfl⟩) rfl decoded
  · match rest with
    | [] => cases decoded
    | [b] =>
      dsimp only at decoded
      split_ifs at decoded
    | b :: c :: rest =>
      dsimp only at decoded
      split_ifs at decoded with second third
      exact starts (encodeChar_eq_three.mpr ⟨⟨by omega, three⟩, second, third, rfl⟩) rfl decoded
  · match rest with
    | [] => cases decoded
    | [b] =>
      dsimp only at decoded
      split_ifs at decoded
    | [b, c] =>
      dsimp only at decoded
      split_ifs at decoded
    | b :: c :: d :: rest =>
      dsimp only at decoded
      split_ifs at decoded with second third fourth
      have form := encodeChar_eq_four.mpr ⟨⟨by omega, four⟩, second, third, fourth, rfl⟩
      exact starts form rfl decoded

/-- A text is read from its bytes, by induction on its characters. -/
theorem decodeFrom_flatMap
    : decodeFrom position (chars.flatMap String.utf8EncodeChar) = .ok chars := by
  induction chars generalizing position with
  | nil => rfl
  | cons char rest ih =>
    rw [List.flatMap_cons, decodeFrom_append, ih]
    rfl

/-- What is read has been written, by induction on the text that is read. -/
theorem eq_of_decodeFrom (decoded : decodeFrom position bytes = .ok chars)
    : bytes = chars.flatMap String.utf8EncodeChar := by
  induction chars generalizing position bytes with
  | nil =>
    cases bytes with
    | nil => rfl
    | cons a rest =>
      obtain ⟨_, _, _, -, -, same⟩ := exists_of_decodeFrom_cons decoded
      cases same
  | cons char rest ih =>
    cases bytes with
    | nil => cases decoded
    | cons a others =>
      obtain ⟨first, after, later, whole, remaining, same⟩ := exists_of_decodeFrom_cons decoded
      cases same
      rw [whole, List.flatMap_cons, ih remaining]

end

/-- Exactly the bytes that write a text are read as this text. -/
theorem decode_eq_ok_iff {bytes : Bytes} {text : String}
    : decode bytes = .ok text ↔ bytes = encode text := by
  rw [decode, encode]
  constructor
  · intro decoded
    cases read : decodeFrom 0 bytes with
    | error fault =>
      rw [read] at decoded
      cases decoded
    | ok chars =>
      rw [read] at decoded
      cases decoded
      rw [String.toList_ofList, eq_of_decodeFrom read]
  · rintro rfl
    rw [decodeFrom_flatMap, Except.map, String.ofList_toList]

@[simp]
theorem decode_encode (text : String) : decode (encode text) = .ok text :=
  decode_eq_ok_iff.mpr rfl

end ReservedWords.Text
