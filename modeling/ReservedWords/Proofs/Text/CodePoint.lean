import Mathlib.Data.List.Chain
import ReservedWords.Proofs.Text.Utf8
import ReservedWords.Text.CodePoint

/-!
Pairs of surrogates. A pair is joined to the character that it stands for, and a text is left as it is
if and only if no first half in it has a second one behind it; a text of characters is such a text.
-/

namespace ReservedWords.Text

namespace CodePoint

variable {point high low : CodePoint}

/-- The number of a character is none of those of the surrogates. -/
theorem isCode_toNat_char (c : Char) : IsCode (char c).toNat :=
  Text.isCode_toNat c

theorem ofNat_toNat (point : CodePoint) : ofNat point.toNat = point := by
  cases point with
  | char c =>
    have code := isCode_toNat_char c
    have outside : ¬(0xD800 ≤ (char c).toNat ∧ (char c).toNat < 0xE000) := by
      rw [IsCode] at code
      omega
    rw [ofNat, dif_neg outside, toNat, Char.ofNat_toNat]
  | surrogate index =>
    have inside : 0xD800 ≤ (surrogate index).toNat ∧ (surrogate index).toNat < 0xE000 := by
      rw [toNat]
      omega
    rw [ofNat, dif_pos inside]
    exact congrArg surrogate (Fin.ext (Nat.add_sub_cancel_left 0xD800 index))

theorem toNat_injective : Function.Injective toNat :=
  Function.LeftInverse.injective ofNat_toNat

theorem toNat_lt (point : CodePoint) : point.toNat < 0x110000 := by
  cases point with
  | char c =>
    have code := isCode_toNat_char c
    rw [IsCode] at code
    omega
  | surrogate index =>
    rw [toNat]
    omega

theorem toNat_ofNat {code : Nat} (small : code < 0x110000) : (ofNat code).toNat = code := by
  rw [ofNat]
  split
  · change 0xD800 + (code - 0xD800) = code
    omega
  · rw [toNat]
    apply toNat_ofNat_of_isCode
    rw [IsCode]
    omega

/-- A first half is no character. -/
theorem IsHigh.ne_char (half : point.IsHigh) (c : Char) : point ≠ char c := by
  rintro rfl
  have code := isCode_toNat_char c
  rw [IsHigh] at half
  rw [IsCode] at code
  omega

/-- A pair has a number of its own, beyond those with one unit. -/
theorem toNat_paired (first : high.IsHigh) (second : low.IsLow)
    : (paired high low).toNat
      = 0x10000 + (high.toNat - 0xD800) * 0x400 + (low.toNat - 0xDC00) := by
  rw [IsHigh] at first
  rw [IsLow] at second
  rw [paired, toNat]
  apply toNat_ofNat_of_isCode
  rw [IsCode]
  omega

end CodePoint

namespace CodeText

variable {text : CodeText}

/-- A text without pairs: no first half in it has a second one behind it. -/
def Unpaired (text : CodeText) : Prop :=
  text.IsChain fun first second => ¬(first.IsHigh ∧ second.IsLow)

/-- Joining leaves just the texts without pairs as they are, by induction on the text. -/
theorem joined_eq_self_iff : text.joined = text ↔ text.Unpaired := by
  fun_induction joined text with
  | case1 => simp [Unpaired]
  | case2 point => simp [Unpaired]
  | case3 high low rest pair =>
    have other : CodePoint.paired high low ≠ high := (pair.1.ne_char _).symm
    simp [Unpaired, other, pair]
  | case4 high low rest apart ih =>
    simp only [List.cons.injEq, true_and, ih]
    rw [Unpaired, Unpaired, List.isChain_cons_cons]
    exact ⟨fun chain => ⟨apart, chain⟩, And.right⟩

/-- What is made for each code point of a text is the same after joining if it is the same for a pair
as for its halves, by induction on the text. -/
theorem flatMap_joined {α : Type} {form : CodePoint → List α}
    (alike
      : ∀ high low : CodePoint,
          high.IsHigh → low.IsLow → form (.paired high low) = form high ++ form low)
    : text.joined.flatMap form = text.flatMap form := by
  fun_induction joined text with
  | case1 => rfl
  | case2 point => rfl
  | case3 high low rest pair ih =>
    rw [List.flatMap_cons, alike high low pair.1 pair.2, ih, List.flatMap_cons, List.flatMap_cons,
      List.append_assoc]
  | case4 high low rest apart ih =>
    rw [List.flatMap_cons, ih]
    rfl

end CodeText

theorem codes_injective : Function.Injective codes := by
  intro first second same
  have chars := List.map_injective_iff.mpr (fun _ _ equal => CodePoint.char.inj equal) same
  exact String.toList_inj.mp chars

/-- A text of characters is shown as it is. -/
theorem shown_codes (text : String) : (codes text).shown = text := by
  rw [codes, CodeText.shown, List.map_map]
  change String.ofList (text.toList.map id) = text
  rw [List.map_id, String.ofList_toList]

/-- A text of characters has no pairs. -/
theorem unpaired_codes (text : String) : (codes text).Unpaired := by
  rw [codes, CodeText.Unpaired, List.isChain_map]
  apply List.Pairwise.isChain
  apply List.pairwise_of_forall
  intro first second pair
  exact pair.1.ne_char first rfl

end ReservedWords.Text
