import Mathlib.Data.List.TakeWhile
import ReservedWords.Proofs.Dictionary
import ReservedWords.Proofs.Json.Strings
import ReservedWords.Proofs.Outcome

/-!
Reading what is printed. A value made of texts without pairs of surrogates, of arrays and of objects
with distinct names is read back from its indented form, whatever stands behind it, and this form is
plain text.
-/

namespace ReservedWords.Json

open Text (CodeText)

/-- A value in which nothing but texts without pairs stands in arrays and objects, and no object
repeats a name. -/
inductive Textual : Value CodeText → Prop where
  | string {text : CodeText} (unpaired : text.Unpaired) : Textual (.string text)
  | array {items : List (Value CodeText)} (each : ∀ item ∈ items, Textual item)
      : Textual (.array items)
  | object {members : List (CodeText × Value CodeText)} (distinct : (members.map Prod.fst).Nodup)
      (names : ∀ member ∈ members, member.1.Unpaired) (each : ∀ member ∈ members, Textual member.2)
      : Textual (.object members)

theorem Textual.strings {texts : List CodeText} (unpaired : ∀ text ∈ texts, text.Unpaired)
    : Textual (Value.strings texts) := by
  refine .array fun item member => ?_
  obtain ⟨text, present, rfl⟩ := List.mem_map.mp member
  exact .string (unpaired text present)

variable {value first : Value CodeText} {name : CodeText} {items : List (Value CodeText)}
variable {members : List (CodeText × Value CodeText)} {text rest : List Char}
variable {depth outer fuel : Nat}

-----------------------------------------------------------------------------------------
-- The layout
-----------------------------------------------------------------------------------------

/-- A text that starts with the sign that opens a string, an array or an object. -/
def Opens (text : List Char) : Prop :=
  ∃ sign rest, text = sign :: rest ∧ (sign = '"' ∨ sign = '[' ∨ sign = '\x7b')

theorem Opens.append (opens : Opens text) : Opens (text ++ rest) := by
  obtain ⟨sign, later, rfl, known⟩ := opens
  exact ⟨sign, later ++ rest, rfl, known⟩

theorem opens_stringForm (text : CodeText) : Opens (stringForm text) :=
  ⟨'"', _, rfl, .inl rfl⟩

theorem opens_enclose {sign last : Char} {forms : List (List Char)}
    (known : sign = '"' ∨ sign = '[' ∨ sign = '\x7b')
    : Opens (enclose sign last depth forms) := by
  cases forms with
  | nil => exact ⟨sign, [last], rfl, known⟩
  | cons item others => exact ⟨sign, _, rfl, known⟩

theorem Textual.opens (textual : Textual value) : Opens (form depth value) := by
  cases textual with
  | @string text =>
    rw [form]
    exact opens_stringForm text
  | array each =>
    rw [form]
    exact opens_enclose (.inr (.inl rfl))
  | object distinct names each =>
    rw [form]
    exact opens_enclose (.inr (.inr rfl))

theorem skipGap_of_opens (opens : Opens text) : skipGap text = text := by
  obtain ⟨sign, later, rfl, rfl | rfl | rfl⟩ := opens <;> rfl

@[simp]
theorem skipGap_newline_append : skipGap (newline depth ++ text) = skipGap text := by
  have blanks (count : Nat) : skipGap (List.replicate count ' ' ++ text) = skipGap text := by
    induction count with
    | zero => rfl
    | succ count ih => exact ih
  exact blanks (2 * depth)

/-- The items after the first one, each on a line of its own. -/
def later (depth : Nat) (forms : List (List Char)) : List Char :=
  forms.flatMap fun next => ',' :: newline depth ++ next

theorem later_cons {form : List Char} {forms : List (List Char)}
    : later depth (form :: forms) = ',' :: newline depth ++ form ++ later depth forms := by
  simp [later]

theorem enclose_cons {sign last : Char} {form : List Char} {forms : List (List Char)}
    : enclose sign last depth (form :: forms)
      = sign :: newline (depth + 1) ++ (form ++ later (depth + 1) forms)
        ++ (newline depth ++ [last]) := by
  simp [enclose, later]

-----------------------------------------------------------------------------------------
-- Reading it back
-----------------------------------------------------------------------------------------

/-- A value is read back from its form, with a call for every character. -/
def ReadBack (value : Value CodeText) : Prop :=
  ∀ depth fuel rest, (form depth value).length ≤ fuel →
    readValue fuel (form depth value ++ rest) = .ok (value, rest)

theorem readString_stringForm_tail (unpaired : name.Unpaired) (rest : List Char)
    : readString ((stringForm name).tail ++ rest) = .ok (name, rest) := by
  have read := readString_flatMap_stringPoint name rest
  rw [CodeText.joined_eq_self_iff.mpr unpaired] at read
  simpa [stringForm] using read

theorem readBack_string (unpaired : name.Unpaired) : ReadBack (.string name) := by
  intro depth fuel rest enough
  rw [form] at enough ⊢
  obtain ⟨fuel, rfl⟩ : ∃ less, fuel = less + 1 := ⟨fuel - 1, by simp [stringForm] at enough; omega⟩
  have read := readString_stringForm_tail unpaired rest
  rw [stringForm, List.cons_append, List.tail_cons] at read
  rw [stringForm, List.cons_append, List.cons_append, readValue, read]
  rfl

/-- Items are read up to the closing bracket, by induction on those after the first. -/
theorem readItems_forms (head : ReadBack first) (each : ∀ item ∈ items, ReadBack item)
    (signs : ∀ item ∈ items, Opens (form depth item))
    (enough : (form depth first ++ later depth (itemForms depth items)).length < fuel)
    : readItems fuel
        (form depth first ++ later depth (itemForms depth items) ++ (newline outer ++ ']' :: rest))
      = .ok (first :: items, rest) := by
  induction items generalizing first fuel with
  | nil =>
    obtain ⟨fuel, rfl⟩ : ∃ less, fuel = less + 1 := ⟨fuel - 1, by omega⟩
    rw [itemForms, later, List.flatMap_nil, List.append_nil] at enough ⊢
    rw [readItems]
    refine bind_eq_ok.mpr ⟨(first, _), head depth fuel _ (by omega), ?_⟩
    simp only [skipGap_newline_append]
    rfl
  | cons next items ih =>
    obtain ⟨fuel, rfl⟩ : ∃ less, fuel = less + 1 := ⟨fuel - 1, by omega⟩
    rw [itemForms, later_cons] at enough ⊢
    simp only [List.length_append, List.length_cons] at enough
    have others := @ih next fuel (each next List.mem_cons_self)
      (fun item member => each item (List.mem_cons_of_mem _ member))
      (fun item member => signs item (List.mem_cons_of_mem _ member))
      (by simp only [List.length_append]; omega)
    have start {text : List Char} : skipGap (form depth next ++ text) = form depth next ++ text :=
      skipGap_of_opens (signs next List.mem_cons_self).append
    simp only [List.append_assoc, List.cons_append] at others ⊢
    rw [readItems]
    refine bind_eq_ok.mpr ⟨(first, _), head depth fuel _ (by omega), ?_⟩
    have comma {text : List Char} : skipGap (',' :: text) = ',' :: text := rfl
    simp only [comma, skipGap_newline_append, start]
    exact bind_eq_ok.mpr ⟨_, others, rfl⟩

/-- What reading comes to behind a member. -/
def readAfterMember (fuel : Nat) (member : CodeText × Value CodeText) (text : List Char)
    : Except Stop (List (CodeText × Value CodeText) × List Char) :=
  match skipGap text with
  | '\x7d' :: rest => .ok ([member], rest)
  | ',' :: rest => do
    let (members, rest) ← readMembers fuel (skipGap rest)
    return (member :: members, rest)
  | rest => .error (.fault .comma rest.length)

theorem readMembers_form (unpaired : name.Unpaired) (head : ReadBack first)
    (sign : Opens (form depth first)) (enough : (form depth first).length ≤ fuel)
    : readMembers (fuel + 1) (stringForm name ++ ':' :: ' ' :: (form depth first ++ text))
      = readAfterMember fuel (name, first) text := by
  have named := readString_stringForm_tail unpaired (':' :: ' ' :: (form depth first ++ text))
  have start : skipGap (form depth first ++ text) = form depth first ++ text :=
    skipGap_of_opens sign.append
  have colon {text : List Char} : skipGap (':' :: text) = ':' :: text := rfl
  have blank {text : List Char} : skipGap (' ' :: text) = skipGap text := rfl
  rw [stringForm, List.cons_append, List.tail_cons] at named
  rw [stringForm, List.cons_append, List.cons_append, readMembers, named]
  simp only [bind, Except.bind, colon, blank, start, head depth fuel text enough]
  rfl

/-- Members are read up to the closing brace, by induction on those after the first. -/
theorem readMembers_forms (unpaired : name.Unpaired)
    (names : ∀ member ∈ members, member.1.Unpaired) (head : ReadBack first)
    (each : ∀ member ∈ members, ReadBack member.2) (sign : Opens (form depth first))
    (signs : ∀ member ∈ members, Opens (form depth member.2))
    (enough
      : (stringForm name ++ ':' :: ' ' :: form depth first
          ++ later depth (memberForms depth members)).length
        < fuel)
    : readMembers fuel
        (stringForm name ++ ':' :: ' ' :: form depth first ++ later depth (memberForms depth members)
          ++ (newline outer ++ '\x7d' :: rest))
      = .ok ((name, first) :: members, rest) := by
  induction members generalizing name first fuel with
  | nil =>
    obtain ⟨fuel, rfl⟩ : ∃ less, fuel = less + 1 := ⟨fuel - 1, by omega⟩
    rw [memberForms, later, List.flatMap_nil, List.append_nil] at enough ⊢
    simp only [List.length_append, List.length_cons] at enough
    simp only [List.append_assoc, List.cons_append]
    rw [readMembers_form unpaired head sign (by omega), readAfterMember]
    simp only [skipGap_newline_append]
    rfl
  | cons next members ih =>
    obtain ⟨known, value⟩ := next
    obtain ⟨fuel, rfl⟩ : ∃ less, fuel = less + 1 := ⟨fuel - 1, by omega⟩
    rw [memberForms, later_cons] at enough ⊢
    simp only [List.length_append, List.length_cons] at enough
    have others := @ih value known fuel (names _ List.mem_cons_self)
      (fun member inside => names member (List.mem_cons_of_mem _ inside)) (each _ List.mem_cons_self)
      (fun member inside => each member (List.mem_cons_of_mem _ inside)) (signs _ List.mem_cons_self)
      (fun member inside => signs member (List.mem_cons_of_mem _ inside))
      (by simp only [List.length_append, List.length_cons]; omega)
    have start {text : List Char} : skipGap (stringForm known ++ text) = stringForm known ++ text :=
      skipGap_of_opens (opens_stringForm known).append
    have comma {text : List Char} : skipGap (',' :: text) = ',' :: text := rfl
    simp only [List.append_assoc, List.cons_append] at others ⊢
    rw [readMembers_form unpaired head sign (by omega), readAfterMember]
    simp only [comma, skipGap_newline_append, start, others]
    rfl

theorem readValue_array (depth : Nat) {forms : List Char} (opens : Opens forms)
    (read : readItems fuel forms = .ok (items, rest))
    : readValue (fuel + 1) ('[' :: newline depth ++ forms) = .ok (.array items, rest) := by
  rw [List.cons_append, readValue, skipGap_newline_append, skipGap_of_opens opens]
  obtain ⟨sign, later, rfl, rfl | rfl | rfl⟩ := opens <;> exact bind_eq_ok.mpr ⟨_, read, rfl⟩

theorem readValue_object (depth : Nat) {forms : List Char} (opens : Opens forms)
    (distinct : (members.map Prod.fst).Nodup)
    (read : readMembers fuel forms = .ok (members, rest))
    : readValue (fuel + 1) ('\x7b' :: newline depth ++ forms) = .ok (.object members, rest) := by
  have same : lastMembers members = members := Dictionary.foldl_upsert members [] distinct
  rw [List.cons_append, readValue, skipGap_newline_append, skipGap_of_opens opens]
  obtain ⟨sign, later, rfl, rfl | rfl | rfl⟩ := opens <;>
    exact bind_eq_ok.mpr ⟨_, read, by simp only [same]; rfl⟩

theorem readBack_array (opens : ∀ item ∈ items, ∀ depth, Opens (form depth item))
    (each : ∀ item ∈ items, ReadBack item)
    : ReadBack (.array items) := by
  intro depth fuel rest enough
  rw [form] at enough ⊢
  cases items with
  | nil =>
    rw [itemForms, enclose, List.length_cons] at enough
    obtain ⟨fuel, rfl⟩ : ∃ less, fuel = less + 1 := ⟨fuel - 1, by omega⟩
    rfl
  | cons item items =>
    rw [itemForms, enclose_cons] at enough ⊢
    simp only [List.length_append, List.length_cons] at enough
    obtain ⟨fuel, rfl⟩ : ∃ less, fuel = less + 1 := ⟨fuel - 1, by omega⟩
    obtain ⟨first, others⟩ := List.forall_mem_cons.mp each
    obtain ⟨sign, signs⟩ := List.forall_mem_cons.mp opens
    have read
        : readItems fuel
            (form (depth + 1) item ++ later (depth + 1) (itemForms (depth + 1) items)
              ++ (newline depth ++ ']' :: rest))
          = .ok (item :: items, rest) :=
      readItems_forms first others (fun later member => signs later member (depth + 1))
        (by simp only [List.length_append]; omega)
    have whole := readValue_array (depth + 1) (sign (depth + 1)).append.append read
    simpa only [List.append_assoc, List.cons_append, List.nil_append] using whole

theorem readBack_object (distinct : (members.map Prod.fst).Nodup)
    (names : ∀ member ∈ members, member.1.Unpaired)
    (opens : ∀ member ∈ members, ∀ depth, Opens (form depth member.2))
    (each : ∀ member ∈ members, ReadBack member.2)
    : ReadBack (.object members) := by
  intro depth fuel rest enough
  rw [form] at enough ⊢
  cases members with
  | nil =>
    rw [memberForms, enclose, List.length_cons] at enough
    obtain ⟨fuel, rfl⟩ : ∃ less, fuel = less + 1 := ⟨fuel - 1, by omega⟩
    rfl
  | cons member members =>
    obtain ⟨name, value⟩ := member
    rw [memberForms, enclose_cons] at enough ⊢
    simp only [List.length_append, List.length_cons] at enough
    obtain ⟨fuel, rfl⟩ : ∃ less, fuel = less + 1 := ⟨fuel - 1, by omega⟩
    obtain ⟨first, others⟩ := List.forall_mem_cons.mp each
    obtain ⟨sign, signs⟩ := List.forall_mem_cons.mp opens
    obtain ⟨unpaired, otherNames⟩ := List.forall_mem_cons.mp names
    have read
        : readMembers fuel
            (stringForm name ++ ':' :: ' ' :: form (depth + 1) value
              ++ later (depth + 1) (memberForms (depth + 1) members)
              ++ (newline depth ++ '\x7d' :: rest))
          = .ok ((name, value) :: members, rest) :=
      readMembers_forms unpaired otherNames first others (sign (depth + 1))
        (fun later member => signs later member (depth + 1))
        (by simp only [List.length_append, List.length_cons]; omega)
    have whole :=
      readValue_object (depth + 1) (opens_stringForm name).append.append.append distinct read
    simpa only [List.append_assoc, List.cons_append, List.nil_append] using whole

/-- A value of texts, arrays and objects is read back, by induction on it. -/
theorem Textual.readBack (textual : Textual value) : ReadBack value := by
  induction textual with
  | string unpaired => exact readBack_string unpaired
  | array each ih => exact readBack_array (fun item member _ => (each item member).opens) ih
  | object distinct names each ih =>
    exact readBack_object distinct names (fun member inside _ => (each member inside).opens) ih

/-- A whole text is read if nothing but blanks follows the form of a value. -/
theorem Textual.read_print (textual : Textual value) {gap : String}
    (blank : ∀ c ∈ gap.toList, isGap c)
    : read (print value ++ gap) = .ok value := by
  have opens : Opens (form 0 value ++ gap.toList) := textual.opens.append
  have noMark : (form 0 value ++ gap.toList).head? ≠ some '\ufeff' := by
    obtain ⟨sign, later, same, rfl | rfl | rfl⟩ := opens <;> simp [same]
  have value_read := textual.readBack 0 (2 * (form 0 value ++ gap.toList).length + 2) gap.toList
    (by rw [List.length_append]; omega)
  have ended : skipGap gap.toList = [] := List.dropWhile_eq_nil_iff.mpr blank
  have whole : readText (form 0 value ++ gap.toList) = .ok value := by
    rw [readText, if_neg noMark, skipGap_of_opens opens]
    refine bind_eq_ok.mpr ⟨(value, gap.toList), value_read, ?_⟩
    simp only [ended]
    rfl
  rw [read, print, String.toList_append, String.toList_ofList, whole]

-----------------------------------------------------------------------------------------
-- Plain text
-----------------------------------------------------------------------------------------

theorem isPlain_newline (depth : Nat) : IsPlain (newline depth) := by
  intro c member
  rcases List.mem_cons.mp member with rfl | blank
  · exact .inl rfl
  · rw [List.eq_of_mem_replicate blank]
    exact .inr (by decide)

theorem isPlain_enclose {sign last : Char} {forms : List (List Char)}
    (signs : IsPlain [sign, last]) (each : ∀ form ∈ forms, IsPlain form)
    : IsPlain (enclose sign last depth forms) := by
  have single {c : Char} (member : c ∈ [sign, last]) : IsPlain [c] := by
    intro other same
    rw [List.mem_singleton.mp same]
    exact signs c member
  cases forms with
  | nil => exact signs
  | cons item others =>
    obtain ⟨first, others⟩ := List.forall_mem_cons.mp each
    have line := isPlain_newline (depth + 1)
    have comma : IsPlain [','] := .of_all rfl
    refine ((((single (by simp)).append line).append first).append ?_ |>.append
      (isPlain_newline depth)).append (single (by simp))
    exact .flatMap fun next member => (comma.append line).append (others next member)

theorem mem_itemForms {forms : List Char}
    : forms ∈ itemForms depth items ↔ ∃ item ∈ items, forms = form depth item := by
  induction items with
  | nil => simp [itemForms]
  | cons item items ih => simp [itemForms, ih]

theorem mem_memberForms {forms : List Char}
    : forms ∈ memberForms depth members
      ↔ ∃ member ∈ members, forms = stringForm member.1 ++ ':' :: ' ' :: form depth member.2 := by
  induction members with
  | nil => simp [memberForms]
  | cons member members ih => simp [memberForms, ih]

/-- The form of a value of texts, arrays and objects is plain text, by induction on the value. -/
theorem Textual.isPlain (textual : Textual value) : IsPlain (form depth value) := by
  induction textual generalizing depth with
  | @string text =>
    rw [form]
    exact isPlain_stringForm text
  | array each ih =>
    rw [form]
    refine isPlain_enclose (.of_all rfl) fun forms member => ?_
    obtain ⟨item, inside, rfl⟩ := mem_itemForms.mp member
    exact ih item inside
  | object distinct names each ih =>
    rw [form]
    refine isPlain_enclose (.of_all rfl) fun forms member => ?_
    obtain ⟨entry, inside, rfl⟩ := mem_memberForms.mp member
    have colon : IsPlain [':', ' '] := .of_all rfl
    exact (isPlain_stringForm entry.1).append (colon.append (ih entry inside))

end ReservedWords.Json
