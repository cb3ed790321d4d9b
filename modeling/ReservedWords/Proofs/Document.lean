import Mathlib.Data.List.Nodup
import ReservedWords.CommandLine.Program
import ReservedWords.Proofs.Classification.Queries
import ReservedWords.Proofs.Json.Printing

/-!
The document. Its text is plain ASCII and is read as the JSON object of the summary, apart from pairs of
surrogates in images: an escape writes each half of a pair, and the reader joins the halves to the
character that they stand for. So nothing is lost of a summary without pairs, and two summaries have one
text if and only if they are equal once their pairs are joined.
-/

namespace ReservedWords

open Text (CodePoint CodeText codes codes_injective unpaired_codes)

/-- The keyword with the pairs of surrogates in its image joined. -/
def Keyword.joined (keyword : Keyword) : Keyword :=
  { keyword with image := keyword.image.joined }

namespace Classification.Summary

variable {summary : Summary}

/-- The summary with the pairs of surrogates in its images joined. -/
def joined (summary : Summary) : Summary :=
  { summary with keywords := summary.keywords.map Keyword.joined }

/-- A summary without pairs of surrogates in its images. -/
def Unpaired (summary : Summary) : Prop :=
  ∀ keyword ∈ summary.keywords, keyword.image.Unpaired

theorem joined_eq_self_iff : summary.joined = summary ↔ summary.Unpaired := by
  obtain ⟨keywords, whitelist, restricted⟩ := summary
  have each
      : keywords.map Keyword.joined = keywords ↔ ∀ keyword ∈ keywords, keyword.joined = keyword := by
    simpa using List.map_inj_left (l := keywords) (f := Keyword.joined) (g := id)
  have image (keyword : Keyword) : keyword.joined = keyword ↔ keyword.image.Unpaired := by
    obtain ⟨label, image⟩ := keyword
    simp [Keyword.joined, CodeText.joined_eq_self_iff]
  simp only [joined, mk.injEq, and_true, each, image, Unpaired]

theorem unpaired_joined (summary : Summary) : summary.joined.Unpaired := by
  intro keyword member
  obtain ⟨before, -, rfl⟩ := List.mem_map.mp member
  exact CodeText.joined_eq_self_iff.mp (Json.joined_joined before.image)

end Classification.Summary

namespace Document

open Classification (Summary)

variable {summary : Summary}

-----------------------------------------------------------------------------------------
-- The object of a summary
-----------------------------------------------------------------------------------------

theorem textual_keywordValue {keyword : Keyword} (unpaired : keyword.image.Unpaired)
    : Json.Textual (keywordValue keyword) := by
  have distinct : [codes "label", codes "image"].Nodup := by decide
  rw [keywordValue]
  refine .object distinct ?_ ?_
  · simp only [List.forall_mem_cons]
    exact ⟨unpaired_codes _, unpaired_codes _, nofun⟩
  · simp only [List.forall_mem_cons]
    exact ⟨.string (unpaired_codes _), .string unpaired, nofun⟩

theorem textual_labelsValue (labels : List String) : Json.Textual (labelsValue labels) := by
  refine .strings fun text member => ?_
  obtain ⟨label, -, rfl⟩ := List.mem_map.mp member
  exact unpaired_codes label

/-- A summary without pairs whose buckets have distinct names is an object of texts without pairs, of
arrays and of objects. -/
theorem textual_value (unpaired : summary.Unpaired)
    (distinct : (summary.whitelist.map Prod.fst).Nodup)
    : Json.Textual (value summary) := by
  have keywords : Json.Textual (.array (summary.keywords.map keywordValue)) := by
    refine .array fun item member => ?_
    obtain ⟨keyword, present, rfl⟩ := List.mem_map.mp member
    exact textual_keywordValue (unpaired keyword present)
  have whitelist
      : Json.Textual
          (.object (summary.whitelist.map fun bucket => (codes bucket.1, labelsValue bucket.2))) := by
    refine .object ?_ (fun entry member => ?_) fun entry member => ?_
    · have names := List.Nodup.map codes_injective distinct
      rwa [List.map_map] at names ⊢
    · obtain ⟨bucket, -, rfl⟩ := List.mem_map.mp member
      exact unpaired_codes bucket.1
    · obtain ⟨bucket, -, rfl⟩ := List.mem_map.mp member
      exact textual_labelsValue bucket.2
  have members : [codes "keywords", codes "whitelist", codes "restricted"].Nodup := by decide
  rw [value]
  refine .object members ?_ ?_
  · simp only [List.forall_mem_cons]
    exact ⟨unpaired_codes _, unpaired_codes _, unpaired_codes _, nofun⟩
  · simp only [List.forall_mem_cons]
    exact ⟨keywords, whitelist, textual_labelsValue summary.restricted, nofun⟩

theorem keywordValue_injective : Function.Injective keywordValue := by
  rintro ⟨label, image⟩ ⟨otherLabel, otherImage⟩ same
  simp only [keywordValue, Json.Value.object.injEq, List.cons.injEq, Prod.mk.injEq, true_and,
    and_true, Json.Value.string.injEq] at same
  rw [codes_injective same.1, same.2]

theorem labelsValue_injective : Function.Injective labelsValue := by
  intro first second same
  have texts : first.map codes = second.map codes :=
    List.map_injective_iff.mpr (fun _ _ equal => Json.Value.string.inj equal)
      (Json.Value.array.inj same)
  exact List.map_injective_iff.mpr codes_injective texts

/-- Only one summary has a given object. -/
theorem value_injective : Function.Injective value := by
  rintro ⟨keywords, whitelist, restricted⟩ ⟨otherKeywords, otherWhitelist, otherRestricted⟩ same
  simp only [value, Json.Value.object.injEq, List.cons.injEq, Prod.mk.injEq, true_and, and_true,
    Json.Value.array.injEq] at same
  obtain ⟨sameKeywords, sameWhitelist, sameRestricted⟩ := same
  have entry_injective
      : Function.Injective fun bucket : String × List String =>
          (codes bucket.1, labelsValue bucket.2) := by
    intro bucket another equal
    obtain ⟨sameName, sameLabels⟩ := Prod.mk.inj equal
    exact Prod.ext (codes_injective sameName) (labelsValue_injective sameLabels)
  rw [List.map_injective_iff.mpr keywordValue_injective sameKeywords,
    List.map_injective_iff.mpr entry_injective sameWhitelist, labelsValue_injective sameRestricted]

-----------------------------------------------------------------------------------------
-- The form with pairs joined
-----------------------------------------------------------------------------------------

theorem form_keywordValue_joined (keyword : Keyword) (depth : Nat)
    : Json.form depth (keywordValue keyword.joined) = Json.form depth (keywordValue keyword) := by
  simp only [keywordValue, Keyword.joined, Json.form, Json.memberForms, Json.stringForm_joined]

/-- The forms of keywords are the same with their pairs joined, by induction on the keywords. -/
theorem itemForms_joined (keywords : List Keyword) (depth : Nat)
    : Json.itemForms depth ((keywords.map Keyword.joined).map keywordValue)
      = Json.itemForms depth (keywords.map keywordValue) := by
  induction keywords with
  | nil => rfl
  | cons keyword keywords ih =>
    simp only [List.map_cons, Json.itemForms, form_keywordValue_joined, ih]

/-- A summary is written as it is with its pairs joined. -/
theorem print_joined (summary : Summary) : print summary.joined = print summary := by
  simp only [print, Json.print, value, Summary.joined, Json.form, Json.memberForms, itemForms_joined]

end Document

namespace CommandLine.Request

section

variable (classification : Classification)

theorem textual_document : Json.Textual (Document.value classification.summary.joined) :=
  Document.textual_value classification.summary.unpaired_joined <|
    classification.pairwise_lt_whitelist_summary.imp fun before => ne_of_lt before

theorem document_eq_print
    : document classification = Json.print (Document.value classification.summary.joined) ++ "\n" := by
  rw [document, ← Document.print_joined, Document.print]

theorem isPlain_document : Json.IsPlain (document classification).toList := by
  rw [document_eq_print, String.toList_append, Json.print, String.toList_ofList]
  exact (textual_document classification).isPlain.append (.of_all rfl)

theorem read_document
    : Json.read (document classification) = .ok (Document.value classification.summary.joined) := by
  rw [document_eq_print]
  exact (textual_document classification).read_print (List.forall_mem_singleton.mpr rfl)

end

/-- Two classifications have one document if and only if their summaries are equal with the pairs in
their images joined. -/
theorem document_eq_iff {classification other : Classification}
    : document other = document classification
      ↔ other.summary.joined = classification.summary.joined := by
  constructor
  · intro same
    have read := read_document other
    rw [same, read_document classification] at read
    exact (Document.value_injective (Except.ok.inj read)).symm
  · intro same
    rw [document_eq_print, document_eq_print, same]

/-- The document of every classification is ASCII, a file with its bytes is read as the document,
and the JSON in it is the object of the summary with every pair of surrogates in an image joined. So
it is the object of the summary itself if and only if no image has such a pair; two classifications
have one document if and only if their summaries are equal with all pairs joined, and without pairs
just if their summaries are equal. -/
theorem document_joins_pairs (classification : Classification)
    : (∀ c ∈ (document classification).toList, c.toNat < 0x80)
      ∧ (Text.decode (Text.encode (document classification))).map
            (fun text => String.ofList (Text.normalizeNewlines text.toList))
          = .ok (document classification)
      ∧ Json.read (document classification) = .ok (Document.value classification.summary.joined)
      ∧ (Json.read (document classification) = .ok (Document.value classification.summary)
        ↔ classification.summary.Unpaired)
      ∧ ∀ other : Classification,
          (document other = document classification
            ↔ other.summary.joined = classification.summary.joined)
          ∧ (classification.summary.Unpaired
            → other.summary.Unpaired
            → (document other = document classification
              ↔ other.summary = classification.summary)) := by
  have plain := isPlain_document classification
  refine ⟨fun c member => plain.toNat_lt member, ?_, read_document classification, ?_,
    fun other => ⟨document_eq_iff, fun unpaired otherUnpaired => ?_⟩⟩
  · rw [Text.decode_encode, Except.map, plain.normalizeNewlines_eq, String.ofList_toList]
  · rw [read_document, Except.ok.injEq, Document.value_injective.eq_iff,
      Classification.Summary.joined_eq_self_iff]
  · rw [document_eq_iff, Classification.Summary.joined_eq_self_iff.mpr unpaired,
      Classification.Summary.joined_eq_self_iff.mpr otherUnpaired]

-----------------------------------------------------------------------------------------
-- A pair and its character
-----------------------------------------------------------------------------------------

namespace PairedImage

/-- The tables of a grammar with one terminal and no rules. -/
def tables (image : CodeText) : Tables where
  tokens := Dictionary.empty.insert "K_A" (some (.literal "K_A" image))
  productions := Dictionary.empty

/-- The classification with one keyword. -/
def classified (image : CodeText) : Classification where
  keywordTable := Dictionary.empty.insert "K_A" ⟨"K_A", image⟩
  buckets := Dictionary.empty

theorem summary_classified (image : CodeText)
    : (classified image).summary = ⟨[⟨"K_A", image⟩], [], ["K_A"]⟩ :=
  rfl

/-- A letter and both halves of a pair. -/
def halves : CodeText := [.char 'a', .surrogate 0x3D, .surrogate 0x600]

/-- The letter and the character of the pair. -/
def whole : CodeText := [.char 'a', .char '😀']

end PairedImage

open PairedImage in
/-- A literal that writes both halves of a pair by escapes has an image of three code points, but its
document is not read as the object of its summary: it is the document of an image of two. -/
theorem document_of_halves
    : Grammar.Literal.value "a\\ud83d\\ude00".toList = .ok halves
      ∧ Classification.ofTables (tables halves) {} = .ok (classified halves)
      ∧ Classification.ofTables (tables whole) {} = .ok (classified whole)
      ∧ (classified halves).summary ≠ (classified whole).summary
      ∧ document (classified halves) = document (classified whole)
      ∧ Json.read (document (classified halves))
        ≠ .ok (Document.value (classified halves).summary) := by
  have same : (classified halves).summary.joined = (classified whole).summary.joined := by
    rw [summary_classified, summary_classified]
    decide
  refine ⟨by rfl, rfl, rfl, ?_, document_eq_iff.mpr same, ?_⟩
  · rw [summary_classified, summary_classified]
    decide
  · rw [read_document, Ne, Except.ok.injEq, Document.value_injective.eq_iff, summary_classified]
    decide

end CommandLine.Request

end ReservedWords
