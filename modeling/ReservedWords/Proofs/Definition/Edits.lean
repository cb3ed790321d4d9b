import Mathlib.Logic.Relation
import ReservedWords.Proofs.Definition.Places

/-!
What the tokens of a definition depend on. A leaf that is a symbol or a token is a word, and the tokens
of a tree are those of its words from left to right. Edits that keep the words in their order keep the
tokens, and there are no other trees with the same words than those that such edits lead to.
-/

namespace ReservedWords.Definition

/-- A leaf shows a token: a symbol its name, a token its own text. -/
inductive Leaf.Shows : Leaf → Token → Prop
  | terminal (name : String) : Shows (.terminal name) ⟨name, "TERMINAL"⟩
  | rule (name : String) : Shows (.rule name) ⟨name, "RULE"⟩
  | token (kind text : String) : Shows (.token kind text) ⟨text, kind⟩

theorem Leaf.token?_eq_some_iff {leaf : Leaf} {token : Token}
    : leaf.token? = some token ↔ leaf.Shows token := by
  constructor
  · intro shown
    cases leaf with
    | plain kind => cases shown
    | terminal name | rule name | token kind text =>
      cases shown
      constructor
  · rintro ⟨⟩ <;> rfl

namespace Tree

variable {tree first second : Tree} {tokens : List Token} {places : List (List Nat)}
variable {label : String} {children : List Tree}

-----------------------------------------------------------------------------------------
-- One token for each word
-----------------------------------------------------------------------------------------

/-- What the leaf at a place shows. -/
def ShowsAt (tree : Tree) (place : List Nat) (token : Token) : Prop :=
  ∃ leaf, tree.leafAt place = some leaf ∧ leaf.Shows token

/-- Some tokens are read off a tree at some places: the places are in their order and are those of all
leaves that show anything, and each token is what the leaf at its place shows. -/
structure Transcript (tree : Tree) (places : List (List Nat)) (tokens : List Token) : Prop where
  ordered : places.Pairwise (· < ·)
  complete : ∀ place, place ∈ places ↔ ∃ token, tree.ShowsAt place token
  shown : List.Forall₂ tree.ShowsAt places tokens

/-- The token at a place, if there is one. -/
def tokenAt (tree : Tree) (place : List Nat) : Option Token :=
  (tree.leafAt place).bind Leaf.token?

theorem tokenAt_eq_some_iff {place : List Nat} {token : Token}
    : tree.tokenAt place = some token ↔ tree.ShowsAt place token := by
  simp only [tokenAt, ShowsAt, Option.bind_eq_some_iff, Leaf.token?_eq_some_iff]

theorem filterMap_tokenAt_places (tree : Tree)
    : tree.places.filterMap tree.tokenAt = tree.tokens := by
  rw [tokens, ← filterMap_leafAt_places, List.filterMap_filterMap]
  rfl

/-- The places of the words of a tree. -/
def wordPlaces (tree : Tree) : List (List Nat) :=
  tree.places.filter fun place => (tree.tokenAt place).isSome

theorem mem_wordPlaces {place : List Nat}
    : place ∈ tree.wordPlaces ↔ ∃ token, tree.ShowsAt place token := by
  rw [wordPlaces, List.mem_filter, Option.isSome_iff_exists, mem_places]
  simp only [tokenAt_eq_some_iff, and_iff_right_iff_imp]
  rintro ⟨token, leaf, found, -⟩
  exact Option.isSome_of_eq_some found

/-- No other places than those of the words carry a transcript. -/
theorem Transcript.places_eq (transcript : tree.Transcript places tokens)
    : places = tree.wordPlaces :=
  transcript.ordered.eq_of_mem_iff ((pairwise_lt_places tree).filter _) fun place =>
    (transcript.complete place).trans mem_wordPlaces.symm

/-- What is shown at some places is all that is found there, by induction on these. -/
theorem forall₂_showsAt_iff
    : List.Forall₂ tree.ShowsAt places tokens
      ↔ places.map tree.tokenAt = tokens.map some := by
  induction places generalizing tokens with
  | nil => cases tokens <;> simp
  | cons place places ih =>
    cases tokens with
    | nil => simp
    | cons token tokens =>
      rw [List.forall₂_cons, ih, ← tokenAt_eq_some_iff, List.map_cons, List.map_cons,
        List.cons.injEq]

theorem map_tokenAt_wordPlaces (tree : Tree)
    : tree.wordPlaces.map tree.tokenAt = tree.tokens.map some := by
  rw [← filterMap_tokenAt_places, wordPlaces]
  generalize tree.places = all
  induction all with
  | nil => rfl
  | cons place all ih =>
    cases found : tree.tokenAt place with
    | none => simpa [found] using ih
    | some token => simpa [found] using ih

/-- The tokens of a tree are all that its leaves show, from left to right, each at its place. -/
theorem tokens_eq_iff : tree.tokens = tokens ↔ ∃ places, tree.Transcript places tokens := by
  constructor
  · rintro rfl
    refine ⟨tree.wordPlaces, (pairwise_lt_places tree).filter _, fun _ => mem_wordPlaces, ?_⟩
    exact forall₂_showsAt_iff.mpr (map_tokenAt_wordPlaces tree)
  · rintro ⟨places, transcript⟩
    have shown := forall₂_showsAt_iff.mp transcript.shown
    rw [transcript.places_eq, map_tokenAt_wordPlaces] at shown
    exact List.map_injective_iff.mpr (Option.some_injective _) shown

-----------------------------------------------------------------------------------------
-- Edits
-----------------------------------------------------------------------------------------

/-- One edit of a tree that keeps its words, at any depth: a node gets another label, a node gives way
to its children, or a leaf that shows nothing is removed. Done the other way round, children in a row
are gathered in a new node, and such a leaf is inserted. -/
inductive Edit : Tree → Tree → Prop
  | relabel (label other : String) (children : List Tree)
    : Edit (.node label children) (.node other children)
  | dissolve (label inner : String) (before children after : List Tree)
    : Edit (.node label (before ++ .node inner children :: after))
        (.node label (before ++ children ++ after))
  | remove (label kind : String) (before after : List Tree)
    : Edit (.node label (before ++ .leaf (.plain kind) :: after)) (.node label (before ++ after))
  | inside (label : String) (before after : List Tree) {child other : Tree}
    (edit : Edit child other)
    : Edit (.node label (before ++ child :: after)) (.node label (before ++ other :: after))

/-- The words of a tree: its leaves that are symbols or tokens. -/
def words (tree : Tree) : List Leaf :=
  tree.leaves.filter fun leaf => leaf.token?.isSome

/-- The words of some trees, one tree after the other. -/
def wordsOf (trees : List Tree) : List Leaf :=
  trees.flatMap words

theorem leavesOf_eq_flatMap (trees : List Tree) : leavesOf trees = trees.flatMap leaves := by
  induction trees with
  | nil => rfl
  | cons tree trees ih => rw [leavesOf, ih, List.flatMap_cons]

@[simp]
theorem words_node (label : String) (children : List Tree)
    : (node label children).words = wordsOf children := by
  rw [words, leaves, leavesOf_eq_flatMap, List.filter_flatMap]
  rfl

@[simp]
theorem words_plain (kind : String) : (leaf (.plain kind)).words = [] := rfl

@[simp]
theorem wordsOf_append (front back : List Tree)
    : wordsOf (front ++ back) = wordsOf front ++ wordsOf back :=
  List.flatMap_append

@[simp]
theorem wordsOf_cons (tree : Tree) (trees : List Tree)
    : wordsOf (tree :: trees) = tree.words ++ wordsOf trees :=
  List.flatMap_cons

theorem filterMap_token?_words (tree : Tree) : tree.words.filterMap Leaf.token? = tree.tokens := by
  rw [words, tokens, List.filterMap_filter]
  refine List.filterMap_congr fun leaf _ => ?_
  cases leaf <;> rfl

/-- An edit keeps the words, by induction on its depth. -/
theorem words_of_edit (edit : Edit first second) : second.words = first.words := by
  induction edit with
  | relabel label other children => simp
  | dissolve label inner before children after => simp
  | remove label kind before after => simp
  | inside label before after edit ih => simp [ih]

/-- Edits in a row, each done in either direction, keep the words. -/
theorem words_of_eqvGen (edits : Relation.EqvGen Edit first second)
    : second.words = first.words := by
  induction edits with
  | rel first second edit => exact words_of_edit edit
  | refl tree => rfl
  | symm first second edits ih => exact ih.symm
  | trans first second third edits later ih ihLater => exact ihLater.trans ih

mutual

/-- Below a node, a tree is edited into its words, by mutual induction on the tree. -/
theorem eqvGen_words (label : String) (before after : List Tree) (tree : Tree)
    : Relation.EqvGen Edit (.node label (before ++ tree :: after))
        (.node label (before ++ tree.words.map leaf ++ after)) := by
  cases tree with
  | leaf value =>
    cases value with
    | terminal name | rule name | token kind text =>
      rw [List.append_assoc]
      exact .refl _
    | plain kind =>
      rw [words_plain, List.map_nil, List.append_nil]
      exact .rel _ _ (.remove label kind before after)
  | node inner children =>
    rw [words_node]
    exact .trans _ _ _ (.rel _ _ (.dissolve label inner before children after))
      (eqvGen_wordsOf label before after children)

/-- Below a node, some trees are edited into their words, by mutual induction on them. -/
theorem eqvGen_wordsOf (label : String) (before after trees : List Tree)
    : Relation.EqvGen Edit (.node label (before ++ trees ++ after))
        (.node label (before ++ (wordsOf trees).map leaf ++ after)) := by
  cases trees with
  | nil => exact .refl _
  | cons tree rest =>
    have first := eqvGen_words label before (rest ++ after) tree
    have others := eqvGen_wordsOf label (before ++ tree.words.map leaf) after rest
    rw [wordsOf_cons, List.map_append, List.append_assoc, List.cons_append]
    rw [List.append_assoc] at others
    exact .trans _ _ _ first (by simpa only [List.append_assoc] using others)

end

/-- One definition can be edited into another one if and only if they have the same words. -/
theorem eqvGen_edit_iff {other : String} {others : List Tree}
    : Relation.EqvGen Edit (.node label children) (.node other others)
      ↔ wordsOf children = wordsOf others := by
  constructor
  · intro edits
    simpa using (words_of_eqvGen edits).symm
  · intro same
    have here := eqvGen_wordsOf label [] [] children
    have there := eqvGen_wordsOf other [] [] others
    simp only [List.nil_append, List.append_nil] at here there
    rw [← same] at there
    exact (here.trans _ _ _ (.rel _ _ (.relabel label other _))).trans _ _ _ (there.symm _ _)

-----------------------------------------------------------------------------------------
-- The tokens of a definition
-----------------------------------------------------------------------------------------

/-- The tokens of a definition depend on its words only. There is one for each symbol and each token
among the leaves, from left to right, and none for any other leaf; edits that regroup, relabel, or
insert and remove other leaves, at any depth and in any number, change nothing; and the tokens of
children in a row are those of the first ones and then those of the others. -/
theorem tokens_of_words
    : (∀ (tree : Tree) tokens, tree.tokens = tokens ↔ ∃ places, tree.Transcript places tokens)
      ∧ (∀ first second, Relation.EqvGen Edit first second → second.tokens = first.tokens)
      ∧ ∀ label front back,
          (node label (front ++ back)).tokens
          = (node label front).tokens ++ (node label back).tokens := by
  refine ⟨fun tree tokens => tokens_eq_iff, fun first second edits => ?_,
    fun label front back => ?_⟩
  · rw [← filterMap_token?_words, ← filterMap_token?_words, words_of_eqvGen edits]
  · simp only [← filterMap_token?_words, words_node, wordsOf_append, List.filterMap_append]

/-- Groups, labels and leaves that are no words leave no trace. -/
example
    : (node "expr"
          [.node "alias" [.leaf (.rule "a")], .leaf (.plain "int"), .leaf (.terminal "B")]).tokens
      = [⟨"a", "RULE"⟩, ⟨"B", "TERMINAL"⟩] := by
  decide

end Tree

end ReservedWords.Definition
