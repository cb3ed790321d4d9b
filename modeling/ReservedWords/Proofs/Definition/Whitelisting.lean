import ReservedWords.Proofs.Classification.Buckets
import ReservedWords.Proofs.Definition.Places

/-!
From rules to buckets. The bucket of an object-name rule has the texts of its leaves that start like
keywords, in the order of the leaves, whatever the shape of its tree.
-/

namespace ReservedWords.Definition

/-- The text of a leaf: the name of a symbol, or what a token reads. -/
def Leaf.text? : Leaf → Option String
  | .terminal text | .rule text | .token _ text => some text
  | .plain _ => none

/-- The terminal that a leaf refers to. -/
def Leaf.terminal? : Leaf → Option String
  | .terminal name => some name
  | _ => none

/-- A text starts like a keyword. -/
def StartsKeyword (options : Options) (text : String) : Prop :=
  options.keywordStart.toList <+: text.toList

instance (options : Options) (text : String) : Decidable (StartsKeyword options text) :=
  inferInstanceAs (Decidable (_ <+: _))

/-- Nothing but terminals starts like a keyword: not the name of the rule, nor one of the rules that
it refers to, nor one of its tokens. -/
structure Rule.OnlyTerminals (options : Options) (rule : Rule) : Prop where
  name : ¬ StartsKeyword options rule.name
  rules : ∀ place name, rule.tree.leafAt place = some (.rule name) → ¬ StartsKeyword options name
  tokens
    : ∀ place kind text,
        rule.tree.leafAt place = some (.token kind text) → ¬ StartsKeyword options text

/-- The bucket that a rule should have. That of a template is empty, and so is that of a definition
that is a single leaf. Any other rule has the texts that start like keywords, among its name and its
leaves from left to right; these are the terminals that do if nothing else starts so. -/
structure Rule.HasBucket (options : Options) (rule : Rule) (bucket : List String) : Prop where
  template : rule.parameters ≠ [] → bucket = []
  single : ∀ leaf, rule.tree = .leaf leaf → bucket = []
  body
    : rule.parameters = []
      → (∀ leaf, rule.tree ≠ .leaf leaf)
      → ∃ places,
          rule.tree.LeafPlaces places
          ∧ bucket
            = (rule.name
                :: (places.filterMap (Tree.leafAt · rule.tree)).filterMap Leaf.text?).filter
                (StartsKeyword options)
          ∧ (rule.OnlyTerminals options
              → bucket
                = ((places.filterMap (Tree.leafAt · rule.tree)).filterMap Leaf.terminal?).filter
                    (StartsKeyword options))

-----------------------------------------------------------------------------------------
-- The labels of a rule
-----------------------------------------------------------------------------------------

section

variable {options : Options} {rule : Rule}

/-- The tokens of a tree read what its leaves read. -/
theorem Tree.map_image_tokens (tree : Tree)
    : tree.tokens.map Token.image = tree.leaves.filterMap Leaf.text? := by
  rw [tokens, List.map_filterMap]
  refine List.filterMap_congr fun leaf _ => ?_
  cases leaf <;> rfl

theorem Rule.labelsOf_template (template : rule.parameters ≠ [])
    : Whitelist.labelsOf options (some rule.item) = [] := by
  rw [item, if_pos template]
  rfl

theorem Rule.labelsOf_single {leaf : Leaf} (single : rule.tree = .leaf leaf)
    : Whitelist.labelsOf options (some rule.item) = [] := by
  by_cases template : rule.parameters ≠ []
  · exact labelsOf_template template
  · simp only [item, if_neg template, single]
    rfl

/-- Any other rule has the texts that start like keywords: the header and the body are scanned, the
sentinel is not. -/
theorem Rule.labelsOf_body (plain : rule.parameters = []) (node : ∀ leaf, rule.tree ≠ .leaf leaf)
    : Whitelist.labelsOf options (some rule.item)
      = (rule.name :: rule.tree.leaves.filterMap Leaf.text?).filter (StartsKeyword options) := by
  have produced : rule.item = .production (Production.ofBody rule.name rule.tree.tokens) := by
    rw [item, if_neg (not_not.mpr plain)]
    cases shape : rule.tree with
    | leaf value => exact absurd shape (node value)
    | node label children => rfl
  rw [produced, Whitelist.labelsOf, Production.keywordReferences, Production.scanned_ofBody,
    List.map_cons, Tree.map_image_tokens]
  refine List.filter_congr fun text _ => ?_
  rw [Bool.eq_iff_iff, decide_eq_true_iff, Options.startsWith, List.isPrefixOf_iff_prefix]
  rfl

/-- If nothing but terminals starts like a keyword, the texts that do are those of terminals. -/
theorem Rule.OnlyTerminals.filter_texts (only : rule.OnlyTerminals options)
    : (rule.name :: rule.tree.leaves.filterMap Leaf.text?).filter (StartsKeyword options)
      = (rule.tree.leaves.filterMap Leaf.terminal?).filter (StartsKeyword options) := by
  rw [List.filter_cons_of_neg (by simpa using only.name), List.filter_filterMap,
    List.filter_filterMap]
  refine List.filterMap_congr fun leaf member => ?_
  obtain ⟨place, found⟩ := Tree.mem_leaves_iff.mp member
  cases leaf with
  | terminal name => rfl
  | rule name => simp [Leaf.text?, Leaf.terminal?, only.rules place name found]
  | token kind text => simp [Leaf.text?, Leaf.terminal?, only.tokens place kind text found]
  | plain kind => rfl

/-- The labels of a rule are the bucket that it should have, by cases on its shape. -/
theorem Rule.hasBucket_labelsOf (options : Options) (rule : Rule)
    : rule.HasBucket options (Whitelist.labelsOf options (some rule.item)) := by
  refine
    { template := labelsOf_template
      single := fun leaf => labelsOf_single
      body := fun plain node => ⟨rule.tree.places, rule.tree.leafPlaces_places, ?_, ?_⟩ }
  · rw [labelsOf_body plain node, Tree.filterMap_leafAt_places]
  · intro only
    rw [labelsOf_body plain node, Tree.filterMap_leafAt_places, only.filter_texts]

end

-----------------------------------------------------------------------------------------
-- The buckets of some rules
-----------------------------------------------------------------------------------------

/-- Rules with distinct names have one entry each, in their order. -/
theorem entries_productionTable {rules : List Rule} (distinct : (rules.map Rule.name).Nodup)
    : (productionTable rules).entries = rules.map fun rule => (rule.name, some rule.item) := by
  refine Dictionary.entries_ofList ?_
  rwa [List.map_map]

/-- Rules with distinct names have one bucket for each rule with an object name, in their order, and
it is the bucket that the rule should have. -/
theorem collect_productionTable {rules : List Rule} (distinct : (rules.map Rule.name).Nodup)
    (options : Options)
    : ∃ buckets,
        Whitelist.collect (productionTable rules) options = .ok buckets
        ∧ buckets.keys
          = (rules.filter fun rule =>
              options.productionStart.toList <+: rule.name.toList
              ∧ ¬ options.aggregateEnd.toList <:+ rule.name.toList).map Rule.name
        ∧ ∀ rule ∈ rules, rule.name ∈ buckets.keys
            → ∃ bucket,
                buckets.get? rule.name = some bucket ∧ rule.HasBucket options bucket := by
  have entries := entries_productionTable distinct
  have sound
      : ∀ entry ∈ (productionTable rules).entries,
          options.namesObjects entry.1 → entry.2 ≠ none := by
    intro entry member _
    rw [entries, List.mem_map] at member
    obtain ⟨rule, -, rfl⟩ := member
    exact Option.some_ne_none _
  obtain ⟨buckets, collected, shape⟩ := Whitelist.collect_ok sound
  rw [entries, List.filter_map, List.map_map] at shape
  refine ⟨buckets, collected, ?_, ?_⟩
  · rw [Dictionary.keys, shape, List.map_map]
    refine congrArg (List.map Rule.name) (List.filter_congr fun rule _ => ?_)
    rw [Bool.eq_iff_iff, decide_eq_true_iff, ← Options.namesObjects_iff]
    rfl
  · intro rule member named
    refine ⟨_, Dictionary.get?_eq_some_iff.mpr ?_, rule.hasBucket_labelsOf options⟩
    rw [Dictionary.keys, shape, List.map_map, List.mem_map] at named
    obtain ⟨other, kept, same⟩ := named
    have alike : other = rule :=
      List.inj_on_of_nodup_map distinct (List.mem_filter.mp kept).1 member same
    rw [shape, List.mem_map]
    exact ⟨other, kept, by rw [alike]; rfl⟩

def nestedRule : Rule where
  name := "relobjectname"
  parameters := []
  tree :=
    .node "expansions"
      [.node "expansion" [.leaf (.terminal "K_ABORT"), .leaf (.token "STRING" "\"K_NO\"")],
        .node "expr" [.node "expansion" [.leaf (.rule "name"), .leaf (.terminal "K_ACTION")]],
        .leaf (.plain "int"),
        .leaf (.terminal "K_ABORT")]

/-- Some rules: an object-name rule, its aggregate, a template, and a rule for something else. -/
def fewRules : List Rule :=
  [nestedRule, ⟨"relobjectnamelist", [], .node "expansions" [.leaf (.terminal "K_LIST")]⟩,
    ⟨"relobjectname_of", ["x"], .node "expansions" [.leaf (.terminal "K_OF")]⟩,
    ⟨"name", [], .node "expansions" [.leaf (.terminal "NAME")]⟩]

/-- The bucket of the object-name rule has the terminals that it refers to, the template has none,
and the other two rules have no bucket. -/
theorem collect_productionTable_few
    : (fewRules.map Rule.name).Nodup
      ∧ ∃ buckets,
          Whitelist.collect (productionTable fewRules) {} = .ok buckets
          ∧ buckets.keys = ["relobjectname", "relobjectname_of"]
          ∧ buckets.get? "relobjectname" = some ["K_ABORT", "K_ACTION", "K_ABORT"] := by
  have distinct : (fewRules.map Rule.name).Nodup := by decide
  obtain ⟨buckets, collected, names, filled⟩ := collect_productionTable distinct {}
  have keys : buckets.keys = ["relobjectname", "relobjectname_of"] := by
    rw [names]
    decide
  obtain ⟨bucket, found, should⟩ := filled nestedRule (by simp [fewRules])
    (by rw [keys]; decide)
  obtain ⟨places, all, -, terminals⟩ := should.body rfl nofun
  have only : nestedRule.OnlyTerminals {} := by
    refine { name := by decide, rules := ?_, tokens := ?_ }
    · intro place name here
      have leaf := Tree.mem_leaves_iff.mpr ⟨place, here⟩
      simp [nestedRule, Tree.leaves, Tree.leavesOf] at leaf
      subst leaf
      decide
    · intro place kind text here
      have leaf := Tree.mem_leaves_iff.mpr ⟨place, here⟩
      simp [nestedRule, Tree.leaves, Tree.leavesOf] at leaf
      rw [leaf.2]
      decide
  refine ⟨distinct, buckets, collected, keys, found.trans (congrArg some ?_)⟩
  rw [terminals only, all.eq_places]
  decide

end ReservedWords.Definition
