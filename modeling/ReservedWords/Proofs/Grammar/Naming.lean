import ReservedWords.Grammar.Expansion
import ReservedWords.Proofs.Grammar.Parts

/-!
The names of the terminals of a grammar that has been taken apart. A terminal is one that the
grammar defines, or it is made for a pattern that stands in a rule: it has the name that its text
suggests, or a reserved one where that name is taken or there is none.
-/

namespace ReservedWords.Grammar

namespace Terminal

theorem isReserved_numbered (number : Nat) : isReserved ("__ANON_" ++ toString number) := by
  simp [isReserved, Options.startsWith, String.toList_append]

namespace Naming

/-- What naming a pattern comes to. -/
inductive Adds (naming : Naming) (pattern : Pattern) (after : Naming) : Prop
  | known {terminal : Terminal} (member : terminal ∈ naming.terminals)
    (same : terminal.pattern = pattern) (unchanged : after = naming)
    : Adds naming pattern after
  | suggested {name : String} (suggests : suggestion? pattern = some name)
    (free : ∀ terminal ∈ naming.terminals, terminal.name ≠ name)
    (grown : after.terminals = naming.terminals ++ [⟨name, pattern⟩])
    : Adds naming pattern after
  | numbered (number : Nat)
    (taken
      : ∀ suggested,
          suggestion? pattern = some suggested
          → ∃ terminal ∈ naming.terminals, terminal.name = suggested)
    (grown : after.terminals = naming.terminals ++ [⟨"__ANON_" ++ toString number, pattern⟩])
    : Adds naming pattern after

theorem adds_add (naming : Naming) (pattern : Pattern)
    : naming.Adds pattern (naming.add pattern) := by
  rw [add]
  cases found : withPattern? naming.terminals pattern with
  | some terminal =>
    rw [withPattern?] at found
    have member := List.mem_reverse.mp (List.mem_of_find?_eq_some found)
    have same := List.find?_some found
    exact .known member (of_decide_eq_true same) rfl
  | none =>
    cases named : suggestedName? naming.terminals pattern with
    | some name =>
      rw [suggestedName?, Option.filter_eq_some_iff] at named
      exact .suggested named.1 (by simpa using named.2) rfl
    | none =>
      refine .numbered naming.numbered (fun suggested suggests => ?_) rfl
      rw [suggestedName?, suggests, Option.filter_some] at named
      simpa using named

variable {defined : List Terminal} {shown : Pattern → Prop} {naming : Naming} {pattern : Pattern}
variable {patterns : List Pattern}

theorem subset_add (naming : Naming) (pattern : Pattern)
    : naming.terminals ⊆ (naming.add pattern).terminals := by
  cases naming.adds_add pattern with
  | known _ _ unchanged =>
    rw [unchanged]
    exact List.Subset.refl _
  | suggested _ _ grown | numbered _ _ grown => exact grown ▸ List.subset_append_left _ _

theorem exists_pattern_add (naming : Naming) (pattern : Pattern)
    : ∃ terminal ∈ (naming.add pattern).terminals, terminal.pattern = pattern := by
  cases naming.adds_add pattern with
  | known member same unchanged =>
    rw [unchanged]
    exact ⟨_, member, same⟩
  | suggested _ _ grown | numbered _ _ grown =>
    exact ⟨_, grown ▸ List.mem_append_right _ (List.mem_singleton_self _), rfl⟩

theorem subset_foldl_add (naming : Naming) (patterns : List Pattern)
    : naming.terminals ⊆ (patterns.foldl add naming).terminals := by
  induction patterns generalizing naming with
  | nil => exact List.Subset.refl _
  | cons pattern rest ih => exact List.Subset.trans (naming.subset_add pattern) (ih _)

/-- Every pattern that is named has a terminal at the end, by induction on the patterns. -/
theorem exists_pattern_foldl_add (naming : Naming) (named : pattern ∈ patterns)
    : ∃ terminal ∈ (patterns.foldl add naming).terminals, terminal.pattern = pattern := by
  induction patterns generalizing naming with
  | nil => cases named
  | cons first rest ih =>
    rcases List.mem_cons.mp named with rfl | later
    · obtain ⟨terminal, member, same⟩ := naming.exists_pattern_add pattern
      exact ⟨terminal, subset_foldl_add _ rest member, same⟩
    · exact ih _ later

end Naming

/-- A terminal that is made for a pattern in a rule. -/
structure Anonymous (shown : Pattern → Prop) (terminal : Terminal) : Prop where
  shown : shown terminal.pattern
  name : suggestion? terminal.pattern = some terminal.name ∨ isReserved terminal.name

/-- Every terminal is defined or made for a pattern that is shown, and the name that the pattern of
a made one suggests is not free. -/
structure Naming.Sound (defined : List Terminal) (shown : Pattern → Prop) (naming : Naming)
    : Prop where
  origin : ∀ terminal ∈ naming.terminals, terminal ∈ defined ∨ terminal.Anonymous shown
  taken
    : ∀ terminal ∈ naming.terminals,
        terminal ∉ defined
        → ∀ name,
            suggestion? terminal.pattern = some name
            → ∃ other ∈ naming.terminals, other.name = name

section

variable {defined : List Terminal} {shown : Pattern → Prop} {naming : Naming} {pattern : Pattern}

/-- Defined terminals with one made for a shown pattern, whose suggested name is not free then. -/
theorem Naming.Sound.append (sound : naming.Sound defined shown) (stands : shown pattern)
    {name : String} {after : Naming}
    (called : suggestion? pattern = some name ∨ isReserved name)
    (taken
      : ∀ suggested,
          suggestion? pattern = some suggested
          → ∃ terminal ∈ after.terminals, terminal.name = suggested)
    (grown : after.terminals = naming.terminals ++ [⟨name, pattern⟩])
    : after.Sound defined shown where
  origin := by
    intro terminal member
    rcases List.mem_append.mp (grown ▸ member) with old | new
    · exact sound.origin terminal old
    · cases List.mem_singleton.mp new
      exact .inr ⟨stands, called⟩
  taken := by
    intro terminal member undefined suggested suggests
    rcases List.mem_append.mp (grown ▸ member) with old | new
    · obtain ⟨other, present, same⟩ := sound.taken terminal old undefined suggested suggests
      exact ⟨other, grown ▸ List.mem_append_left _ present, same⟩
    · cases List.mem_singleton.mp new
      exact taken suggested suggests

theorem Naming.Sound.add (sound : naming.Sound defined shown) (stands : shown pattern)
    : (naming.add pattern).Sound defined shown := by
  cases naming.adds_add pattern with
  | known _ _ unchanged =>
    rw [unchanged]
    exact sound
  | suggested suggests _ grown =>
    refine sound.append stands (.inl suggests) (fun other same => ?_) grown
    cases suggests.symm.trans same
    exact ⟨_, grown ▸ List.mem_append_right _ (List.mem_singleton_self _), rfl⟩
  | numbered number taken grown =>
    refine sound.append stands (.inr (isReserved_numbered number)) (fun other suggests => ?_) grown
    obtain ⟨terminal, member, same⟩ := taken other suggests
    exact ⟨terminal, naming.subset_add pattern member, same⟩

theorem Naming.Sound.foldl_add (sound : naming.Sound defined shown) {patterns : List Pattern}
    (stand : ∀ pattern ∈ patterns, shown pattern)
    : (patterns.foldl Naming.add naming).Sound defined shown :=
  List.foldlRecOn patterns _ sound fun _ kept pattern member => kept.add (stand pattern member)

end

theorem ofDefinition_eq_ok [Installation] {name : String} {body : Body} {terminal : Terminal}
    (done : ofDefinition name body = .ok terminal)
    : terminal.name = name ∧ body.pattern = .ok (some terminal.pattern) := by
  obtain ⟨-, -, done⟩ := bind_eq_ok.mp done
  obtain ⟨pattern, made, done⟩ := bind_eq_ok.mp done
  cases pattern with
  | none => cases done
  | some pattern =>
    cases done
    exact ⟨rfl, made⟩

section

variable [Installation]
variable {grammar : Grammar} {defined : List Terminal}

theorem map_ofDefinition_of_ofGrammar (done : Terminal.ofGrammar grammar = .ok defined)
    : (grammar.terminals.filterMap fun (name, body) => body.map fun body => (name, body)).map
          (fun (name, body) => ofDefinition name body)
        = defined.map .ok := by
  rw [Terminal.ofGrammar] at done
  split at done
  · cases done
  · exact mapM_eq_ok.mp done

/-- A terminal with a pattern of its own is one that has a body, with the pattern of this. -/
theorem exists_body_of_ofGrammar (done : Terminal.ofGrammar grammar = .ok defined)
    {terminal : Terminal} (member : terminal ∈ defined)
    : ∃ body,
        (terminal.name, some body) ∈ grammar.terminals
        ∧ body.pattern = .ok (some terminal.pattern) := by
  have result : (.ok terminal : Except Failure Terminal) ∈ defined.map .ok :=
    List.mem_map_of_mem member
  rw [← map_ofDefinition_of_ofGrammar done] at result
  obtain ⟨⟨name, body⟩, listed, made⟩ := List.mem_map.mp result
  obtain ⟨⟨known, content⟩, present, paired⟩ := List.mem_filterMap.mp listed
  obtain ⟨content, rfl, same⟩ := Option.map_eq_some_iff.mp paired
  cases same
  obtain ⟨rfl, pattern⟩ := ofDefinition_eq_ok made
  exact ⟨body, present, pattern⟩

/-- A terminal with a body has a pattern. -/
theorem exists_pattern_of_ofGrammar (done : Terminal.ofGrammar grammar = .ok defined)
    {name : String} {body : Body} (listed : (name, some body) ∈ grammar.terminals)
    : ∃ pattern, body.pattern = .ok (some pattern) ∧ ⟨name, pattern⟩ ∈ defined := by
  have present
      : (name, body)
        ∈ grammar.terminals.filterMap fun (name, body) => body.map fun body => (name, body) :=
    List.mem_filterMap.mpr ⟨_, listed, rfl⟩
  have result := List.mem_map_of_mem (f := fun (name, body) => ofDefinition name body) present
  rw [map_ofDefinition_of_ofGrammar done] at result
  obtain ⟨terminal, member, made⟩ := List.mem_map.mp result
  obtain ⟨rfl, pattern⟩ := ofDefinition_eq_ok made.symm
  exact ⟨terminal.pattern, pattern, member⟩

end

end Terminal

namespace Compilation

variable {defined : List Terminal} {shown : Pattern → Prop} {work next last : Compilation}

/-- What going through a rule comes to: nothing for a template; else its patterns are named and
rules may be added. -/
theorem addRule_cases {rule : Rule} (done : work.addRule rule = .ok next)
    : (rule.parameters ≠ [] ∧ next = work)
      ∨ ∃ body patterns named,
          rule.body = some body
          ∧ body.literalPatterns = .ok patterns
          ∧ next.naming = patterns.foldl Terminal.Naming.add work.naming
          ∧ Rule.addInstances work.rules named = .ok next.rules := by
  rw [addRule] at done
  split at done
  · rename_i template
    exact .inl ⟨template, (Except.ok.inj done).symm⟩
  · split at done
    · cases done
    · rename_i body content
      obtain ⟨⟨naming, named⟩, literals, done⟩ := bind_eq_ok.mp done
      obtain ⟨patterns, read, literals⟩ := bind_eq_ok.mp literals
      obtain ⟨rules, added, done⟩ := bind_eq_ok.mp done
      obtain ⟨-, -, done⟩ := bind_eq_ok.mp done
      cases literals
      cases done
      exact .inr ⟨body, patterns, _, content, read, rfl, added⟩

/-- Going on from a position comes to nothing after the last rule; else the rule there is gone
through before those after it. -/
theorem addRulesFrom_cases {fuel position : Nat}
    (done : addRulesFrom (fuel + 1) position work = .ok last)
    : (work.rules[position]? = none ∧ last = work)
      ∨ ∃ rule next,
          work.rules[position]? = some rule
          ∧ work.addRule rule = .ok next
          ∧ addRulesFrom fuel (position + 1) next = .ok last := by
  rw [addRulesFrom] at done
  cases found : work.rules[position]? with
  | none =>
    simp only [found] at done
    exact .inl ⟨rfl, (Except.ok.inj done).symm⟩
  | some rule =>
    simp only [found] at done
    obtain ⟨next, step, done⟩ := bind_eq_ok.mp done
    exact .inr ⟨rule, next, rfl, step, done⟩

/-- What going through a rule keeps holds when all are gone through, by induction on the fuel. -/
theorem addRulesFrom_preserves {holds : Compilation → Prop}
    (keeps
      : ∀ {before after : Compilation},
          ∀ rule ∈ before.rules, holds before → before.addRule rule = .ok after → holds after)
    {fuel position : Nat} (start : holds work) (done : addRulesFrom fuel position work = .ok last)
    : holds last := by
  induction fuel generalizing position work with
  | zero => cases done
  | succ fuel ih =>
    rcases addRulesFrom_cases done with ⟨-, rfl⟩ | ⟨rule, next, place, step, done⟩
    · exact start
    · exact ih (keeps rule (List.mem_of_getElem? place) start step) done

/-- The terminals are named as they should be, and nothing stands in the rules that is not shown. -/
structure Sound (defined : List Terminal) (shown : Pattern → Prop) (work : Compilation) : Prop where
  naming : work.naming.Sound defined shown
  rules : ∀ rule ∈ work.rules, ∀ pattern, rule.Shows pattern → shown pattern

theorem Sound.addRule (sound : work.Sound defined shown) {rule : Rule} (known : rule ∈ work.rules)
    (done : work.addRule rule = .ok next)
    : next.Sound defined shown := by
  rcases addRule_cases done with ⟨-, rfl⟩ | ⟨body, patterns, named, content, read, naming, added⟩
  · exact sound
  · have extended := Rule.extends_of_addInstances added
    refine ⟨?_, fun later member pattern shows => ?_⟩
    · rw [naming]
      refine sound.naming.foldl_add fun pattern member => ?_
      have shown : body.Shows pattern := (Body.mem_literalPatterns read).mp member
      exact sound.rules rule known pattern ⟨body, content, shown⟩
    · obtain ⟨origin, present, shows⟩ := extended.shown later member pattern shows
      exact sound.rules origin present pattern shows

/-- Every step keeps the rules in their places and the terminals. -/
theorem addRule_grows {rule : Rule} (done : work.addRule rule = .ok next)
    : work.rules <+: next.rules ∧ work.naming.terminals ⊆ next.naming.terminals := by
  rcases addRule_cases done with ⟨-, rfl⟩ | ⟨body, patterns, named, -, -, naming, added⟩
  · exact ⟨List.prefix_refl _, List.Subset.refl _⟩
  · exact ⟨(Rule.extends_of_addInstances added).kept, naming ▸ Terminal.Naming.subset_foldl_add _ _⟩

/-- A rule without a body has not been added. -/
theorem mem_of_bodiless {rule later : Rule} (done : work.addRule rule = .ok next)
    (member : later ∈ next.rules) (empty : later.body = none)
    : later ∈ work.rules := by
  rcases addRule_cases done with ⟨-, rfl⟩ | ⟨body, patterns, named, -, -, -, added⟩
  · exact member
  · exact (Rule.extends_of_addInstances added).bodiless later member empty

theorem addRulesFrom_grows {fuel position : Nat} (done : addRulesFrom fuel position work = .ok last)
    : work.naming.terminals ⊆ last.naming.terminals :=
  addRulesFrom_preserves (fun _ _ kept step => List.Subset.trans kept (addRule_grows step).2)
    (List.Subset.refl _) done

theorem exists_pattern_addRule {rule : Rule} (plain : rule.parameters = [])
    (done : work.addRule rule = .ok next) {pattern : Pattern} (shows : rule.Shows pattern)
    : ∃ terminal ∈ next.naming.terminals, terminal.pattern = pattern := by
  rcases addRule_cases done with ⟨template, -⟩ | ⟨body, patterns, named, content, read, naming, -⟩
  · exact absurd plain template
  · obtain ⟨same, content', shows⟩ := shows
    cases content.symm.trans content'
    rw [naming]
    exact Terminal.Naming.exists_pattern_foldl_add _ ((Body.mem_literalPatterns read).mpr shows)

/-- The patterns of every rule that is gone through and is no template have terminals at the end, by
induction on the fuel. -/
theorem exists_pattern_addRulesFrom {fuel position : Nat}
    (done : addRulesFrom fuel position work = .ok last) {index : Nat} (later : position ≤ index)
    {rule : Rule} (place : work.rules[index]? = some rule) (plain : rule.parameters = [])
    {pattern : Pattern} (shows : rule.Shows pattern)
    : ∃ terminal ∈ last.naming.terminals, terminal.pattern = pattern := by
  induction fuel generalizing position work with
  | zero => cases done
  | succ fuel ih =>
    have inside := (List.getElem?_eq_some_iff.mp place).1
    rcases addRulesFrom_cases done with ⟨ended, -⟩ | ⟨current, next, found, step, done⟩
    · have := List.getElem?_eq_none_iff.mp ended
      omega
    · -- The rule has its turn now, or keeps its place until then: rules are only added at the end.
      rcases Nat.eq_or_lt_of_le later with rfl | later
      · cases found.symm.trans place
        obtain ⟨terminal, member, same⟩ := exists_pattern_addRule plain step shows
        exact ⟨terminal, addRulesFrom_grows done member, same⟩
      · obtain ⟨more, grown⟩ := (addRule_grows step).1
        refine ih done later ?_
        rw [← grown, List.getElem?_append_left inside, place]

end Compilation

-----------------------------------------------------------------------------------------
-- Names of their own
-----------------------------------------------------------------------------------------

/-- Some terminals with others after them that have none of their names. -/
def Terminal.Naming.Follows (defined : List Terminal) (naming : Terminal.Naming) : Prop :=
  ∃ made,
    naming.terminals = defined ++ made
    ∧ ∀ terminal ∈ made, terminal.name ∉ defined.map Terminal.name

section

variable {defined : List Terminal}

theorem Terminal.Naming.Follows.add {naming : Terminal.Naming} (follows : naming.Follows defined)
    (unnumbered : ∀ number : Nat, "__ANON_" ++ toString number ∉ defined.map Terminal.name)
    (pattern : Pattern)
    : (naming.add pattern).Follows defined := by
  obtain ⟨made, listed, others⟩ := follows
  have append {name : String} {after : Terminal.Naming} (other : name ∉ defined.map Terminal.name)
      (grown : after.terminals = naming.terminals ++ [⟨name, pattern⟩])
      : after.Follows defined := by
    refine ⟨made ++ [⟨name, pattern⟩], ?_, ?_⟩
    · rw [grown, listed, List.append_assoc]
    · intro terminal member
      rcases List.mem_append.mp member with old | new
      · exact others terminal old
      · cases List.mem_singleton.mp new
        exact other
  cases naming.adds_add pattern with
  | known _ _ unchanged =>
    rw [unchanged]
    exact ⟨made, listed, others⟩
  | suggested _ free grown =>
    refine append (fun used => ?_) grown
    obtain ⟨terminal, member, same⟩ := List.mem_map.mp used
    exact free terminal (listed ▸ List.mem_append_left _ member) same
  | numbered number _ grown => exact append (unnumbered number) grown

theorem Compilation.follows_of_addRule {work next : Compilation} {rule : Rule}
    (follows : work.naming.Follows defined)
    (unnumbered : ∀ number : Nat, "__ANON_" ++ toString number ∉ defined.map Terminal.name)
    (done : work.addRule rule = .ok next)
    : next.naming.Follows defined := by
  rcases addRule_cases done with ⟨-, rfl⟩ | ⟨body, patterns, named, -, -, naming, -⟩
  · exact follows
  · rw [naming]
    exact List.foldlRecOn patterns _ follows fun _ kept pattern _ => kept.add unnumbered pattern

/-- No terminal that is made for a pattern in a rule has the name of a defined one. -/
theorem Compiled.exists_made_of_ofGrammar [Installation] {grammar : Grammar} {compiled : Compiled}
    (found : Terminal.ofGrammar grammar = .ok defined)
    (unnumbered : ∀ number : Nat, "__ANON_" ++ toString number ∉ defined.map Terminal.name)
    (taken : Compiled.ofGrammar grammar = .ok compiled)
    : ∃ made,
        compiled.terminals = defined ++ made
        ∧ ∀ terminal ∈ made, terminal.name ∉ defined.map Terminal.name := by
  obtain ⟨_, found', taken⟩ := bind_eq_ok.mp taken
  cases found.symm.trans found'
  obtain ⟨work, gone, taken⟩ := bind_eq_ok.mp taken
  obtain ⟨expansions, -, taken⟩ := bind_eq_ok.mp taken
  cases taken
  have start : Terminal.Naming.Follows defined { terminals := defined } :=
    ⟨[], (List.append_nil _).symm, nofun⟩
  have follows : work.naming.Follows defined :=
    Compilation.addRulesFrom_preserves
      (fun _ _ kept step => Compilation.follows_of_addRule kept unnumbered step) start gone
  exact follows

end

/-- The terminals of a grammar that has been taken apart are those with a definition and those made
for the patterns in its rules. If a defined one has no pattern of a rule that is no template, the
name that this pattern suggests is the name of a terminal. -/
theorem Compiled.terminals_of_ofGrammar [Installation] {grammar : Grammar} {compiled : Compiled}
    (taken : Compiled.ofGrammar grammar = .ok compiled)
    : ∃ defined,
        Terminal.ofGrammar grammar = .ok defined
        ∧ (∀ terminal ∈ compiled.terminals,
            terminal ∈ defined ∨ terminal.Anonymous grammar.Shows)
        ∧ ∀ rule ∈ grammar.rules,
            rule.parameters = []
            → ∀ pattern,
                rule.Shows pattern
                → (∀ terminal ∈ defined, terminal.pattern ≠ pattern)
                → ∀ name,
                    Terminal.suggestion? pattern = some name
                    → ∃ terminal ∈ compiled.terminals, terminal.name = name := by
  obtain ⟨defined, found, taken⟩ := bind_eq_ok.mp taken
  obtain ⟨work, gone, taken⟩ := bind_eq_ok.mp taken
  obtain ⟨expansions, -, taken⟩ := bind_eq_ok.mp taken
  cases taken
  have start
      : Compilation.Sound defined grammar.Shows
          { naming := { terminals := defined }, rules := grammar.rules } :=
    { naming := ⟨fun _ member => .inl member, fun _ member undefined => absurd member undefined⟩
      rules := fun rule member pattern shows => ⟨rule, member, shows⟩ }
  have sound : work.Sound defined grammar.Shows :=
    Compilation.addRulesFrom_preserves (fun _ known kept step => kept.addRule known step) start gone
  refine ⟨defined, found, sound.naming.origin, ?_⟩
  intro rule member plain pattern shows other name suggests
  obtain ⟨index, place⟩ := List.getElem?_of_mem member
  obtain ⟨terminal, present, same⟩ :=
    Compilation.exists_pattern_addRulesFrom gone index.zero_le place plain shows
  have made : terminal ∉ defined := fun known => other terminal known same
  exact sound.naming.taken terminal present made name (same ▸ suggests)

end ReservedWords.Grammar
