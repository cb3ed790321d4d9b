import ReservedWords.Analysis
import ReservedWords.Proofs.Grammar.Naming

/-!
The defects of a grammar that has been read. What is wrong with it is mostly a rejection. It is a
defect only where a terminal has no pattern, a name of an alternative is out of place, a rule has no
body, instances of templates have no end, or a regular expression has a fault.
-/

namespace ReservedWords

namespace Grammar

/-- A rejection, or a defect of some kinds. -/
def Failure.Among (kinds : Defect → Prop) : Failure → Prop
  | .rejected _ => True
  | .defect kind => kinds kind

/-- A step that meets no defects but those of some kinds. -/
abbrev Within {α : Type} (kinds : Defect → Prop) (outcome : Except Failure α) : Prop :=
  Confined (Failure.Among kinds) outcome

variable {kinds : Defect → Prop}

theorem within_rejected {α : Type} (error : Error)
    : Within kinds (.error (.rejected error) : Except Failure α) :=
  confined_error.mpr trivial

theorem within_defect {α : Type} {kind : Defect} (met : kinds kind)
    : Within kinds (.error (.defect kind) : Except Failure α) :=
  confined_error.mpr met

theorem Within.weaken {α : Type} {others : Defect → Prop} {outcome : Except Failure α}
    (within : Within kinds outcome) (weaker : ∀ kind, kinds kind → others kind)
    : Within others outcome := by
  refine within.mono fun failure met => ?_
  cases failure with
  | rejected error => trivial
  | defect kind => exact weaker kind met

-----------------------------------------------------------------------------------------
-- Literals and the bodies of terminals
-----------------------------------------------------------------------------------------

theorem Literal.within_value (inner : List Char) : Within kinds (Literal.value inner) := by
  rw [Literal.value]
  split
  · exact confined_ok _
  · exact within_rejected _

theorem Literal.within_pattern (literal : Literal) : Within kinds literal.pattern := by
  unfold Literal.pattern
  extract_lets text flags
  split
  · exact within_rejected _
  · refine (within_value _).bind fun value _ => ?_
    cases literal.kind <;> dsimp only <;> split
    all_goals first | exact within_rejected _ | exact confined_ok _

theorem Literal.within_rangePattern (first last : String)
    : Within kinds (Literal.rangePattern first last) := by
  refine (within_value _).bind fun _ _ => (within_value _).bind fun _ _ => ?_
  split
  · exact confined_ok _
  · exact within_rejected _

namespace Body

theorem within_visit {α : Type} (result : Option α) : Within kinds (visit result) := by
  cases result with
  | none => exact within_rejected _
  | some value => exact confined_ok value

theorem within_countSign (low : String) (high : Option String)
    : Within kinds (countSign low high) := by
  refine (within_visit _).bind fun least _ => ?_
  cases high with
  | none => exact confined_ok _
  | some high =>
    refine (within_visit _).bind fun most _ => ?_
    split
    · exact within_rejected _
    · exact confined_ok _

theorem within_literalPatterns (body : Body) : Within kinds body.literalPatterns := by
  refine confined_mapM fun outcome member => ?_
  obtain ⟨part, -, same⟩ := List.mem_filterMap.mp member
  cases part with
  | literal text =>
    cases same
    exact text.within_pattern
  | range first last =>
    cases same
    exact Literal.within_rangePattern first last
  | _ => cases same

variable [Installation]

mutual

/-- No body of a terminal ends in a defect, by mutual induction on the body: what cannot be put
together is rejected. -/
theorem within_pattern (body : Body) : Within kinds body.pattern := by
  match body with
  | .symbol _ | .use _ _ | .reference _ | .sequence [] => exact confined_ok _
  | .literal text => exact text.within_pattern.bind fun _ _ => confined_ok _
  | .range first last =>
    exact (Literal.within_rangePattern first last).bind fun _ _ => confined_ok _
  | .included body | .sequence [body] | .choice [body] => exact within_pattern body
  | .sequence (first :: second :: rest) =>
    refine (within_patterns (first :: second :: rest)).bind fun _ _ => ?_
    exact (within_visit _).bind fun _ _ => confined_ok _
  | .choice [] =>
    refine (within_patterns []).bind fun _ _ => (within_visit _).bind fun _ _ => ?_
    exact (within_visit _).bind fun _ _ => confined_ok _
  | .choice (first :: second :: rest) =>
    refine (within_patterns (first :: second :: rest)).bind fun _ _ => ?_
    exact (within_visit _).bind fun _ _ => (within_visit _).bind fun _ _ => confined_ok _
  | .named body label =>
    exact ((within_pattern body).map _).bind fun _ _ => within_rejected _
  | .bracket body | .repeated body sign =>
    exact (within_pattern body).bind fun _ _ => (within_visit _).bind fun _ _ => confined_ok _
  | .counted body low high =>
    refine (within_pattern body).bind fun _ _ => (within_countSign low high).bind fun _ _ => ?_
    exact (within_visit _).bind fun _ _ => confined_ok _

/-- The same for some bodies. -/
theorem within_patterns (bodies : List Body) : Within kinds (patterns bodies) := by
  match bodies with
  | [] => exact confined_ok _
  | body :: rest =>
    refine (within_pattern body).bind fun _ _ => (within_patterns rest).bind fun _ _ => ?_
    exact confined_ok _

end

end Body

namespace Terminal

variable [Installation]

theorem within_ofDefinition (name : String) {body : Body}
    (unusable : body.pattern = .ok none → kinds .brokenAssumption)
    : Within kinds (ofDefinition name body) := by
  refine (body.within_literalPatterns.map _).bind fun _ _ => ?_
  refine body.within_pattern.bind fun pattern found => ?_
  cases pattern with
  | none => exact within_defect (unusable found)
  | some pattern => exact confined_ok _

theorem within_ofGrammar {grammar : Grammar}
    (unusable
      : ∀ name body,
          (name, some body) ∈ grammar.terminals
          → body.pattern = .ok none
          → kinds .brokenAssumption)
    : Within kinds (Terminal.ofGrammar grammar) := by
  rw [Terminal.ofGrammar]
  split
  · exact within_rejected _
  · refine confined_mapM fun entry listed => ?_
    obtain ⟨name, body⟩ := entry
    refine within_ofDefinition name fun empty => ?_
    obtain ⟨⟨known, content⟩, member, paired⟩ := List.mem_filterMap.mp listed
    obtain ⟨content, rfl, same⟩ := Option.map_eq_some_iff.mp paired
    cases same
    exact unusable name body member empty

end Terminal

-----------------------------------------------------------------------------------------
-- Rules
-----------------------------------------------------------------------------------------

theorem Rule.within_addInstance (rules : List Rule) (part : Body)
    : Within kinds (Rule.addInstance rules part) := by
  cases part with
  | use template arguments =>
    rw [Rule.addInstance]
    split
    · exact confined_ok _
    · split
      · exact confined_ok _
      · exact within_rejected _
  | _ => exact confined_ok _

theorem Body.within_checkRepetition (body : Body) : Within kinds body.checkRepetition := by
  cases body with
  | bracket body =>
    rw [checkRepetition]
    split
    · exact within_rejected _
    · exact confined_ok _
  | counted body low high =>
    cases high with
    | none => exact (within_visit _).map _
    | some high =>
      refine (within_visit _).bind fun least _ => (within_visit _).bind fun most _ => ?_
      split
      · exact within_rejected _
      · exact confined_ok _
  | _ => exact confined_ok _

namespace Compilation

/-- What going through some rules comes to. -/
inductive Reaches (start : Compilation) : Compilation → Prop
  | here : Reaches start start
  | step {work next : Compilation} {rule : Rule} (reached : Reaches start work)
    (member : rule ∈ work.rules) (done : work.addRule rule = .ok next)
    : Reaches start next

theorem Reaches.after {first next last : Compilation} {rule : Rule} (member : rule ∈ first.rules)
    (done : first.addRule rule = .ok next) (later : Reaches next last)
    : Reaches first last := by
  induction later with
  | here => exact .step .here member done
  | step _ known step ih => exact .step ih known step

theorem within_addRule (work : Compilation) {rule : Rule}
    (bodiless : rule.body = none → kinds .noSuchMember)
    : Within kinds (work.addRule rule) := by
  rw [addRule]
  split
  · exact confined_ok _
  · split
    · rename_i empty
      exact within_defect (bodiless empty)
    · rename_i body content
      refine Confined.bind (body.within_literalPatterns.bind fun _ _ => confined_ok _) fun _ _ => ?_
      refine Confined.bind (confined_foldlM fun _ _ _ => Rule.within_addInstance _ _) fun _ _ => ?_
      refine Confined.bind (confined_forM fun _ _ => Body.within_checkRepetition _) fun _ _ => ?_
      exact confined_ok _

/-- Going through the rules has an end unless there are as many as the fuel allows for, by induction
on the fuel. -/
theorem within_addRulesFrom {fuel position : Nat} {work : Compilation}
    (place : position ≤ work.rules.length)
    (bodiless : ∀ rule ∈ work.rules, rule.body = none → kinds .noSuchMember)
    (endless
      : ∀ last,
          Reaches work last → position + fuel ≤ last.rules.length → kinds .endlessRecursion)
    : Within kinds (addRulesFrom fuel position work) := by
  induction fuel generalizing position work with
  | zero => exact within_defect (endless work .here place)
  | succ fuel ih =>
    rw [addRulesFrom]
    split
    · exact confined_ok _
    · rename_i rule found
      have member := List.mem_of_getElem? found
      refine (within_addRule work (bodiless rule member)).bind fun next step => ?_
      -- The position moves on by one as one unit of fuel is spent, so their sum stays the same.
      have inside := (List.getElem?_eq_some_iff.mp found).1
      have longer := (addRule_grows step).1.length_le
      refine ih (by omega) (fun later known empty => ?_) fun last reached many => ?_
      · exact bodiless later (mem_of_bodiless step known empty) empty
      · exact endless last (.after member step reached) (by omega)

end Compilation

theorem Expansion.within_ofAlternative (origin : String) (priority : Int)
    {alternative : Alternative} (misplaced : alternative.parts.any isMisplaced → kinds .brokenAssumption)
    : Within kinds (ofAlternative origin priority alternative) := by
  rw [ofAlternative]
  split
  · exact within_rejected _
  · split
    · rename_i present
      exact within_defect (misplaced present)
    · exact confined_ok _

theorem Compiled.within_expansionsOf {expressions : List (String × Expression × Int)}
    (misplaced
      : ∀ origin expression priority,
          (origin, expression, priority) ∈ expressions
          → ∀ alternative ∈ expression.alternatives,
              alternative.parts.any Expansion.isMisplaced → kinds .brokenAssumption)
    : Within kinds (expansionsOf expressions) := by
  refine Confined.bind (confined_mapM fun ⟨origin, expression, priority⟩ member => ?_)
    fun groups _ => ?_
  · refine confined_mapM fun alternative listed => ?_
    exact Expansion.within_ofAlternative origin priority
      (misplaced origin expression priority member alternative listed)
  · split
    · exact within_rejected _
    · exact confined_ok _

variable [Installation]

/-- Going through the rules of a grammar has come so far. -/
def Compilation.ReachedIn (grammar : Grammar) (work : Compilation) : Prop :=
  ∃ defined,
    Terminal.ofGrammar grammar = .ok defined
    ∧ Reaches { naming := { terminals := defined }, rules := grammar.rules } work

/-- What is wrong with a grammar if taking it apart ends in a defect, unless a rule has no body. -/
inductive Compiled.Flaw (grammar : Grammar) : Defect → Prop
  | patternless {name : String} {body : Body} (member : (name, some body) ∈ grammar.terminals)
    (empty : body.pattern = .ok none)
    : Flaw grammar .brokenAssumption
  | endless {work : Compilation} (reached : work.ReachedIn grammar)
    (many : grammar.rules.length + Compilation.instanceLimit ≤ work.rules.length)
    : Flaw grammar .endlessRecursion
  | misplaced {work : Compilation} {origin : String} {expression : Expression} {priority : Int}
    {alternative : Alternative} (reached : work.ReachedIn grammar)
    (member : (origin, expression, priority) ∈ work.expressions)
    (listed : alternative ∈ expression.alternatives)
    (present : alternative.parts.any Expansion.isMisplaced)
    : Flaw grammar .brokenAssumption

theorem Compiled.within_ofGrammar {grammar : Grammar}
    (bodiless : ∀ rule ∈ grammar.rules, rule.body = none → kinds .noSuchMember)
    (flawed : ∀ {kind}, Flaw grammar kind → kinds kind)
    : Within kinds (Compiled.ofGrammar grammar) := by
  refine Confined.bind (Terminal.within_ofGrammar fun name body member empty => ?_)
    fun defined defines => ?_
  · exact flawed (.patternless member empty)
  refine Confined.bind (Compilation.within_addRulesFrom (Nat.zero_le _) bodiless
    fun last reached many => ?_) fun work gone => ?_
  · exact flawed (.endless ⟨defined, defines, reached⟩ (by omega))
  refine Confined.bind (within_expansionsOf fun origin expression priority member alternative listed
    present => ?_) fun _ _ => confined_ok _
  have reached := Compilation.addRulesFrom_preserves
    (fun rule known reached step => Compilation.Reaches.step reached known step) .here gone
  exact flawed (.misplaced ⟨defined, defines, reached⟩ member listed present)

end Grammar

-----------------------------------------------------------------------------------------
-- The analysis
-----------------------------------------------------------------------------------------

/-- The regular expression of a pattern has a fault, or its width cannot be told. -/
def Grammar.Pattern.HasFault [Installation]
    (pattern : Grammar.Pattern) (fault : Regexp.Fault) : Prop :=
  Regexp.measure pattern.expression = .error fault
  ∨ Regexp.widthOf pattern.expression = .error fault

theorem Grammar.Pattern.hasFault_of_width [Installation]
    {pattern : Grammar.Pattern} {fault : Regexp.Fault}
    (failed : pattern.width = .error fault)
    : pattern.HasFault fault := by
  cases pattern with
  | literal value flags => cases failed
  | regexp source flags => exact .inr failed

namespace Analysis

open Grammar (Compiled Terminal Within within_defect within_rejected)

/-- What is wrong with a grammar that has been taken apart if its analysis ends in a defect. -/
inductive Flaw [Installation] (compiled : Compiled) : Defect → Prop
  | faulty {terminal : Terminal} {fault : Regexp.Fault} (member : terminal ∈ compiled.terminals)
    (faulty : terminal.pattern.HasFault fault)
    : Flaw compiled (widthDefect fault)
  | uncompilable {terminal : Terminal} (member : terminal ∈ compiled.terminals)
    (unusable : ∀ width, Regexp.measure terminal.pattern.expression ≠ .ok ⟨width, true⟩)
    : Flaw compiled .uncompilable

variable {compiled : Compiled} {terminal : Terminal}

theorem within_checkParser {kinds : Defect → Prop} (options : Options)
    : Within kinds (checkParser options) := by
  rw [checkParser]
  split
  · exact confined_ok _
  · exact within_rejected _

theorem within_checkRules {kinds : Defect → Prop} (compiled : Compiled) (start : String)
    : Within kinds (checkRules compiled start) := by
  rw [checkRules]
  split
  · exact within_rejected _
  · exact confined_ok _

variable [Installation]

theorem within_checkLexer (member : terminal ∈ compiled.terminals)
    : Within (Flaw compiled) (checkLexer terminal) := by
  rw [checkLexer]
  split
  · exact within_rejected _
  · rename_i failed
    exact within_defect (.faulty member (.inl failed))
  · split
    · exact within_rejected _
    · split
      · rename_i failed
        exact within_defect (.faulty member (Grammar.Pattern.hasFault_of_width failed))
      · split
        · exact within_rejected _
        · exact confined_ok _

theorem within_checkState (names : List String)
    : Within (Flaw compiled) (checkState compiled names) := by
  refine Confined.bind (confined_forM fun terminal known => ?_) fun _ _ => ?_
  · exact within_checkLexer (List.mem_filter.mp known).1
  split
  · exact confined_ok _
  · exact within_rejected _

theorem within_checkWidth (member : terminal ∈ compiled.terminals)
    : Within (Flaw compiled) (checkWidth terminal) := by
  rw [checkWidth]
  split
  · rename_i failed
    exact within_defect (.faulty member (Grammar.Pattern.hasFault_of_width failed))
  · exact confined_ok _

theorem within_checkLalr (compiled : Compiled) (start : String)
    : Within (Flaw compiled) (checkLalr compiled start) := by
  refine (within_checkRules _ _).bind fun _ _ => ?_
  extract_lets numbering
  split
  · exact within_rejected _
  · refine Confined.bind (confined_forM fun row _ => within_checkState _) fun _ _ => ?_
    exact confined_forM fun terminal member => within_checkWidth member

theorem within_checkMatcher (member : terminal ∈ compiled.terminals)
    : Within (Flaw compiled) (checkMatcher terminal) := by
  rw [checkMatcher]
  split
  · exact within_rejected _
  · exact within_rejected _
  · exact within_rejected _
  · rename_i failed
    exact within_defect (.faulty member (.inr failed))
  · split
    · exact within_rejected _
    · split
      · exact confined_ok _
      · rename_i unusable
        exact within_defect (.uncompilable member unusable)

/-- The analysis goes through the terminals that are used. -/
theorem within_check (options : Options) (compiled : Compiled)
    : Within (Flaw compiled) (check options compiled) := by
  have part : Within (Flaw (compiled.usedFrom options.start)) (check options compiled) := by
    rw [check]
    split
    · exact within_checkLalr _ _
    · exact (within_checkRules _ _).bind fun _ _ => within_checkState _
    · refine Confined.bind (confined_forM fun terminal member => ?_)
        fun _ _ => within_checkRules _ _
      exact within_checkMatcher member
  refine part.weaken fun kind flaw => ?_
  cases flaw with
  | faulty member faulty => exact .faulty (List.mem_filter.mp member).1 faulty
  | uncompilable member unusable => exact .uncompilable (List.mem_filter.mp member).1 unusable

end Analysis

end ReservedWords
