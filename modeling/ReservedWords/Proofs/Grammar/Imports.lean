import ReservedWords.Proofs.FileTree
import ReservedWords.Proofs.Grammar.Drafts
import ReservedWords.Proofs.Grammar.Failures

/-!
Grammar texts that cannot be read. Most of what is wrong with a text is a rejection. A defect has
its cause in the text or in one that its imports come to: an import that finds no grammar,
statements that clash, a number with too many digits, or a declaration of what needs a definition.
-/

namespace ReservedWords.Grammar

variable {kinds : Defect → Prop}

-----------------------------------------------------------------------------------------
-- Definitions
-----------------------------------------------------------------------------------------

/-- A definition has a priority with too many digits. -/
def Definition.IsOverlong : Definition → Prop
  | .rule _ _ _ (some text) _ | .terminal _ (some text) _ => numberOf? text = none
  | .rule _ _ _ none _ | .terminal _ none _ => False

/-- A statement with such a definition. -/
def Statement.IsOverlong : Statement → Prop
  | .define definition | .override definition | .extend definition => definition.IsOverlong
  | .ignore _ | .declare _ | .import _ _ _ => False

namespace Draft

/-- The name of a terminal that is only declared stands inside the definition of another one. -/
def NamesDeclared (draft : Draft) : Prop :=
  ∃ terminal id symbol,
    (terminal, .terminal (some id)) ∈ draft.meanings.entries
    ∧ symbol ∈ valueNames (draft.closedCell id)
    ∧ (symbol.name, .terminal none) ∈ draft.meanings.entries

variable (draft : Draft)

theorem within_statements (text : String) : Within kinds (statements text) := by
  rw [statements]
  split
  · exact confined_ok _
  · exact within_rejected _

theorem within_setMeaning (name : String) (meaning : Meaning) (overriding : Bool)
    : Within kinds (draft.setMeaning name meaning overriding) := by
  rw [setMeaning]
  split_ifs
  all_goals first | exact within_rejected _ | exact confined_ok _

theorem within_numberOf {text : String} (overlong : numberOf? text = none → kinds .badValue)
    : Within kinds (numberOf text) := by
  rw [numberOf]
  split
  · exact confined_ok _
  · rename_i none
    exact within_defect (overlong none)

theorem within_options {definition : Definition}
    (overlong : definition.IsOverlong → kinds .badValue)
    : Within kinds definition.options := by
  cases definition with
  | rule modifiers name parameters priority body =>
    rw [Definition.options]
    split
    · exact within_rejected _
    · cases priority with
      | none => exact confined_ok _
      | some text => exact (within_numberOf overlong).bind fun _ _ => confined_ok _
  | terminal name priority body =>
    cases priority with
    | none => exact confined_ok _
    | some text => exact ((within_numberOf overlong).map _).bind fun _ _ => confined_ok _

theorem within_define (definition : Definition) (options : RuleOptions) (overriding : Bool)
    : Within kinds (draft.define definition options overriding) := by
  cases definition <;> exact within_setMeaning _ _ _ _

theorem within_extend (definition : Definition) : Within kinds (draft.extend definition) := by
  rw [Draft.extend]
  split
  · exact within_rejected _
  · split_ifs
    · exact within_rejected _
    · exact within_rejected _
    · split
      all_goals first | exact within_rejected _ | exact confined_ok _

theorem within_perform (rename : Option (String → String)) {statement : Statement}
    (overlong : statement.IsOverlong → kinds .badValue)
    : Within kinds (draft.perform rename statement) := by
  cases statement with
  | define definition | override definition =>
    exact (within_options overlong).bind fun _ _ => within_define _ _ _ _
  | extend definition =>
    exact ((within_options overlong).map _).bind fun _ _ => within_extend _ _
  | declare symbols => exact confined_foldlM fun symbol _ state => within_setMeaning _ _ _ _
  | ignore body => exact confined_ok _
  | «import» relative path names => exact confined_ok _

theorem within_checkTerminal {entry : String × Meaning} (member : entry ∈ draft.meanings.entries)
    (inside : draft.NamesDeclared → kinds .brokenAssumption)
    : Within kinds (draft.checkTerminal entry) := by
  rw [checkTerminal]
  split
  · rename_i id cell
    refine confined_forM fun symbol named => ?_
    rw [checkName]
    split
    · exact within_rejected _
    · split
      · exact confined_ok _
      · rename_i found
        have known : (entry.1, .terminal (some id)) ∈ draft.meanings.entries := cell ▸ member
        exact within_defect
          (inside ⟨entry.1, id, symbol, known, named, Dictionary.get?_eq_some_iff.mp found⟩)
      · exact within_rejected _
  · exact confined_ok _

theorem within_checkRecursion (entry : String × Meaning)
    : Within kinds (draft.checkRecursion entry) := by
  rw [checkRecursion]
  split
  · split
    · exact within_rejected _
    · exact confined_ok _
  · exact confined_ok _

theorem within_link (inside : draft.NamesDeclared → kinds .brokenAssumption)
    : Within kinds draft.link := by
  refine Confined.bind (confined_forM fun entry member => ?_) fun _ _ => ?_
  · exact draft.within_checkTerminal member inside
  refine Confined.bind (confined_forM fun entry _ => within_checkRecursion _ entry) fun _ _ => ?_
  exact confined_ok _

theorem within_checkParameters (template : String) (before after : List String)
    : Within kinds (draft.checkParameters template before after) := by
  induction after generalizing before with
  | nil => exact confined_ok _
  | cons parameter after ih =>
    rw [checkParameters]
    split_ifs
    · exact within_rejected _
    · exact within_rejected _
    · exact ih _

theorem within_checkUse (user : String) (meaning : Meaning) (part : Body)
    : Within kinds (draft.checkUse user meaning part) := by
  cases part with
  | use template arguments =>
    rw [checkUse]
    split
    · exact confined_ok _
    · split
      · exact within_rejected _
      · split
        · exact confined_ok _
        · exact within_rejected _
  | _ => exact confined_ok _

theorem within_checkDefinition (entry : String × Meaning)
    : Within kinds (draft.checkDefinition entry) := by
  refine (draft.within_checkParameters _ _ _).bind fun _ _ => ?_
  split
  · exact confined_ok _
  · refine Confined.bind (confined_forM fun part _ => draft.within_checkUse _ _ part) fun _ _ => ?_
    refine confined_forM fun symbol _ => ?_
    rw [checkSymbol]
    split
    · exact confined_ok _
    · exact within_rejected _

theorem within_validate : Within kinds draft.validate := by
  refine Confined.bind (confined_forM fun entry _ => ?_) fun _ _ => ?_
  · exact draft.within_checkDefinition entry
  split
  · exact confined_ok _
  · exact within_rejected _

theorem within_needs (name : String)
    (bodiless
      : ∀ shown parameters options,
          (shown, .rule parameters none options) ∈ draft.meanings.entries → kinds .noSuchMember)
    : Within kinds (draft.needs name) := by
  rw [needs]
  split
  · exact confined_ok _
  · rename_i found
    exact within_defect (bodiless _ _ _ (Dictionary.get?_eq_some_iff.mp found))
  · exact confined_ok _

theorem within_reachNames (fuel : Nat) (found pending : List String)
    (bodiless
      : ∀ shown parameters options,
          (shown, .rule parameters none options) ∈ draft.meanings.entries → kinds .noSuchMember)
    : Within kinds (draft.reachNames fuel found pending) := by
  induction fuel generalizing found pending with
  | zero => cases pending <;> exact confined_ok _
  | succ fuel ih =>
    cases pending with
    | nil => exact confined_ok _
    | cons name pending => exact (draft.within_needs name bodiless).bind fun _ _ => ih _ _

theorem within_keep (names : List String)
    (bodiless
      : ∀ shown parameters options,
          (shown, .rule parameters none options) ∈ draft.meanings.entries → kinds .noSuchMember)
    : Within kinds (draft.keep names) :=
  (draft.within_reachNames _ _ _ bodiless).bind fun _ _ => confined_ok _

theorem within_merge (imported : Draft) (file : String)
    : Within kinds (draft.merge imported file) := by
  rw [merge]
  split
  · exact within_rejected _
  · exact confined_ok _

end Draft

-----------------------------------------------------------------------------------------
-- Import statements
-----------------------------------------------------------------------------------------

/-- A statement of a text, which is known under a name, asks for an import. -/
def Statement.AsksFor (name : String) (request : ImportRequest) (statement : Statement) : Prop :=
  ∃ relative path names,
    statement = .import relative path names
    ∧ ImportRequest.ofStatement name relative path names = .ok request

namespace ImportRequest

/-- Two requests look for one grammar in the same places. -/
def SamePlace (first second : ImportRequest) : Prop :=
  first.path = second.path ∧ first.base = second.base

/-- Two requests are for one path, but one looks for it where the other does not. -/
def Clash (first second : ImportRequest) : Prop :=
  first.path = second.path ∧ first.base ≠ second.base

theorem within_ofStatement (grammar : String) (relative : Bool) (path : List String)
    (names : ImportNames)
    : Within kinds (ofStatement grammar relative path names) := by
  cases names with
  | list names => exact confined_ok _
  | last | as newName =>
    match path with
    | [] | _ :: _ :: _ => exact confined_ok _
    | [name] => exact within_rejected _

variable {requests after : List ImportRequest} {request other : ImportRequest}

theorem within_add (clash : ∀ known ∈ requests, known.Clash request → kinds .brokenAssumption)
    : Within kinds (add requests request) := by
  induction requests with
  | nil => exact confined_ok _
  | cons known others ih =>
    rw [add]
    split
    · rename_i path
      split
      · exact confined_ok _
      · rename_i base
        exact within_defect (clash known List.mem_cons_self ⟨path, base⟩)
    · exact (ih fun known member => clash known (List.mem_cons_of_mem _ member)).map _

/-- A request that is there after another one is added was there before, or looks in the same places
as the one that is added. -/
theorem samePlace_of_add (done : add requests request = .ok after) (member : other ∈ after)
    : (∃ known ∈ requests, known.SamePlace other) ∨ request.SamePlace other := by
  induction requests generalizing after with
  | nil =>
    cases done
    cases List.mem_singleton.mp member
    exact .inr ⟨rfl, rfl⟩
  | cons known others ih =>
    rw [add] at done
    split at done
    · split at done
      · cases done
        rcases List.mem_cons.mp member with rfl | later
        · exact .inl ⟨known, List.mem_cons_self, rfl, rfl⟩
        · exact .inl ⟨other, List.mem_cons_of_mem _ later, rfl, rfl⟩
      · cases done
    · cases rest : add others request with
      | error failure =>
        rw [rest] at done
        cases done
      | ok found =>
        rw [rest] at done
        cases done
        rcases List.mem_cons.mp member with rfl | later
        · exact .inl ⟨other, List.mem_cons_self, rfl, rfl⟩
        · refine (ih rest later).imp_left ?_
          rintro ⟨before, present, same⟩
          exact ⟨before, List.mem_cons_of_mem _ present, same⟩

theorem SamePlace.trans {first second third : ImportRequest} (same : first.SamePlace second)
    (next : second.SamePlace third)
    : first.SamePlace third :=
  ⟨same.1.trans next.1, same.2.trans next.2⟩

theorem SamePlace.clash {first second third : ImportRequest} (same : first.SamePlace second)
    (clash : second.Clash third)
    : first.Clash third :=
  ⟨same.1.trans clash.1, same.2 ▸ clash.2⟩

/-- Every request looks where some statement asks to. -/
def Founded (name : String) (statements : List Statement) (requests : List ImportRequest) : Prop :=
  ∀ request ∈ requests,
    ∃ statement ∈ statements, ∃ first, statement.AsksFor name first ∧ first.SamePlace request

theorem Founded.add {name : String} {statements : List Statement} {statement : Statement}
    (founded : Founded name statements requests) (member : statement ∈ statements)
    (asks : statement.AsksFor name request) (done : add requests request = .ok after)
    : Founded name statements after := by
  intro other later
  rcases samePlace_of_add done later with ⟨known, present, same⟩ | same
  · obtain ⟨earlier, before, first, asked, place⟩ := founded known present
    exact ⟨earlier, before, first, asked, place.trans same⟩
  · exact ⟨statement, member, request, asks, same⟩

/-- The requests of some statements are collected unless two statements clash, as every request that
has been collected looks where some statement asks to. -/
theorem within_collect {name : String} {statements : List Statement}
    (clash
      : ∀ earlier ∈ statements,
          ∀ later ∈ statements,
            ∀ first second,
              earlier.AsksFor name first
              → later.AsksFor name second
              → first.Clash second
              → kinds .brokenAssumption)
    : Within kinds (collect name statements) := by
  refine confined_foldlM_of_preserves
    (fun statement member before after (founded : Founded name statements before) step => ?_)
    (fun statement member before founded => ?_) nofun
  · cases statement with
    | «import» relative path names =>
      obtain ⟨request, made, added⟩ := bind_eq_ok.mp step
      exact founded.add member ⟨relative, path, names, rfl, made⟩ added
    | _ =>
      cases step
      exact founded
  · cases statement with
    | «import» relative path names =>
      refine (within_ofStatement _ _ _ _).bind fun request made => ?_
      refine within_add fun known present differs => ?_
      obtain ⟨earlier, stands, first, asks, same⟩ := founded known present
      exact clash earlier stands _ member first request asks ⟨relative, path, names, rfl, made⟩
        (same.clash differs)
    | _ => exact confined_ok _

end ImportRequest

-----------------------------------------------------------------------------------------
-- The search for an imported grammar
-----------------------------------------------------------------------------------------

namespace ImportRequest

variable {context : ImportContext} {request : ImportRequest}

/-- The paths under which a grammar is looked for before the library. -/
def places (context : ImportContext) (request : ImportRequest) : List String :=
  (context.directory :: request.base.toList).map (join · request.file)

/-- A grammar that is not in any place, and not in the library if this is looked through. -/
structure Missing [Installation] (context : ImportContext) (request : ImportRequest) : Prop where
  nowhere
    : ∀ place ∈ request.places context,
        ∃ error, context.tree.readText place = .error (.file error)
  foreign : request.base = none → Installation.grammar? request.file = none

/-- A missing grammar whose file cannot be opened in the working directory either. -/
structure Unfound [Installation]
    (context : ImportContext) (request : ImportRequest) (cause : FileTree.Cause)
    : Prop extends request.Missing context where
  unread : ∃ path, context.tree.read request.file = .error (.failed cause path)

/-- A missing grammar whose file is in the working directory, where no grammar is looked for. -/
structure Elsewhere [Installation] (context : ImportContext) (request : ImportRequest) : Prop
    extends request.Missing context where
  read : ∃ content, context.tree.read request.file = .ok content

/-- A grammar that is no text in one of its places. -/
def Undecodable (context : ImportContext) (request : ImportRequest) : Prop :=
  ∃ place ∈ request.places context,
    ∃ fault, context.tree.readText place = .error (.undecodable fault)

theorem searchIn_eq_none {tree : FileTree} {file : String} {directories : List String}
    : searchIn tree file directories = .ok none
      ↔ ∀ place ∈ directories.map (join · file),
          ∃ error, tree.readText place = .error (.file error) := by
  induction directories with
  | nil => simp [searchIn]
  | cons directory rest ih =>
    rw [searchIn, List.map_cons, List.forall_mem_cons, ← ih]
    cases read : tree.readText (join directory file) with
    | ok text => simp
    | error error => cases error <;> simp

theorem searchIn_eq_error {tree : FileTree} {file : String} {directories : List String}
    {failure : Failure} (failed : searchIn tree file directories = .error failure)
    : failure = .defect .undecodable
      ∧ ∃ place ∈ directories.map (join · file),
          ∃ fault, tree.readText place = .error (.undecodable fault) := by
  induction directories with
  | nil => cases failed
  | cons directory rest ih =>
    rw [searchIn] at failed
    cases read : tree.readText (join directory file) with
    | ok text =>
      simp only [read] at failed
      cases failed
    | error error =>
      simp only [read] at failed
      cases error with
      | undecodable fault =>
        cases failed
        exact ⟨rfl, _, List.mem_cons_self, fault, read⟩
      | file error =>
        obtain ⟨same, place, member, faulty⟩ := ih failed
        exact ⟨same, place, List.mem_cons_of_mem _ member, faulty⟩

/-- A grammar that is found nowhere ends the search in a defect of the file. -/
theorem search_of_unfound [Installation]
    {cause : FileTree.Cause} (unfound : request.Unfound context cause)
    : request.search context = .error (.defect (.file cause)) := by
  have missed
      : searchIn context.tree request.file (context.directory :: request.base.toList) = .ok none :=
    searchIn_eq_none.mpr unfound.nowhere
  have foreign : (if request.base.isNone then Installation.grammar? request.file else none) = none := by
    split
    · rename_i base
      exact unfound.foreign (Option.isNone_iff_eq_none.mp base)
    · rfl
  obtain ⟨path, unread⟩ := unfound.unread
  simp only [search, missed, foreign, unread]
  rfl

/-- The ways in which a search fails. -/
theorem search_eq_error [Installation]
    {failure : Failure} (failed : request.search context = .error failure)
    : (∃ cause, failure = .defect (.file cause) ∧ request.Unfound context cause)
      ∨ failure = .defect .undecodable ∧ request.Undecodable context
      ∨ failure = .defect .brokenAssumption ∧ request.Elsewhere context
      ∨ failure = .defect .badValue ∧ '\x00' ∈ request.file.toList := by
  cases looked : searchIn context.tree request.file (context.directory :: request.base.toList) with
  | error error =>
    obtain ⟨rfl, faulty⟩ := searchIn_eq_error looked
    simp only [search, looked] at failed
    cases failed
    exact .inr (.inl ⟨rfl, faulty⟩)
  | ok result =>
    simp only [search, looked] at failed
    cases result with
    | some found => cases failed
    | none =>
      cases library : (if request.base.isNone then Installation.grammar? request.file else none) with
      | some text =>
        simp only [library] at failed
        cases failed
      | none =>
        simp only [library] at failed
        have missing : request.Missing context := by
          refine ⟨searchIn_eq_none.mp looked, fun base => ?_⟩
          simpa [base] using library
        cases read : context.tree.read request.file with
        | ok content =>
          simp only [read] at failed
          cases failed
          exact .inr (.inr (.inl ⟨rfl, missing, content, read⟩))
        | error error =>
          simp only [read] at failed
          cases failed
          cases error with
          | embeddedNul => exact .inr (.inr (.inr ⟨rfl, FileTree.nul_of_read read⟩))
          | failed cause path => exact .inl ⟨cause, rfl, missing, path, read⟩

end ImportRequest

-----------------------------------------------------------------------------------------
-- The causes of defects
-----------------------------------------------------------------------------------------

variable [Installation]

/-- What is wrong with a text, which is known under a name, if reading it ends in a defect. -/
inductive Flaw (context : ImportContext) (name text : String) : Defect → Prop
  | unfound {request : ImportRequest} {cause : FileTree.Cause} (asked : request.AskedBy name text)
    (unfound : request.Unfound context cause)
    : Flaw context name text (.file cause)
  | undecodable {request : ImportRequest} (asked : request.AskedBy name text)
    (undecodable : request.Undecodable context)
    : Flaw context name text .undecodable
  | elsewhere {request : ImportRequest} (asked : request.AskedBy name text)
    (elsewhere : request.Elsewhere context)
    : Flaw context name text .brokenAssumption
  | nul {request : ImportRequest} (asked : request.AskedBy name text)
    (nul : '\x00' ∈ request.file.toList)
    : Flaw context name text .badValue
  | clash {earlier later : Statement} {first second : ImportRequest}
    (before : earlier.StandsIn text) (after : later.StandsIn text)
    (asks : earlier.AsksFor name first) (asksToo : later.AsksFor name second)
    (clash : first.Clash second)
    : Flaw context name text .brokenAssumption
  | overlong {statement : Statement} (stands : statement.StandsIn text)
    (overlong : statement.IsOverlong)
    : Flaw context name text .badValue
  /-- A terminal is used in another one, but only declared, here or in a text that is imported. -/
  | declaredTerminal {depth : Nat} {rename : Option (String → String)} {cells : List Body}
    {draft : Draft} (drafted : Draft.unlinked context depth name text rename cells = .ok draft)
    (inside : draft.NamesDeclared) (declared : Declared context name text .terminal)
    : Flaw context name text .brokenAssumption
  /-- No rule can be done without a body. -/
  | declaredRule (declares : DeclaresIn text .rule) : Flaw context name text .noSuchMember

/-- What a defect of a text comes from: a flaw of a text that it comes to, or so many nested imports
as there should never be. -/
inductive Cause (context : ImportContext) (depth : Nat) (name text : String) : Defect → Prop
  | flaw {imports : Nat} {found inner : String} {kind : Defect}
    (reached : Reaches context imports name text found inner)
    (flaw : Flaw context found inner kind)
    : Cause context depth name text kind
  | deep {found inner : String} (reached : Reaches context depth name text found inner)
    : Cause context depth name text .endlessRecursion

section

variable {context : ImportContext} {depth : Nat} {name text : String}

/-- What an import causes is caused by the text that asks for it. -/
theorem Cause.through {next between : String} {request : ImportRequest} {kind : Defect}
    (asked : request.AskedBy name text) (first : request.search context = .ok (next, between))
    (cause : Cause context depth next between kind)
    : Cause context (depth + 1) name text kind := by
  cases cause with
  | flaw reached flaw => exact .flaw (.through asked first reached) flaw
  | deep reached => exact .deep (.through asked first reached)

theorem Cause.of_declared (declared : Declared context name text .rule)
    : Cause context depth name text .noSuchMember := by
  obtain ⟨imports, found, inner, reached, declares⟩ := declared
  exact .flaw reached (.declaredRule declares)

theorem within_search {request : ImportRequest} (asked : request.AskedBy name text)
    : Within (Flaw context name text) (request.search context) := by
  intro failure failed
  rcases ImportRequest.search_eq_error failed with
    ⟨cause, rfl, unfound⟩ | ⟨rfl, undecodable⟩ | ⟨rfl, elsewhere⟩ | ⟨rfl, nul⟩
  · exact .unfound asked unfound
  · exact .undecodable asked undecodable
  · exact .elsewhere asked elsewhere
  · exact .nul asked nul

/-- An import is confined to its causes if the imported grammar is. -/
theorem within_addImport {rename : Option (String → String)} {draft : Draft}
    {request : ImportRequest} (asked : request.AskedBy name text)
    (imported
      : ∀ {found inner rename cells},
          Within (Cause context depth found inner)
            (Draft.ofText context depth found inner rename cells))
    : Within (Cause context (depth + 1) name text)
        (draft.addImport context depth rename request) := by
  refine Confined.bind ((within_search asked).weaken fun kind flaw => .flaw .here flaw)
    fun ⟨found, inner⟩ first => ?_
  refine Confined.bind (imported.weaken fun kind caused => caused.through asked first)
    fun other read => ?_
  refine (other.within_keep _ fun shown parameters options member => ?_).bind fun kept _ => ?_
  · have declared := (Draft.declaredBy_of_ofText read shown _ member (.rule _ _)).2
    exact .of_declared (declared.through asked first)
  · exact draft.within_merge kept request.file

/-- The definitions of a text are confined to its causes if the imported grammars are. -/
theorem within_unlinked {rename : Option (String → String)} {cells : List Body}
    (imported
      : ∀ {found inner rename cells},
          Within (Cause context depth found inner)
            (Draft.ofText context depth found inner rename cells))
    : Within (Cause context (depth + 1) name text)
        (Draft.unlinked context depth name text rename cells) := by
  refine (Draft.within_statements text).bind fun statements parsed => ?_
  refine Confined.bind (ImportRequest.within_collect fun earlier before later after first second
    asks asksToo clash => ?_) fun requests collected => ?_
  · exact .flaw .here
      (.clash ⟨statements, parsed, before⟩ ⟨statements, parsed, after⟩ asks asksToo clash)
  refine Confined.bind (confined_foldlM fun request member draft => ?_) fun draft _ => ?_
  · exact within_addImport ⟨statements, requests, parsed, collected, member⟩ imported
  · refine confined_foldlM fun statement member draft => ?_
    refine draft.within_perform rename fun overlong => ?_
    exact .flaw .here (.overlong ⟨statements, parsed, member⟩ overlong)

theorem within_link {rename : Option (String → String)} {cells : List Body} {draft : Draft}
    (drafted : Draft.unlinked context depth name text rename cells = .ok draft)
    : Within (Flaw context name text) draft.link := by
  refine draft.within_link fun inside => .declaredTerminal drafted inside ?_
  obtain ⟨terminal, id, symbol, known, named, bare⟩ := inside
  have declared := Draft.declaredBy_of_unlinked Draft.declaredBy_of_ofText drafted
  exact (declared symbol.name _ bare .terminal).2

/-- The defects of a text have causes, by induction on the depth to which imports are nested. -/
theorem within_ofText {rename : Option (String → String)} {cells : List Body}
    : Within (Cause context depth name text)
        (Draft.ofText context depth name text rename cells) := by
  induction depth generalizing name text rename cells with
  | zero => exact within_defect (.deep .here)
  | succ depth ih =>
    rw [Draft.ofText_succ]
    refine (within_unlinked ih).bind fun draft drafted => ?_
    exact (within_link drafted).weaken fun kind flaw => .flaw .here flaw

theorem within_read : Within (Cause context (context.tree.nodes.length + 2) name text)
        (Grammar.read context name text) := by
  refine within_ofText.bind fun draft _ => ?_
  exact draft.within_validate.bind fun _ _ => confined_ok _

end

end ReservedWords.Grammar
