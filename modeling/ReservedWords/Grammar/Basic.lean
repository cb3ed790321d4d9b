import ReservedWords.Grammar.Import

/-!
Grammars: the terminals and the rules of a grammar text with all its imports, in the order of their
definition. `Grammar.read` accepts a text if all its statements can be carried out and every name that
is used has a definition.
-/

namespace ReservedWords

/-- A rule or a template; without a body it is only declared. -/
structure Grammar.Rule where
  name : String
  parameters : List String
  body : Option Grammar.Body
  options : Grammar.RuleOptions

/-- A grammar. -/
structure Grammar where
  /-- The terminals with their definitions, in which every reference to another terminal is replaced
  by that terminal's definition; a declared terminal has none. -/
  terminals : List (String × Option Grammar.Body)
  rules : List Grammar.Rule
  /-- The names of the terminals to ignore. -/
  ignored : List String

namespace Grammar

namespace Draft

/-- The body of a definition without references to cells. -/
def bodyOf (draft : Draft) : Meaning → Option Body
  | .terminal cell => cell.map draft.closedCell
  | .rule _ body _ => body

/-- Checks the parameters of a template: they are no names of the grammar, and no two are equal. -/
def checkParameters (draft : Draft) (template : String) : (before after : List String)
    → Except Failure Unit
  | _, [] => .ok ()
  | before, parameter :: after =>
    if draft.meanings.contains parameter then reject (.parameterIsRule parameter template)
    else if before.contains parameter then reject (.duplicateParameter parameter template)
    else draft.checkParameters template (before ++ [parameter]) after

/-- Checks a use of a template: it is a parameter, or defined with as many parameters as it is given
arguments. -/
def checkUse (draft : Draft) (user : String) (meaning : Meaning) (part : Body)
    : Except Failure Unit :=
  match part with
  | .use template arguments =>
    if meaning.parameters.contains template.name then .ok ()
    else
      match draft.meanings.get? template.name with
      | none => reject (.undefinedTemplate template.name meaning.kind user)
      | some used =>
        if arguments.length = used.parameters.length then .ok ()
        else
          reject (.argumentCount template.name used.parameters.length arguments.length meaning.kind
            user)
  | _ => .ok ()

/-- Checks that a name that is used is a parameter or defined. -/
def checkSymbol (draft : Draft) (user : String) (meaning : Meaning) (symbol : Symbol)
    : Except Failure Unit :=
  if draft.meanings.contains symbol.name || meaning.parameters.contains symbol.name then .ok ()
  else reject (.undefinedSymbol symbol.name meaning.kind user)

/-- Checks a definition. -/
def checkDefinition (draft : Draft) (entry : String × Meaning) : Except Failure Unit := do
  let (name, meaning) := entry
  draft.checkParameters name [] meaning.parameters
  match draft.bodyOf meaning with
  | none => return
  | some body =>
    body.parts.forM (draft.checkUse name meaning)
    body.usedSymbols.forM (draft.checkSymbol name meaning)

/-- Checks all definitions and the terminals to ignore. -/
def validate (draft : Draft) : Except Failure Unit := do
  draft.meanings.entries.forM draft.checkDefinition
  match draft.ignored.filter fun name => !draft.meanings.contains name with
  | [] => return
  | missing => reject (.undefinedIgnored missing.eraseDups)

/-- The terminals of a draft. -/
def terminals (draft : Draft) : List (String × Option Body) :=
  draft.meanings.entries.filterMap fun (name, meaning) =>
    match meaning with
    | .terminal cell => some (name, cell.map draft.closedCell)
    | .rule _ _ _ => none

/-- The rules of a draft. -/
def rules (draft : Draft) : List Rule :=
  draft.meanings.entries.filterMap fun (name, meaning) =>
    match meaning with
    | .terminal _ => none
    | .rule parameters body options => some ⟨name, parameters, body, options⟩

end Draft

/-- The grammar that a text defines. The text is known under `name`, which imports relative to it
start from. -/
def read [Installation] (context : ImportContext) (name text : String) : Except Failure Grammar := do
  let draft ← Draft.ofText context (context.tree.nodes.length + 2) name text none []
  draft.validate
  return ⟨draft.terminals, draft.rules, draft.ignored⟩

/-- The rule definitions of a grammar, as the production table shows them. -/
def ruleDefinitions (grammar : Grammar) : List ReservedWords.Definition.Rule :=
  grammar.rules.map fun rule =>
    { name := rule.name
      parameters := rule.parameters
      tree := (rule.body.map Body.tree).getD (.leaf (.plain "NoneType")) }

end Grammar

end ReservedWords
