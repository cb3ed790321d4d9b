import ReservedWords.Grammar.Terminal

/-!
Template instances: every use of a template with other arguments becomes a rule of its own, which is
named by the template and its arguments and comes after the rules there are.
-/

namespace ReservedWords.Grammar

namespace Body

mutual

/-- The name of the symbol that a value becomes: its own, or that of an instance. -/
def valueName : Body → String
  | .symbol name => name.name
  | .use template arguments =>
    template.name ++ "\x7b" ++ ",".intercalate (valueNames arguments) ++ "\x7d"
  | _ => ""

/-- The names of the symbols that some values become. -/
def valueNames : List Body → List String
  | [] => []
  | body :: bodies => valueName body :: valueNames bodies

end

/-- The symbol that a value becomes. -/
def valueSymbol : Body → Symbol
  | .symbol name => name
  | body => .ofRule body.valueName

/-- A template's body with arguments in the places of its parameters. -/
def instantiate (arguments : List (String × Symbol)) : Body → Body :=
  rewrite
    { atom := fun atom =>
        match atom with
        | .symbol name =>
          match arguments.lookup name.name with
          | some argument => .symbol argument
          | none => atom
        | atom => atom
      template := fun template => (arguments.lookup template.name).getD template }

end Body

namespace Rule

/-- The instance of a template. There must be one rule of its name, with as many parameters as there
are arguments. -/
def instance? (rules : List Rule) (template : Symbol) (arguments : List Body) : Option Rule :=
  match rules.filter (·.name == template.name) with
  | [rule] =>
    if rule.parameters.length = arguments.length then
      rule.body.map fun body =>
        { name := (Body.use template arguments).valueName
          parameters := []
          body := body.instantiate (rule.parameters.zip (arguments.map Body.valueSymbol))
          options := rule.options }
    else none
  | _ => none

/-- Adds the instance of a use of a template to the rules, unless it is there. -/
def addInstance (rules : List Rule) : Body → Except Failure (List Rule)
  | .use template arguments =>
    let name := (Body.use template arguments).valueName
    if rules.any (·.name == name) then .ok rules
    else
      match instance? rules template arguments with
      | some created => .ok (rules ++ [created])
      | none => .error (.rejected .visitFailed)
  | _ => .ok rules

/-- Adds the instances of all uses in a body. -/
def addInstances (rules : List Rule) (body : Body) : Except Failure (List Rule) :=
  body.parts.foldlM addInstance rules

end Rule

end ReservedWords.Grammar
