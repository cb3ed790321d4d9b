import ReservedWords.Defect
import ReservedWords.Grammar.Body

/-!
What a grammar is rejected for. Every cause has one wording; where the exact words depend on internals
of the check, the wording is a tag in angle brackets.
-/

namespace ReservedWords.Grammar

/-- Why a grammar is rejected. -/
inductive Error where
  /-- A lexeme is out of place. `explained` tells that the mistake is a known one. -/
  | syntaxError (line column : Nat) (explained : Bool)
  | definedTwice (kind : SymbolKind) (name : String)
  | overridesNothing (kind : SymbolKind) (name : String)
  | reservedName (kind : SymbolKind) (name : String)
  | extendsNothing (kind : SymbolKind) (name : String)
  | extendsOtherKind (kind : SymbolKind) (name : String)
  | extendsOtherParameters (kind : SymbolKind) (name : String)
  | extendsAbstract (kind : SymbolKind) (name : String)
  | nothingImported (grammar : String)
  | alreadyDefined (name file : String)
  | inlinedModifier
  | ruleInTerminal (rule : Symbol) (terminal : String)
  | undefinedTerminal (name : String)
  | recursiveTerminal (name : String)
  | parameterIsRule (parameter template : String)
  | duplicateParameter (parameter template : String)
  | undefinedTemplate (template : String) (kind : SymbolKind) (user : String)
  | argumentCount (template : String) (expected actual : Nat) (kind : SymbolKind) (user : String)
  | undefinedSymbol (name : String) (kind : SymbolKind) (user : String)
  | undefinedIgnored (names : List String)
  | emptyTerminal (name : String)
  | newlineInRegexp
  | emptyLiteral (text : String)
  | badEscape
  | badRange
  | aliasInTerminal
  /-- A rule of the notation fails while it is applied. -/
  | visitFailed
  | labelOfInlined (rule label : String)
  | rulesDefinedTwice
  | undefinedRule (name : String)
  | reduceConflict
  | badRegexp
  | zeroWidth
  | ignoredNotDefined (names : List String)
  | unknownParser (name : String)
  deriving DecidableEq, Repr

/-- Why there is no result for a grammar: it is rejected, or a defect. -/
inductive Failure where
  | rejected (error : Error)
  | defect (defect : Defect)
  deriving DecidableEq, Repr

/-- The word for a class of symbols inside a sentence. -/
def SymbolKind.word : SymbolKind → String
  | .terminal => "terminal"
  | .rule => "rule"

/-- The word for a class of symbols at the start of a sentence. -/
def SymbolKind.title : SymbolKind → String
  | .terminal => "Terminal"
  | .rule => "Rule"

/-- Some names in braces. -/
def namesInBraces (names : List String) : String :=
  "\x7b" ++ ", ".intercalate (names.map fun (name : String) => Text.quoted name) ++ "\x7d"

/-- The wording of a rejection. -/
def Error.message : Error → String
  | .syntaxError line column _ =>
    "<syntax error at line " ++ toString line ++ " column " ++ toString column ++ ">"
  | .definedTwice kind name => kind.title ++ " '" ++ name ++ "' defined more than once"
  | .overridesNothing kind name => "Cannot override a nonexisting " ++ kind.word ++ " " ++ name
  | .reservedName _ name =>
    "Names starting with double-underscore are reserved (Error at " ++ name ++ ")"
  | .extendsNothing kind name =>
    "Can't extend " ++ kind.word ++ " " ++ name ++ " as it wasn't defined before"
  | .extendsOtherKind kind name =>
    "Cannot extend " ++ kind.word ++ " " ++ name
      ++ " - one is a terminal, while the other is not."
  | .extendsOtherParameters kind name =>
    "Cannot extend " ++ kind.word ++ " with different parameters: " ++ name
  | .extendsAbstract kind name =>
    "Can't extend " ++ kind.word ++ " " ++ name ++ " - it is abstract."
  | .nothingImported grammar => "Nothing was imported from grammar `" ++ grammar ++ "`"
  | .alreadyDefined name file =>
    "Cannot import '" ++ name ++ "' from '" ++ file ++ "': Symbol already defined."
  | .inlinedModifier => "Inlined rules (_rule) cannot use the ?rule modifier."
  | .ruleInTerminal rule terminal =>
    "Rules aren't allowed inside terminals (" ++ rule.text ++ " in " ++ terminal ++ ")"
  | .undefinedTerminal name => "Terminal used but not defined: " ++ name
  | .recursiveTerminal name =>
    "Recursion in terminal '" ++ name
      ++ "' (recursion is only allowed in rules, not terminals)"
  | .parameterIsRule parameter template =>
    "Template Parameter conflicts with rule " ++ parameter ++ " (in template " ++ template ++ ")"
  | .duplicateParameter parameter template =>
    "Duplicate Template Parameter " ++ parameter ++ " (in template " ++ template ++ ")"
  | .undefinedTemplate template kind user =>
    "Template '" ++ template ++ "' used but not defined (in " ++ kind.word ++ " " ++ user ++ ")"
  | .argumentCount template expected actual kind user =>
    "Wrong number of template arguments used for " ++ template ++ " (expected "
      ++ toString expected ++ ", got " ++ toString actual ++ ") (in " ++ kind.word ++ " " ++ user
      ++ ")"
  | .undefinedSymbol name kind user =>
    kind.title ++ " '" ++ name ++ "' used but not defined (in " ++ kind.word ++ " " ++ user ++ ")"
  | .undefinedIgnored names =>
    "Terminals " ++ namesInBraces names ++ " were marked to ignore but were not defined!"
  | .emptyTerminal name => "Terminals cannot be empty (" ++ name ++ ")"
  | .newlineInRegexp =>
    "You can only use newlines in regular expressions with the `x` (verbose) flag"
  | .emptyLiteral text => "Empty terminals are not allowed (" ++ text ++ ")"
  | .badEscape => "<bad escaping>"
  | .badRange => "<bad range>"
  | .aliasInTerminal => "Aliasing not allowed in terminals (You used -> in the wrong place)"
  | .visitFailed => "<visit error>"
  | .labelOfInlined rule label =>
    "Rule " ++ rule ++ " is marked for expansion (it starts with an underscore) and isn't allowed "
      ++ "to have aliases (alias=" ++ label ++ ")"
  | .rulesDefinedTwice => "<rules defined twice>"
  | .undefinedRule name => "Using an undefined rule: " ++ (Symbol.ofRule name).text
  | .reduceConflict => "<reduce/reduce collision>"
  | .badRegexp => "<bad regexp>"
  | .zeroWidth => "<zero-width terminal>"
  | .ignoredNotDefined names => "Ignore terminals are not defined: " ++ namesInBraces names
  | .unknownParser name =>
    "Got " ++ Text.quoted name ++ ", expected one of ('earley', 'lalr', 'cyk', None)"

end ReservedWords.Grammar
