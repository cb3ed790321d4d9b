import ReservedWords.Defect
import ReservedWords.Json.Reader
import ReservedWords.Options

/-!
Configurations: where the grammar is, where generated files go, and the naming options. A
configuration is made from a JSON object; what is wrong with the object is reported one fault at a
time, in a fixed order.
-/

namespace ReservedWords

/-- A configuration. -/
structure Config where
  grammarPath : Path
  scratchDirectory : Path
  options : Options := {}
  deriving DecidableEq, Repr

namespace Config

/-- What is wrong with a configuration. -/
inductive Error where
  | unreadable (path : Path) (cause : FileTree.Cause) (file : String)
  | notJson (path : Path) (fault : Json.Error)
  | notObject
  | missingKey (key : String)
  | unknownOptions (names : List String)
  | badOption (name : String)
  | unknownParser (name : String)
  deriving DecidableEq, Repr

/-- Why there is no configuration: it is reported as wrong, or a defect. -/
inductive Failure where
  | invalid (error : Error)
  | defect (defect : Defect)
  deriving DecidableEq, Repr

/-- The analyses that a configuration may choose. -/
def parsers : List String := ["lalr", "earley"]

/-- The names of the five options. -/
def optionNames : List String :=
  ["parser", "start", "production_prefix", "production_suffix", "keyword_prefix"]

/-- The wording of a fault. -/
def Error.message : Error → String
  | .unreadable path cause file =>
    "cannot read config " ++ path.text ++ ": " ++ FileTree.message cause file
  | .notJson path fault => "invalid JSON in config " ++ path.text ++ ": " ++ fault.message
  | .notObject => "config must be a JSON object"
  | .missingKey key => "config is missing required key " ++ Text.quoted key
  | .unknownOptions names => "unknown option(s): " ++ ", ".intercalate names
  | .badOption name => "option " ++ Text.quoted name ++ " must be a non-empty string"
  | .unknownParser name =>
    "invalid parser " ++ Text.quoted name ++ " (expected one of: " ++ ", ".intercalate parsers
      ++ ")"

/-- Gives one option its value. -/
def setOption (options : Options) (name value : String) : Options :=
  match name with
  | "parser" => { options with parser := value }
  | "start" => { options with start := value }
  | "production_prefix" => { options with productionStart := value }
  | "production_suffix" => { options with aggregateEnd := value }
  | "keyword_prefix" => { options with keywordStart := value }
  | _ => options

/-- The path under a required key. -/
def requiredPath (data : Json.Value String) (key : String) : Except Failure Path :=
  match data.member? key with
  | none => .error (.invalid (.missingKey key))
  | some (.string text) => .ok (Path.ofString text)
  | some _ => .error (.defect .wrongType)

/-- The names that are no options, sorted and without repetitions. -/
def unknownNames (names : List String) : List String :=
  sortTexts (names.filter fun name => !optionNames.contains name).eraseDups

/-- A list of names is refused if one of them is unknown, else it lacks the values. -/
def refuseNames (names : List String) : Except Failure Options :=
  match unknownNames names with
  | [] => .error (.defect .noSuchMember)
  | unknown => .error (.invalid (.unknownOptions unknown))

/-- The text of a JSON string. -/
def stringValue? : Json.Value String → Option String
  | .string text => some text
  | _ => none

/-- Takes one option; its value must be a text that is not empty. -/
def readOption (options : Options) (entry : String × Json.Value String) : Except Failure Options :=
  match entry.2 with
  | .string value =>
    if value = "" then .error (.invalid (.badOption entry.1))
    else .ok (setOption options entry.1 value)
  | _ => .error (.invalid (.badOption entry.1))

/-- Takes the options of an object: none may be unknown, all must be texts, the analysis must be one
of those there are. -/
def readMembers (members : List (String × Json.Value String)) : Except Failure Options :=
  match unknownNames (members.map Prod.fst) with
  | [] => do
    let options ← members.foldlM readOption {}
    if parsers.contains options.parser then return options
    else .error (.invalid (.unknownParser options.parser))
  | unknown => .error (.invalid (.unknownOptions unknown))

/-- Takes the options, which default as a whole and one by one. -/
def readOptions : Option (Json.Value String) → Except Failure Options
  | none => .ok {}
  | some (.object members) => readMembers members
  | some (.string text) => refuseNames (text.toList.map String.singleton)
  | some (.array items) =>
    match items.mapM stringValue? with
    | some names => refuseNames names
    | none => .error (.defect .wrongType)
  | some _ => .error (.defect .wrongType)

/-- The configuration that a JSON value describes. -/
def ofValue (data : Json.Value String) : Except Failure Config :=
  match data with
  | .object _ => do
    let grammarPath ← requiredPath data "grammar_path"
    let scratchDirectory ← requiredPath data "scratch_dir"
    let options ← readOptions (data.member? "options")
    return ⟨grammarPath, scratchDirectory, options⟩
  | _ => .error (.invalid .notObject)

/-- The configuration in a file. In its texts the replacement character stands for a surrogate, which
neither a path nor a name in a grammar can have. -/
def load (tree : FileTree) (path : Path) : Except Failure Config :=
  match tree.readText path.text with
  | .error (.file (.failed cause file)) => .error (.invalid (.unreadable path cause file))
  | .error error => .error (.defect (Defect.ofText error))
  | .ok text =>
    match Json.read text with
    | .error .longInteger => .error (.defect .badValue)
    | .error fault => .error (.invalid (.notJson path fault))
    | .ok data => ofValue (data.map Text.CodeText.shown)

/-- The configuration that comes with the library. -/
def packaged : Config where
  grammarPath := Path.ofString "grammar/sql.lark"
  scratchDirectory := Path.ofString "build/lark-grammar"

/-- Replaces a path by one that is given and not empty. -/
def replacePath (current : Path) : Option String → Path
  | none | some "" => current
  | some text => Path.ofString text

/-- The same configuration with other paths, as far as they are given. -/
def withPaths (config : Config) (grammarPath scratchDirectory : Option String) : Config :=
  { config with
    grammarPath := replacePath config.grammarPath grammarPath
    scratchDirectory := replacePath config.scratchDirectory scratchDirectory }

end Config

end ReservedWords
