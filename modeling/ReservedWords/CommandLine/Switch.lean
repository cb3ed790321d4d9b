import ReservedWords.Text.Digit
import ReservedWords.Text.Quoted

/-!
Switches: the words of a command line that start with a hyphen. A switch has names of one letter and
long names. A long name may be cut short as long as only one name goes on like that. A value may stand
in the same word, after an equals sign or right after a name of one letter.
-/

namespace ReservedWords.CommandLine

/-- What a switch does. -/
inductive Effect where
  | flag
  /-- It takes a value. -/
  | value
  /-- It asks for help, and nothing else is done. -/
  | help
  deriving DecidableEq, Repr

/-- A switch: its names with their hyphens, what it does, and whether it must be there. -/
structure Switch where
  names : List String
  effect : Effect
  required : Bool := false
  deriving DecidableEq, Repr

/-- A place for a word that is no switch. -/
structure Operand where
  name : String
  /-- Everything behind the word belongs to the operand too. -/
  takesRest : Bool := false
  deriving DecidableEq, Repr

/-- What a command line may hold: switches anywhere, operands in their order. -/
structure Interface where
  program : String
  switches : List Switch
  operands : List Operand
  deriving DecidableEq, Repr

/-- What is wrong with a command line. -/
inductive Refusal where
  | ambiguous (word : String) (names : List String)
  | missingValue (switch : Switch)
  | ignoredValue (switch : Switch) (value : String)
  | unknownChoice (operand value : String) (choices : List String)
  | missing (names : List String)
  | unrecognized (words : List String)
  deriving DecidableEq, Repr

/-- What stands behind the name of a switch in the same word. -/
inductive Attachment where
  | nothing
  /-- A text behind an equals sign. -/
  | assigned (value : List Char)
  /-- A text right behind a name of one letter. -/
  | adjoining (text : List Char)
  deriving DecidableEq, Repr

/-- What a word of a command line is. -/
inductive Reading where
  /-- Two hyphens: no word behind them is a switch. -/
  | separator
  | plain
  | known (switch : Switch) (attachment : Attachment)
  /-- A word that looks like a switch and is none. -/
  | unknown
  deriving DecidableEq, Repr

/-- A word with its reading. -/
structure Word where
  text : String
  reading : Reading
  deriving DecidableEq, Repr

/-- The names of a switch, for messages. -/
def Switch.label (switch : Switch) : String :=
  "/".intercalate switch.names

/-- The wording of a refusal. -/
def Refusal.message : Refusal → String
  | ambiguous word names =>
    "ambiguous option: " ++ word ++ " could match " ++ ", ".intercalate names
  | missingValue switch => "argument " ++ switch.label ++ ": expected one argument"
  | ignoredValue switch value =>
    "argument " ++ switch.label ++ ": ignored explicit argument " ++ Text.quoted value
  | unknownChoice operand value choices =>
    "argument " ++ operand ++ ": invalid choice: " ++ Text.quoted value ++ " (choose from "
      ++ ", ".intercalate (choices.map fun (choice : String) => Text.quoted choice) ++ ")"
  | missing names => "the following arguments are required: " ++ ", ".intercalate names
  | unrecognized words => "unrecognized arguments: " ++ " ".intercalate words

/-- A hyphen and a decimal number, which may end in a line feed. -/
def isNegativeNumber (word : List Char) : Bool :=
  match word with
  | '-' :: rest =>
    let number := if rest.getLast? = some '\n' then rest.dropLast else rest
    match number.dropWhile Text.isDigit with
    | [] => number ≠ []
    | '.' :: digits => digits ≠ [] && digits.all Text.isDigit
    | _ => false
  | _ => false

/-- The part of a word before its first equals sign, and the part behind it if there is one. -/
def cutAtEquals (word : List Char) : List Char × Option (List Char) :=
  (word.takeWhile (· ≠ '='), (word.dropWhile (· ≠ '=')).tail?)

/-- The reading of a text that may stand behind an equals sign. -/
def Attachment.ofAssigned : Option (List Char) → Attachment
  | some value => .assigned value
  | none => .nothing

namespace Interface

/-- The switches by their names, in the order in which they are declared. -/
def named (interface : Interface) : List (String × Switch) :=
  interface.switches.flatMap fun switch => switch.names.map fun name => (name, switch)

/-- The switch of a name. -/
def find? (interface : Interface) (name : List Char) : Option Switch :=
  interface.named.lookup (String.ofList name)

/-- The switches that a word can mean whose name is not written in full: the long names that go on
like it, or the name of one letter that it starts with. -/
def candidates (interface : Interface) (word : List Char) : List (String × Switch × Attachment) :=
  match word with
  | '-' :: '-' :: _ =>
    let (start, value?) := cutAtEquals word
    (interface.named.filter fun (name, _) => start.isPrefixOf name.toList).map
      fun (name, switch) => (name, switch, .ofAssigned value?)
  | '-' :: letter :: rest =>
    (interface.named.filter fun (name, _) => name.toList = ['-', letter]).map
      fun (name, switch) => (name, switch, .adjoining rest)
  | _ => []

/-- Reads a word whose name is not that of a switch. -/
def readInexact (interface : Interface) (word : List Char) : Except Refusal Reading :=
  match interface.candidates word with
  | [(_, switch, attachment)] => .ok (.known switch attachment)
  | [] => .ok (if isNegativeNumber word || word.contains ' ' then .plain else .unknown)
  | several => .error (.ambiguous (String.ofList word) (several.map Prod.fst))

/-- Reads a word that no separator stands before. -/
def read (interface : Interface) (word : List Char) : Except Refusal Reading :=
  match word with
  | '-' :: _ :: _ =>
    match interface.find? word, cutAtEquals word with
    | some switch, _ => .ok (.known switch .nothing)
    | none, (name, some value) =>
      match interface.find? name with
      | some switch => .ok (.known switch (.assigned value))
      | none => interface.readInexact word
    | none, (_, none) => interface.readInexact word
  | _ => .ok .plain

/-- Reads the words of a command line. -/
def readAll (interface : Interface) : List String → Except Refusal (List Word)
  | [] => .ok []
  | word :: rest =>
    if word = "--" then
      .ok (⟨word, .separator⟩ :: rest.map fun other => ⟨other, .plain⟩)
    else do
      let reading ← interface.read word.toList
      let others ← interface.readAll rest
      return ⟨word, reading⟩ :: others

end Interface

end ReservedWords.CommandLine
