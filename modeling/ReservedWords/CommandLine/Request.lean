import ReservedWords.CommandLine.Arguments
import ReservedWords.Path

/-!
Requests: what a command line asks the program to do. The first operand is the command; the words
behind it are read again as that command's own.
-/

namespace ReservedWords.CommandLine

/-- The commands. -/
inductive Command where
  | extract
  | check
  deriving DecidableEq, Repr

/-- What is done with a classification: its document is written, to a file if one is given, or it is
held against an expectation list. -/
inductive Action where
  | extract (output : Option Path)
  | check (expected : Path)
  deriving DecidableEq, Repr

/-- A request. Paths that are not given come from the configuration. -/
structure Request where
  grammarPath : Option Path
  scratchDirectory : Option Path
  configPath : Option Path
  verbose : Bool
  action : Action
  deriving DecidableEq, Repr

/-- A command line without a request: where it stopped, before or within a command, and why. -/
structure Halt where
  command : Option Command
  stop : Stop
  deriving DecidableEq, Repr

/-- The name of the program. -/
def programName : String := "grammar-keywords"

namespace Command

/-- All commands, in the order in which they are shown. -/
def all : List Command := [.extract, .check]

/-- The word for a command. -/
def name : Command → String
  | extract => "extract"
  | check => "check"

/-- The command of a word. -/
def ofName? (word : String) : Option Command :=
  all.find? fun command => command.name = word

/-- The switch that asks for help. -/
def helpSwitch : Switch := ⟨["-h", "--help"], .help, false⟩

/-- The switches and operands of a command. -/
def interface (command : Command) : Interface where
  program := programName ++ " " ++ command.name
  switches :=
    [helpSwitch, ⟨["--config"], .value, false⟩, ⟨["-v", "--verbose"], .flag, false⟩,
      match command with
      | extract => ⟨["-o", "--output"], .value, false⟩
      | check => ⟨["--expected"], .value, true⟩]
  operands := [⟨"grammar", false⟩, ⟨"scratch_dir", false⟩]

/-- What may stand before a command: nothing but a request for help. -/
def outerInterface : Interface where
  program := programName
  switches := [helpSwitch]
  operands := [⟨"command", true⟩]

/-- The interface of a command, or the one around all commands. -/
def interfaceOf : Option Command → Interface
  | some command => command.interface
  | none => outerInterface

end Command

namespace Request

/-- The request that the arguments of a command make. -/
def ofArguments (command : Command) (arguments : Arguments) : Request where
  grammarPath := (arguments.wordOf "grammar").map Path.ofString
  scratchDirectory := (arguments.wordOf "scratch_dir").map Path.ofString
  configPath := (arguments.valueOf "--config").map Path.ofString
  verbose := arguments.hasSwitch "-v"
  action :=
    match command with
    | .extract => .extract ((arguments.valueOf "-o").map Path.ofString)
    | .check => .check (Path.ofString ((arguments.valueOf "--expected").getD ""))

/-- The request that the words of a command line make. Words left over count only once everything else
is right. -/
def ofWords (words : List String) : Except Halt Request :=
  match Arguments.parse Command.outerInterface words with
  | .error stop => .error ⟨none, stop⟩
  | .ok outer =>
    match outer.wordsOf "command" with
    | [] => .error ⟨none, .refused (.missing ["command"])⟩
    | name :: rest =>
      match Command.ofName? name with
      | none =>
        .error ⟨none, .refused (.unknownChoice "command" name (Command.all.map Command.name))⟩
      | some command =>
        match Arguments.parse command.interface rest with
        | .error stop => .error ⟨some command, stop⟩
        | .ok inner =>
          match outer.leftover ++ inner.leftover with
          | [] => .ok (ofArguments command inner)
          | unrecognized => .error ⟨none, .refused (.unrecognized unrecognized)⟩

end Request

end ReservedWords.CommandLine
