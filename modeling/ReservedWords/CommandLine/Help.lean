import ReservedWords.CommandLine.Request

/-!
Help: the texts that show how the program is called, and the message of a refused command line.
-/

namespace ReservedWords.CommandLine

namespace Command

/-- How the program is called. -/
def outerUsage : List String :=
  ["usage: grammar-keywords [-h] \x7bextract,check\x7d ..."]

/-- How the program is called with a command. -/
def usage : Command → List String
  | extract =>
    [ "usage: grammar-keywords extract [-h] [--config CONFIG] [-v] [-o OUTPUT]",
      "                                grammar scratch_dir"]
  | check =>
    [ "usage: grammar-keywords check [-h] [--config CONFIG] [-v] --expected EXPECTED",
      "                              grammar scratch_dir"]

/-- What the commands do. -/
def outerDescription : List String :=
  [ "",
    "Extract keywords and identifier whitelists from a lark grammar",
    "",
    "positional arguments:",
    "  \x7bextract,check\x7d",
    "    extract        Write keywords, whitelists and restricted keywords as JSON",
    "    check          Compare restricted keywords with an expectation list",
    "",
    "options:",
    "  -h, --help       show this help message and exit"]

/-- What the words behind a command mean. -/
def description : Command → List String
  | extract =>
    [ "",
      "positional arguments:",
      "  grammar               Grammar file (.lark)",
      "  scratch_dir           Directory for generated artifacts",
      "",
      "options:",
      "  -h, --help            show this help message and exit",
      "  --config CONFIG       Path to config.json",
      "  -v, --verbose         Log per-entry diagnostics",
      "  -o OUTPUT, --output OUTPUT",
      "                        Output file (default: stdout)"]
  | check =>
    [ "",
      "positional arguments:",
      "  grammar              Grammar file (.lark)",
      "  scratch_dir          Directory for generated artifacts",
      "",
      "options:",
      "  -h, --help           show this help message and exit",
      "  --config CONFIG      Path to config.json",
      "  -v, --verbose        Log per-entry diagnostics",
      "  --expected EXPECTED  File with one restricted label per line"]

end Command

/-- Some lines as a text. -/
def unlines (lines : List String) : String :=
  String.join (lines.map fun line => line ++ "\n")

namespace Halt

/-- How the program is called, where the command line stopped. -/
def usage (halt : Halt) : List String :=
  match halt.command with
  | some command => command.usage
  | none => Command.outerUsage

/-- The help text. -/
def help (halt : Halt) : String :=
  unlines (halt.usage ++
    match halt.command with
    | some command => command.description
    | none => Command.outerDescription)

/-- The line that says what is wrong. -/
def errorLine (halt : Halt) (refusal : Refusal) : String :=
  (Command.interfaceOf halt.command).program ++ ": error: " ++ refusal.message

/-- What is shown when a command line is refused. -/
def complaint (halt : Halt) (refusal : Refusal) : String :=
  unlines (halt.usage ++ [halt.errorLine refusal])

end Halt

end ReservedWords.CommandLine
