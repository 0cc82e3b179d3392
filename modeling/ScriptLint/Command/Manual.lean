import ScriptLint.Command.Arguments
import ScriptLint.Registry.Catalogue

/-!
# The commands and their help

The commands with their options, and the texts that explain how they are called.
-/

namespace ScriptLint

/-- What the program can be asked to do. -/
inductive Command where
  | check
  | symbols
  | functions
deriving Repr, DecidableEq

namespace Command

/-- All commands. -/
def all : List Command := [.check, .functions, .symbols]

/-- The name of a command. -/
def name : Command → String
  | .check => "check"
  | .symbols => "symbols"
  | .functions => "functions"

/-- The command with a given name. -/
def ofName? (s : String) : Option Command := all.find? (·.name == s)

/-- What a command does, in a few words. -/
def summary : Command → String
  | .check => "Check one or more Jyro files"
  | .symbols => "List the symbols declared in a Jyro file"
  | .functions => "Show the built-in function catalog"

/-- How the arguments of a command are written. -/
def pattern : Command → String
  | .check => "[OPTIONS] FILES..."
  | .symbols => "[OPTIONS] FILE"
  | .functions => "[OPTIONS]"

/-- The option that asks for help. -/
def helpOption : OptionSpec := ⟨"--help", .flag .help⟩

/-- The option that chooses the output format. -/
def formatOption : OptionSpec := ⟨"--format", .value .format⟩

/-- The options of a command. -/
def options : Command → List OptionSpec
  | .check =>
    [⟨"--host-functions", .flag (.hostFunctions true)⟩,
      ⟨"--no-host-functions", .flag (.hostFunctions false)⟩, formatOption, helpOption]
  | .symbols => [formatOption, helpOption]
  | .functions => [⟨"--category", .value .category⟩, helpOption]

/-- The options before the command. -/
def globalOptions : List OptionSpec :=
  [⟨"--version", .flag .version⟩, ⟨"-v", .flag .verbose⟩, ⟨"--verbose", .flag .verbose⟩, helpOption]

/-- The output formats. -/
def formats : List String := ["text", "json"]

/-- The categories of the catalogue. -/
def categories : List String := Registry.builtIn.categories

end Command

/-- Where on the command line an error or a help text belongs: before the command, or to one. -/
abbrev Scope := Option Command

namespace Scope

/-- The words that lead to a scope. -/
def path (program : String) : Scope → String
  | none => program
  | some command => program ++ " " ++ command.name

/-- The line that shows how a scope is called. -/
def usage (program : String) (scope : Scope) : String :=
  "Usage: " ++ scope.path program ++ " " ++
    (match scope with
    | none => "[OPTIONS] COMMAND [ARGS]..."
    | some command => command.pattern) ++ "\n"

/-- What a scope is for. -/
def purpose : Scope → String
  | none => "Static analysis for Jyro data-transformation scripts"
  | some command => command.summary

/-- The lines about the options of a scope, and about the commands. -/
def details : Scope → String
  | none =>
    "  --version      Show the version and exit.\n" ++
    "  -v, --verbose  Log analyzer internals at DEBUG level\n" ++
    "  --help         Show this message and exit.\n" ++
    "\n" ++
    "Commands:\n" ++
    "  check      Check one or more Jyro files\n" ++
    "  functions  Show the built-in function catalog\n" ++
    "  symbols    List the symbols declared in a Jyro file\n"
  | some .check =>
    "  --host-functions / --no-host-functions\n" ++
    "                                  Report calls to functions the host must\n" ++
    "                                  provide\n" ++
    "  --format [text|json]\n" ++
    "  --help                          Show this message and exit.\n"
  | some .symbols =>
    "  --format [text|json]\n" ++
    "  --help                Show this message and exit.\n"
  | some .functions =>
    "  --category [String|Array|Math|DateTime|Utility]\n" ++
    "                                  Only show one category\n" ++
    "  --help                          Show this message and exit.\n"

/-- The help text of a scope. -/
def help (program : String) (scope : Scope) : String :=
  scope.usage program ++ "\n  " ++ scope.purpose ++ "\n\nOptions:\n" ++ scope.details

/-- What is printed about a usage error. -/
def complaint (program : String) (scope : Scope) (error : UsageError) : String :=
  (if error.remindsOfUsage then
    scope.usage program ++ "Try '" ++ scope.path program ++ " --help' for help.\n\n"
  else "") ++ "Error: " ++ error.message ++ "\n"

end Scope

/-- The version of the program. -/
def versionText : String := "jyrolint, version 0.1.0\n"

end ScriptLint
