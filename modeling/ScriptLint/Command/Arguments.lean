import ScriptLint.Text.Quoted
import ScriptLint.Text.Similarity

/-!
# Command line arguments

Arguments are options, their values and positional arguments. `Arguments.parse` reads them from
left to right: `--name` and `--name=value` are long options, `-ab` is a row of short ones, `--` ends
the options, and a single `-` is positional. The words are only sorted here; what their values mean
is checked afterwards, so that a request for help wins over a value that is wrong.
-/

namespace ScriptLint

/-- An option as it was given. -/
inductive Given where
  | help
  | version
  | verbose
  | hostFunctions (on : Bool)
  | format (value : String)
  | category (value : String)
deriving Repr, DecidableEq

/-- What an option is: a flag, or a name for the value behind it. -/
inductive OptionKind where
  | flag (given : Given)
  | value (given : String → Given)

/-- An option with its name, dashes included. -/
structure OptionSpec where
  name : String
  kind : OptionKind

/-- What is wrong with the way a command was called. -/
inductive UsageError where
  | missingCommand
  | noSuchCommand (name : String) (suggestions : List String)
  | missingArgument (placeholder : String)
  | missingFile (placeholder path : String)
  | unexpectedDirectory (placeholder path : String)
  | extraArguments (arguments : List String)
  | badChoice (option value : String) (choices : List String)
  | noSuchOption (name : String) (suggestions : List String)
  | unexpectedValue (option : String)
  | missingValue (option : String)
deriving Repr, DecidableEq

namespace UsageError

/-- Quoted words with commas between them. -/
def quotedList (words : List String) : String := ", ".intercalate (words.map showQuoted)

/-- What is suggested for a near miss. -/
def suggestion : List String → String
  | [] => ""
  | [word] => " Did you mean " ++ showQuoted word ++ "?"
  | words => " (Possible options: " ++ quotedList words ++ ")"

/-- The wording of an error. -/
def message : UsageError → String
  | .missingCommand => "Missing command."
  | .noSuchCommand name suggestions =>
    "No such command " ++ showQuoted name ++ "." ++ suggestion suggestions
  | .missingArgument placeholder => "Missing argument '" ++ placeholder ++ "'."
  | .missingFile placeholder path =>
    "Invalid value for '" ++ placeholder ++ "': File " ++ showQuoted path ++ " does not exist."
  | .unexpectedDirectory placeholder path =>
    "Invalid value for '" ++ placeholder ++ "': File " ++ showQuoted path ++ " is a directory."
  | .extraArguments arguments =>
    "Got unexpected extra argument" ++ (if arguments.length = 1 then "" else "s") ++ " (" ++
      " ".intercalate arguments ++ ")"
  | .badChoice option value choices =>
    "Invalid value for '" ++ option ++ "': " ++ showQuoted value ++ " is not one of " ++
      quotedList choices ++ "."
  | .noSuchOption name suggestions =>
    "No such option " ++ showQuoted name ++ "." ++ suggestion suggestions
  | .unexpectedValue option => "Option " ++ showQuoted option ++ " does not take a value."
  | .missingValue option => "Option " ++ showQuoted option ++ " requires an argument."

/-- Whether the error comes with a reminder of how the command is called. -/
def remindsOfUsage : UsageError → Bool
  | .unexpectedValue _ | .missingValue _ => false
  | _ => true

end UsageError

/-- Arguments, sorted. -/
structure Arguments where
  given : List Given := []
  positional : List String := []
deriving Repr, DecidableEq

namespace Arguments

/-- Puts options in front. -/
def withGiven (options : List Given) (a : Arguments) : Arguments :=
  { a with given := options ++ a.given }

/-- Puts a positional argument in front. -/
def withPositional (argument : String) (a : Arguments) : Arguments :=
  { a with positional := argument :: a.positional }

/-- Whether a word is an option: it starts with a dash and has more to it. -/
def isOption (word : String) : Bool := word.toList.head? == some '-' && word.length > 1

/-- Whether a name is that of a long option. -/
def isLong (name : String) : Bool := ['-', '-'].isPrefixOf name.toList

/-- The name of a long option and the value that an equals sign attaches to it. -/
def splitLong (word : String) : String × Option String :=
  let name := word.toList.takeWhile (· != '=')
  match word.toList.drop name.length with
  | [] => (word, none)
  | _ :: value => (String.ofList name, some (String.ofList value))

/-- A row of short options, all of them flags. -/
def shortOptions (specs : List OptionSpec) : List Char → Except UsageError (List Given)
  | [] => .ok []
  | c :: cs =>
    let name := String.ofList ['-', c]
    match specs.find? (·.name == name) with
    | some ⟨_, .flag given⟩ => (shortOptions specs cs).map (given :: ·)
    | _ => .error (.noSuchOption name [])

/-- What a word that looks like an option stands for. -/
inductive Reading where
  /-- Options that need no further word. -/
  | complete (given : List Given)
  /-- An option that takes the next word as its value. -/
  | waiting (name : String) (given : String → Given)
  | wrong (error : UsageError)

/-- Reads a word that looks like an option. A name that is unknown may still be a row of short
options, unless it starts with two dashes. -/
def readOption (specs : List OptionSpec) (word : String) : Reading :=
  let (name, value?) := splitLong word
  let long := specs.filter (isLong ·.name)
  match long.find? (·.name == name) with
  | some ⟨_, .flag given⟩ =>
    if value?.isSome then .wrong (.unexpectedValue name) else .complete [given]
  | some ⟨_, .value given⟩ =>
    match value? with
    | some value => .complete [given value]
    | none => .waiting name given
  | none =>
    if isLong word then .wrong (.noSuchOption name (closeMatches name (long.map (·.name))))
    else
      match shortOptions specs (word.toList.drop 1) with
      | .ok given => .complete given
      | .error e => .wrong e

/-- Sorts arguments. Unless options and positional arguments may be `mixed`, the first positional
argument ends the options. -/
def parse (specs : List OptionSpec) (mixed : Bool) : List String → Except UsageError Arguments
  | [] => .ok {}
  | word :: rest =>
    if word = "--" then .ok { positional := rest }
    else if isOption word then
      match readOption specs word with
      | .wrong e => .error e
      | .complete given => (parse specs mixed rest).map (withGiven given)
      | .waiting name given =>
        match rest with
        | [] => .error (.missingValue name)
        | value :: rest' => (parse specs mixed rest').map (withGiven [given value])
    else if mixed then (parse specs mixed rest).map (withPositional word)
    else .ok { positional := word :: rest }

/-- Whether help was asked for. -/
def wantsHelp (a : Arguments) : Bool := a.given.contains .help

/-- Whether log lines were asked for. -/
def isVerbose (a : Arguments) : Bool := a.given.contains .verbose

/-- The last choice about calls that the host must provide. -/
def hostFunctions? (a : Arguments) : Option Bool :=
  (a.given.filterMap fun | .hostFunctions on => some on | _ => none).getLast?

/-- The last format that was asked for. -/
def format? (a : Arguments) : Option String :=
  (a.given.filterMap fun | .format value => some value | _ => none).getLast?

/-- The last category that was asked for. -/
def category? (a : Arguments) : Option String :=
  (a.given.filterMap fun | .category value => some value | _ => none).getLast?

end Arguments

end ScriptLint
