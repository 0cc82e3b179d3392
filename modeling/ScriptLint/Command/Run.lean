import ScriptLint.Command.Log
import ScriptLint.Command.Manual
import ScriptLint.Command.Report
import ScriptLint.Command.Workspace
import ScriptLint.Text.Utf8

/-!
# Running a command

`run` takes the arguments of the program, the value of its environment variable, what stands at
each path and the emoji codes of the console, and gives the exit code and the two output texts.

A usage error and a failure give exit code 2. The `check` command reports nothing at all if one of
its files fails; otherwise its exit code tells whether any file has an error.
-/

namespace ScriptLint

/-- What a run leaves behind. -/
structure Outcome where
  exitCode : Nat
  stdout : String := ""
  stderr : String := ""
deriving Repr, DecidableEq

/-- What a run can see besides its arguments. -/
structure Surroundings where
  /-- The name under which the program was called. -/
  program : String
  /-- The value of its environment variable. -/
  environment : Option String
  workspace : Workspace
  /-- The emoji codes of the console. -/
  emojis : Console.Emojis := .numbers

/-- Why a file cannot be handled. -/
inductive FileError where
  | encoding (fault : Utf8.Fault)
  | setting (error : SettingError)
deriving Repr

/-- The wording of a failure. -/
def FileError.message : FileError → String
  | .encoding fault => fault.message
  | .setting error => error.message

/-- The text of a file: UTF-8, with the common line breaks turned into line feeds. -/
def readSource (bytes : List UInt8) : Except Utf8.Fault (List Char) :=
  (Utf8.decode bytes).map unifyBreaks

namespace Run

/-- The environment as settings. -/
def environmentSettings (environment : Option String) : Mapping Value :=
  match environment with
  | none => []
  | some value => [(Options.environmentKey, .text value)]

/-- The choice on the command line as an override. -/
def overrideSettings (hostFunctions : Option Bool) : Mapping Value :=
  [(Options.warnKey, (hostFunctions.map Value.bool).getD .null)]

/-- A script that was read, with its options. -/
structure Script where
  source : List Char
  options : Options

/-- The lines of a script. -/
def Script.lines (s : Script) : List Line := splitLines s.source

/-- The diagnostics of a script. -/
def Script.diagnostics (s : Script) : List Diagnostic := analyze .builtIn s.options s.lines

/-- Reads a file and settles its options. -/
def loadScript (environment : Option String) (hostFunctions : Option Bool) (bytes : List UInt8) :
    Except FileError Script :=
  match readSource bytes with
  | .error fault => .error (.encoding fault)
  | .ok source =>
    match Options.resolve source (overrideSettings hostFunctions)
        (environmentSettings environment) with
    | .error e => .error (.setting e)
    | .ok options => .ok ⟨source, options⟩

/-- The log of handling one file. -/
def fileLog (environment : Option String) (hostFunctions : Option Bool) (name : String)
    (bytes : List UInt8) : List LogLine :=
  match readSource bytes with
  | .error _ => []
  | .ok source =>
    Log.ofResolve source (overrideSettings hostFunctions) (environmentSettings environment) ++
      match loadScript environment hostFunctions bytes with
      | .error _ => []
      | .ok script => Log.ofAnalysis name .builtIn script.options script.lines

/-- A file that was named on the command line. -/
structure InputFile where
  name : String
  bytes : List UInt8
deriving Repr, DecidableEq

/-- The diagnostics of files, or the first failure. -/
def checkFiles (environment : Option String) (hostFunctions : Option Bool) :
    List InputFile → Except (String × FileError) Report.Results
  | [] => .ok []
  | file :: rest =>
    match loadScript environment hostFunctions file.bytes with
    | .error e => .error (file.name, e)
    | .ok script =>
      (checkFiles environment hostFunctions rest).map ((file.name, script.diagnostics) :: ·)

/-- The log of handling files, which ends with the first that fails. -/
def filesLog (environment : Option String) (hostFunctions : Option Bool) :
    List InputFile → List LogLine
  | [] => []
  | file :: rest =>
    fileLog environment hostFunctions file.name file.bytes ++
      match loadScript environment hostFunctions file.bytes with
      | .error _ => []
      | .ok _ => filesLog environment hostFunctions rest

/-- The files at paths, or what is wrong with the first path that has none. -/
def findFiles (workspace : Workspace) (placeholder : String) :
    List String → Except UsageError (List InputFile)
  | [] => .ok []
  | path :: rest =>
    match workspace path with
    | none => .error (.missingFile placeholder path)
    | some .directory => .error (.unexpectedDirectory placeholder path)
    | some (.file bytes) => (findFiles workspace placeholder rest).map (⟨path, bytes⟩ :: ·)

/-- A choice among words, or the word that is none of them. -/
def checkChoice (option : String) (choices : List String) (value : Option String) :
    Except UsageError Unit :=
  match value with
  | none => .ok ()
  | some v => if choices.contains v then .ok () else .error (.badChoice option v choices)

/-- The output format. -/
inductive Format where
  | text
  | json
deriving Repr, DecidableEq

/-- The format that was asked for; text unless another is given. -/
def formatOf (arguments : Arguments) : Except UsageError Format :=
  (checkChoice "--format" Command.formats arguments.format?).map fun _ =>
    if arguments.format? = some "json" then .json else .text

/-- The outcome of checking files. -/
def checkOutcome (emojis : Console.Emojis) (environment : Option String)
    (hostFunctions : Option Bool) (format : Format) (files : List InputFile) : Outcome :=
  match checkFiles environment hostFunctions files with
  | .error (name, e) => { exitCode := 2, stdout := Report.failure emojis name e.message }
  | .ok results =>
    { exitCode := if Report.errorCount results = 0 then 0 else 1
      stdout :=
        match format with
        | .text => Report.text emojis results
        | .json => Report.json results }

/-- The outcome of listing the symbols of a file. -/
def symbolsOutcome (emojis : Console.Emojis) (format : Format) (file : InputFile) : Outcome :=
  match readSource file.bytes with
  | .error fault => { exitCode := 2, stdout := Report.failure emojis file.name fault.message }
  | .ok source =>
    let symbols := Symbols.extract (splitLines source)
    { exitCode := 0
      stdout :=
        match format with
        | .text => Report.symbolsTable emojis file.name symbols
        | .json => Report.symbolsJson symbols }

/-- The log of listing the symbols of a file. -/
def symbolsLog (file : InputFile) : List LogLine :=
  match readSource file.bytes with
  | .error _ => []
  | .ok source => [Log.ofSymbols (splitLines source)]

/-- The functions of a category, or all of them. -/
def listedFunctions (category : Option String) : List Signature :=
  match category with
  | none => Registry.builtIn.functions
  | some c => Registry.builtIn.byCategory c

/-- An outcome with its log, if one is wanted. -/
def withLog (verbose : Bool) (log : List LogLine) (outcome : Outcome) : Outcome :=
  if verbose then { outcome with stderr := Log.text log } else outcome

/-- The `check` command. -/
def check (s : Surroundings) (verbose : Bool) (arguments : Arguments) :
    Except UsageError Outcome := do
  let format ← formatOf arguments
  if arguments.positional.isEmpty then throw (.missingArgument "FILES...")
  let files ← findFiles s.workspace "FILES..." arguments.positional
  return withLog verbose (filesLog s.environment arguments.hostFunctions? files)
    (checkOutcome s.emojis s.environment arguments.hostFunctions? format files)

/-- Arguments that no place is left for. -/
def refuseExtra (arguments : List String) : Except UsageError Unit :=
  if arguments.isEmpty then .ok () else .error (.extraArguments arguments)

/-- The `symbols` command. -/
def symbols (s : Surroundings) (verbose : Bool) (arguments : Arguments) :
    Except UsageError Outcome := do
  let format ← formatOf arguments
  match arguments.positional with
  | [] => throw (.missingArgument "FILE")
  | path :: extra =>
    let files ← findFiles s.workspace "FILE" [path]
    refuseExtra extra
    match files with
    | [] => throw (.missingArgument "FILE")
    | file :: _ => return withLog verbose (symbolsLog file) (symbolsOutcome s.emojis format file)

/-- The `functions` command. -/
def functions (arguments : Arguments) : Except UsageError Outcome := do
  checkChoice "--category" Command.categories arguments.category?
  refuseExtra arguments.positional
  return { exitCode := 0, stdout := Report.functionsTable (listedFunctions arguments.category?) }

/-- The outcome of a usage error. -/
def refuse (s : Surroundings) (scope : Scope) (e : UsageError) : Outcome :=
  { exitCode := 2, stderr := Console.plain (scope.complaint s.program e) }

/-- Runs a command with the arguments behind it. -/
def command (s : Surroundings) (verbose : Bool) (c : Command) (words : List String) : Outcome :=
  match Arguments.parse c.options true words with
  | .error e => refuse s (some c) e
  | .ok arguments =>
    if arguments.wantsHelp then { exitCode := 0, stdout := Scope.help s.program (some c) }
    else
      let result :=
        match c with
        | .check => check s verbose arguments
        | .symbols => symbols s verbose arguments
        | .functions => functions arguments
      match result with
      | .ok outcome => outcome
      | .error e => refuse s (some c) e

/-- The text that an option before the command asks for: the first of them counts. -/
def notice? (s : Surroundings) (given : List Given) : Option String :=
  given.findSome? fun
    | .help => some (Scope.help s.program none)
    | .version => some versionText
    | _ => none

/-- What happens to a name that is no command. A name that looks like an option, as it can behind
`--`, is first read as one. -/
def unknownCommand (s : Surroundings) (words : List String) (name : String) : Outcome :=
  let e := UsageError.noSuchCommand name (closeMatches name (Command.all.map (·.name)))
  match Arguments.parse Command.globalOptions false words with
  | .error e' => refuse s none e'
  | .ok arguments =>
    match notice? s arguments.given with
    | some text => { exitCode := 0, stdout := text }
    | none => refuse s none e

end Run

/-- Runs the program. -/
def run (s : Surroundings) (words : List String) : Outcome :=
  if words.isEmpty then { exitCode := 2, stderr := Scope.help s.program none }
  else
    match Arguments.parse Command.globalOptions false words with
    | .error e => Run.refuse s none e
    | .ok arguments =>
      match Run.notice? s arguments.given with
      | some text => { exitCode := 0, stdout := text }
      | none =>
        match arguments.positional with
        | [] => Run.refuse s none .missingCommand
        | name :: rest =>
          match Command.ofName? name with
          | some c => Run.command s arguments.isVerbose c rest
          | none => Run.unknownCommand s (name :: rest) name

/-- The arguments of the short form: script names alone ask for a check, and nothing at all asks for
help. -/
def expandShorthand (words : List String) : List String :=
  let words := if words.isEmpty then ["--help"] else words
  if words.all fun w => ".jyro".toList.isSuffixOf w.toList then Command.check.name :: words
  else words

end ScriptLint
