import ScriptLint.Analysis.Session
import ScriptLint.Command.Console
import ScriptLint.Command.Table
import ScriptLint.Value.JsonWriter

/-!
# Reports

The results of a run as text, as JSON and as tables.
-/

namespace ScriptLint

/-! ## Diagnostics -/

/-- A position as a value. -/
def Position.toValue (p : Position) : Value :=
  .mapping [("line", .int p.line), ("character", .int p.character)]

/-- A range as a value. -/
def Range.toValue (r : Range) : Value :=
  .mapping [("start", r.start.toValue), ("end", r.stop.toValue)]

/-- A diagnostic as a value. -/
def Diagnostic.toValue (d : Diagnostic) : Value :=
  .mapping [("severity", .int d.severity.code), ("range", d.range.toValue),
    ("message", .text d.message), ("source", .text d.source)]

/-- A symbol as a value. -/
def Symbol.toValue (s : Symbol) : Value :=
  .mapping [("name", .text s.name), ("type", (s.type.map Value.text).getD .null),
    ("line", .int s.line), ("character", .int s.character)]

/-- Whether a diagnostic is an error. -/
def Diagnostic.isError (d : Diagnostic) : Bool := d.severity = .error

namespace Report

/-- The diagnostics of files, in the order of the files. A file that was given twice has two
entries. -/
abbrev Results := List (String × List Diagnostic)

/-- Each file once, at its first place. -/
def files (results : Results) : Mapping (List Diagnostic) := Mapping.ofEntries results

/-- The number of errors; those of a file that was given twice count twice. -/
def errorCount (results : Results) : Nat :=
  (results.flatMap (·.2)).countP (·.isError)

/-- The number of diagnostics that are printed. -/
def problemCount (results : Results) : Nat := ((files results).flatMap (·.2)).length

/-- The line that is printed for a diagnostic. The severity is set off by tags, so that the parts
before and behind it are escaped each for itself. -/
def diagnosticLine (emojis : Console.Emojis) (file : String) (d : Diagnostic) : List Char :=
  let start := d.range.start
  let place := Console.escapeEnd file.toList ++
    (":" ++ showInt (start.line + 1) ++ ":" ++ showInt (start.character + 1) ++ ": ").toList
  Console.printed (Console.shown emojis place ++ d.severity.label.toList ++
    Console.shown emojis (": " ++ d.message).toList)

/-- The lines that are printed for the diagnostics of all files. -/
def diagnosticLines (emojis : Console.Emojis) (results : Results) : List (List Char) :=
  (files results).flatMap fun r => r.2.map (diagnosticLine emojis r.1)

/-- The end of a text report. -/
def summary (results : Results) : String :=
  if problemCount results = 0 then "No problems found\n"
  else
    "\n" ++ showNat (problemCount results) ++ " problem(s), " ++ showNat (errorCount results) ++
      " error(s)\n"

/-- A text report. -/
def text (emojis : Console.Emojis) (results : Results) : String :=
  String.ofList (diagnosticLines emojis results).flatten ++ summary results

/-- A report as a value: the diagnostics of each file. -/
def toValue (results : Results) : Value :=
  .mapping ((files results).map fun r => (r.1, .list (r.2.map (·.toValue))))

/-- A JSON report. -/
def json (results : Results) : String := String.ofList (Json.render (toValue results) ++ ['\n'])

/-! ## Symbols and functions -/

/-- The symbols of a file as JSON. -/
def symbolsJson (symbols : List Symbol) : String :=
  String.ofList (Json.render (.list (symbols.map (·.toValue))) ++ ['\n'])

/-- The symbols of a file as a table. -/
def symbolsTable (emojis : Console.Emojis) (file : String) (symbols : List Symbol) : String :=
  String.ofList (Table.text
    { title := Console.linesOf
        (Console.shown emojis ("Symbols in ".toList ++ Console.escapeEnd file.toList))
      header := ["Name", "Type", "Line", "Column"]
      rows := symbols.map fun s =>
        [s.name, s.type.getD "", showNat (s.line + 1), showInt (s.character + 1)] })

/-- Functions as a table. -/
def functionsTable (functions : List Signature) : String :=
  String.ofList (Table.text
    { title := ["Built-in functions".toList]
      header := ["Category", "Signature", "Description"]
      rows := functions.map fun f => [f.category, f.label, f.description] })

/-- What is printed when a file cannot be handled. -/
def failure (emojis : Console.Emojis) (file message : String) : String :=
  String.ofList (Console.printed ("Error:".toList ++
    Console.shown emojis (" " ++ file ++ ": " ++ message).toList))

end Report

end ScriptLint
