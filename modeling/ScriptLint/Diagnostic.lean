import ScriptLint.Text.Quoted

/-!
# Diagnostics

A diagnostic is a message about a range of the script, with a severity. Positions count lines and
characters from zero; the text form of a diagnostic counts them from one.
-/

namespace ScriptLint

/-- How serious a diagnostic is. -/
inductive Severity where
  | error
  | warning
  | information
deriving Repr, DecidableEq

namespace Severity

/-- The number of a severity in the editor protocol. -/
def code : Severity → Nat
  | .error => 1
  | .warning => 2
  | .information => 3

/-- The name of a severity in texts. -/
def label : Severity → String
  | .error => "error"
  | .warning => "warning"
  | .information => "information"

/-- The severity with a given number. -/
def ofCode? (n : Int) : Option Severity :=
  [error, warning, information].find? fun s => (s.code : Int) == n

/-- What is said of a number that is no severity. -/
def unknownCode (n : Int) : String := showInt n ++ " is not a valid Severity"

end Severity

/-- A place between two characters. -/
structure Position where
  line : Int
  character : Int
deriving Repr, DecidableEq

/-- The text between two places. -/
structure Range where
  start : Position
  stop : Position
deriving Repr, DecidableEq

/-- A range within one line. -/
def Range.onLine (line start stop : Int) : Range := ⟨⟨line, start⟩, ⟨line, stop⟩⟩

/-- The name under which diagnostics are reported, unless another is given. -/
def defaultSource : String := "jyro"

/-- A message about a range of a script. -/
structure Diagnostic where
  severity : Severity
  range : Range
  message : String
  source : String := defaultSource
deriving Repr, DecidableEq

namespace Diagnostic

/-- The line on which a diagnostic starts. -/
def line (d : Diagnostic) : Int := d.range.start.line

/-- The text form: line and column from one, severity and message. -/
def text (d : Diagnostic) : String :=
  showInt (d.range.start.line + 1) ++ ":" ++ showInt (d.range.start.character + 1) ++ ": " ++
    d.severity.label ++ ": " ++ d.message

end Diagnostic

/-- Diagnostics in the order in which they were added; equal ones are kept. -/
structure Collector where
  items : List Diagnostic := []
deriving Repr, DecidableEq

namespace Collector

/-- Adds a diagnostic about a part of one line. -/
def add (c : Collector) (line start stop : Int) (message : String) (severity : Severity) :
    Collector :=
  ⟨c.items ++ [⟨severity, .onLine line start stop, message, defaultSource⟩]⟩

/-- The number of diagnostics. -/
def size (c : Collector) : Nat := c.items.length

/-- The diagnostic added last. -/
def last? (c : Collector) : Option Diagnostic := c.items.getLast?

end Collector

end ScriptLint
