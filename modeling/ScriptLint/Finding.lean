import ScriptLint.Diagnostic
import ScriptLint.Language

/-!
# Findings

What the analyses find, before it is put into words. A `Finding` says what is the matter
(`Issue`) and where on which line; `Finding.toDiagnostic` turns it into a diagnostic.
-/

namespace ScriptLint

/-- What can be the matter with a part of a script. -/
inductive Issue where
  /-- A line with an odd number of quotes. -/
  | unclosedString
  /-- An `end` where no block is open. -/
  | strayEnd
  /-- A `break` or `continue` outside all loops. -/
  | strayLoopControl (control : LoopControl)
  /-- A declaration that names an unknown type. -/
  | unknownType (name : String)
  /-- A call of a function that only the host can provide. -/
  | hostFunction (name : String)
  /-- A block that is still open at the end of the script. -/
  | unclosedBlock (kind : BlockKind)
  /-- A name that nothing declares. -/
  | undefinedVariable (name : String)
deriving Repr, DecidableEq

/-- A list of words with commas and a final `or`. -/
def orList : List String → String
  | [] => ""
  | [w] => "or " ++ w
  | w :: ws => w ++ ", " ++ orList ws

namespace Issue

/-- How serious an issue is. -/
def severity : Issue → Severity
  | .hostFunction _ => .information
  | .undefinedVariable _ => .warning
  | _ => .error

/-- The wording of an issue. -/
def message : Issue → String
  | .unclosedString => "Unclosed string literal"
  | .strayEnd => "Unexpected \"end\" without matching block start"
  | .strayLoopControl control => "\"" ++ control.keyword ++ "\" can only be used inside loops"
  | .unknownType name => "Unknown type \"" ++ name ++ "\". Expected: " ++ orList typeNames
  | .hostFunction name =>
    "Referenced function \"" ++ name ++ "\" will need to be made available at runtime"
  | .unclosedBlock kind => "Unclosed \"" ++ kind.keyword ++ "\" block - missing \"end\""
  | .undefinedVariable name => "Undefined variable \"" ++ name ++ "\""

end Issue

/-- An issue with the columns from `start` up to `stop` of a line. -/
structure Finding where
  line : Nat
  start : Int
  stop : Int
  issue : Issue
deriving Repr, DecidableEq

/-- The diagnostic that reports a finding. -/
def Finding.toDiagnostic (f : Finding) : Diagnostic :=
  { severity := f.issue.severity
    range := .onLine f.line f.start f.stop
    message := f.issue.message }

end ScriptLint
