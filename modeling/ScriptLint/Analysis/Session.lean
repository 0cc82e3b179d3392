import ScriptLint.Analysis.Structure
import ScriptLint.Analysis.Usage
import ScriptLint.Options.Setting
import ScriptLint.Registry.Draft

/-!
# Analysis of documents, and sessions

The findings of a script are those about its structure, followed by its undefined names, which
need the symbols of the whole script.

A session keeps one document, its options and its registry, and remembers the results of the last
analysis. The lines of the document are cut once, when it is opened. The symbols are remembered
too: every analysis takes them anew, and a request for them takes them only if there are none yet.
Changing the lines, the options or the registry forgets nothing.
-/

namespace ScriptLint

/-! ## Documents -/

/-- Everything that is found in a script. -/
def findings (registry : Registry) (options : Options) (lines : List Line) : List Finding :=
  Structure.check registry options.warnOnHostFunctions lines ++
    Usage.validate registry (Symbols.extract lines) lines

/-- The diagnostics of a script. -/
def analyze (registry : Registry) (options : Options) (lines : List Line) : List Diagnostic :=
  (findings registry options lines).map (·.toDiagnostic)

/-- The diagnostics of a text under the built-in functions. -/
def analyzeText (options : Options) (text : String) : List Diagnostic :=
  analyze .builtIn options (splitLines text.toList)

/-! ## Sessions -/

/-- A document with the results of its last analysis. -/
structure Session where
  text : String
  uri : String
  options : Options
  registry : Registry
  lines : List Line
  diagnostics : List Diagnostic
  symbols? : Option (List Symbol)

/-- What a session can be asked. -/
inductive Request where
  | analyze
  | symbols
  | diagnostics
  /-- Empties the lists that the session hands out. With `fresh` they come from a new analysis. -/
  | clearReturned (fresh : Bool)
  | setLines (lines : List Line)
  | setText (text : String)
  | setWarn (warn : Bool)
  | setRegistry (spec : RegistrySpec)

/-- The state that a session shows after a change. -/
structure SessionStatus where
  lineCount : Nat
  warn : Bool
  functionCount : Nat
  uri : String
deriving Repr, DecidableEq

/-- What a session answers. -/
inductive Reply where
  | diagnostics (items : List Diagnostic)
  | symbols (items : List Symbol)
  | status (status : SessionStatus)
  | rejected (error : RegistryError)
deriving Repr, DecidableEq

namespace Session

/-- Opens a document. -/
def start (text uri : String) (options : Options) (registry : Registry) : Session :=
  { text, uri, options, registry
    lines := splitLines text.toList
    diagnostics := []
    symbols? := none }

/-- Analyses the document as it is now. -/
def analyze (s : Session) : Session :=
  { s with
    diagnostics := ScriptLint.analyze s.registry s.options s.lines
    symbols? := some (Symbols.extract s.lines) }

/-- The remembered symbols, or those of the document as it is now. -/
def symbols (s : Session) : List Symbol := s.symbols?.getD (Symbols.extract s.lines)

/-- Remembers the symbols. -/
def fillSymbols (s : Session) : Session := { s with symbols? := some s.symbols }

/-- What a session shows after a change. -/
def status (s : Session) : SessionStatus :=
  { lineCount := s.lines.length
    warn := s.options.warnOnHostFunctions
    functionCount := s.registry.size
    uri := s.uri }

/-- Answers a request. The lists handed out are copies, so emptying them changes nothing, and a
rejected registry leaves the session as it was. -/
def answer (s : Session) : Request → Session × Reply
  | .analyze => (s.analyze, .diagnostics s.analyze.diagnostics)
  | .symbols => (s.fillSymbols, .symbols s.symbols)
  | .diagnostics => (s, .diagnostics s.diagnostics)
  | .clearReturned fresh =>
    let s' := (if fresh then s.analyze else s).fillSymbols
    (s', .status s'.status)
  | .setLines lines =>
    let s' := { s with lines }
    (s', .status s'.status)
  | .setText text =>
    let s' := { s with text }
    (s', .status s'.status)
  | .setWarn warn =>
    let s' := { s with options := ⟨warn⟩ }
    (s', .status s'.status)
  | .setRegistry spec =>
    match spec.build with
    | .error e => (s, .rejected e)
    | .ok registry =>
      let s' := { s with registry }
      (s', .status s'.status)

/-- Answers requests one after the other. -/
def run (s : Session) : List Request → List Reply
  | [] => []
  | r :: rs =>
    let (next, reply) := s.answer r
    reply :: run next rs

end Session

end ScriptLint
