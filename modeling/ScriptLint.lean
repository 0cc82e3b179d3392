import ScriptLint.Analysis.Session
import ScriptLint.Main
import ScriptLint.Proofs.Mask
import ScriptLint.Proofs.Scan
import ScriptLint.Source.Pattern
import ScriptLint.Proofs.Rules
import ScriptLint.Proofs.Nesting
import ScriptLint.Proofs.Position
import ScriptLint.Proofs.Annotation
import ScriptLint.Proofs.Blocks
import ScriptLint.Proofs.Literal
import ScriptLint.Proofs.Usage
import ScriptLint.Proofs.Alignment
import ScriptLint.Proofs.Columns
import ScriptLint.Proofs.Insertion
import ScriptLint.Proofs.Indentation
import ScriptLint.Proofs.Contents
import ScriptLint.Proofs.Concatenation
import ScriptLint.Proofs.Calls
import ScriptLint.Proofs.Reordering
import ScriptLint.Proofs.History
import ScriptLint.Proofs.Settings
import ScriptLint.Proofs.Directives
import ScriptLint.Proofs.Utf8
import ScriptLint.Proofs.Outcome
import ScriptLint.Proofs.Ordering
import ScriptLint.Proofs.Projection
import ScriptLint.Proofs.Filtering
import ScriptLint.Proofs.Mapping
import ScriptLint.Proofs.Json.Ascii
import ScriptLint.Proofs.Json.Scalars
import ScriptLint.Proofs.Json.Values
import ScriptLint.Proofs.Report
import ScriptLint.Proofs.Agreement
import ScriptLint.Proofs.HostNotes
import ScriptLint.Proofs.Writes
import ScriptLint.Proofs.SymbolTable
import ScriptLint.Proofs.Lookup
import ScriptLint.Proofs.Assignments
import ScriptLint.Proofs.LineEndings
import ScriptLint.Proofs.Console
import ScriptLint.Proofs.Printing
import ScriptLint.Proofs.TextReport
