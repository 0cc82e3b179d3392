import ScriptLint.Analysis.Symbols
import ScriptLint.Finding
import ScriptLint.Registry.Basic

/-!
# Uses of names

Every name in a script must be accounted for: it is reserved, a function of the registry up to
case, declared somewhere in the script, or it is not a variable at all, because a dot stands before
it or a call follows. All other names are reported as undefined. The target of an assignment is a
use as well.
-/

namespace ScriptLint

namespace Usage

/-- Whether a name has a meaning of its own. -/
def isReserved (registry : Registry) (name : String) : Bool :=
  keywords.contains name || typeNames.contains name || registry.hasName name

/-- The names that a symbol table accounts for, and the root binding. -/
def declaredNames (symbols : List Symbol) : List String := symbols.map (·.name) ++ [rootBinding]

/-- A name in a line that stands for a variable. -/
structure Mention where
  name : List Char
  column : Nat
deriving Repr, DecidableEq

/-- Whether the character before a column is a dot. -/
def afterDot (text : List Char) (column : Nat) : Bool :=
  column > 0 && text[column - 1]? == some '.'

/-- Whether a call opens at a column. -/
def atCall (text : List Char) (column : Nat) : Bool :=
  (Rules.callOpen none (text.drop column)).isSome

/-- The names in a masked text that stand for variables. -/
def mentions (text : List Char) : List Mention :=
  (Rules.identifier.scan text).filterMap fun found =>
    if afterDot text found.column || atCall text (found.column + found.width) then none
    else some ⟨found.value, found.column⟩

/-- The undefined names of a masked line. -/
def maskedFindings (registry : Registry) (declared : List String) (index : Nat)
    (masked : MaskedLine) : List Finding :=
  (mentions masked.text).filterMap fun mention =>
    let name := String.ofList mention.name
    if isReserved registry name || declared.contains name then none
    else
      let start := masked.rawColumn mention.column
      some ⟨index, start, start + mention.name.length, .undefinedVariable name⟩

/-- The undefined names of a line. -/
def lineFindings (registry : Registry) (declared : List String) (index : Nat) (line : Line) :
    List Finding :=
  match Symbols.masked? line with
  | none => []
  | some masked => maskedFindings registry declared index masked

/-- The undefined names from line `index` on. -/
def validateFrom (registry : Registry) (declared : List String) (index : Nat) :
    List Line → List Finding
  | [] => []
  | line :: rest =>
    lineFindings registry declared index line ++ validateFrom registry declared (index + 1) rest

/-- The undefined names of a script with the given symbol table. -/
def validate (registry : Registry) (symbols : List Symbol) (lines : List Line) : List Finding :=
  validateFrom registry (declaredNames symbols) 0 lines

end Usage

end ScriptLint
