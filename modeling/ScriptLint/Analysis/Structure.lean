import ScriptLint.Analysis.Nesting
import ScriptLint.Finding
import ScriptLint.Registry.Basic

/-!
# The structure of a script

One pass over the lines finds unclosed strings, `end` without a block, loop control outside loops,
unknown types and calls that the host must provide, in this order on each line. A block that is
open at the end is found last; only the innermost one is reported.
-/

namespace ScriptLint

namespace Structure

/-- A finding about the visible part of a line. -/
def contentFinding (index : Nat) (line : Line) (issue : Issue) : Finding :=
  ⟨index, indent line, contentEnd line, issue⟩

/-- A line with an odd number of quotes has an unclosed string. -/
def quoteFindings (index : Nat) (line : Line) : List Finding :=
  if line.count quoteMark % 2 = 0 then [] else [⟨index, 0, line.length, .unclosedString⟩]

/-- An `end` that closes nothing. -/
def endFindings (index : Nat) (line : Line) (strayEnd : Bool) : List Finding :=
  if strayEnd then [contentFinding index line .strayEnd] else []

/-- Loop control where no loop is open; `break` is named if both words stand on the line. -/
def loopFindings (index : Nat) (line : Line) (text : List Char) (loopDepth : Int) :
    List Finding :=
  if loopDepth > 0 || !Rules.loopControl.occurs text then []
  else
    let control := if Rules.loopBreak.occurs text then LoopControl.breakLoop else .continueLoop
    [contentFinding index line (.strayLoopControl control)]

/-- A line that begins with a declaration of unknown type. -/
def typeFindings (index : Nat) (line : Line) : List Finding :=
  match Rules.leadingType none line with
  | none => []
  | some (_, type) =>
    let name := String.ofList type.text
    if typeNames.contains name then []
    else [⟨index, type.offset, type.stop, .unknownType name⟩]

/-- Whether the host has to provide the function of a call. -/
def isHostFunction (registry : Registry) (name : String) : Bool :=
  !keywords.contains name && !registry.hasExact name

/-- The calls on a line that the host must provide. -/
def callFindings (registry : Registry) (index : Nat) (masked : MaskedLine) : List Finding :=
  (Rules.hostCall.scan masked.text).filterMap fun call =>
    let name := String.ofList call.value
    if isHostFunction registry name then
      let start := masked.rawColumn call.column
      some ⟨index, start, start + call.value.length, .hostFunction name⟩
    else none

/-- The findings on a line, given what it does to the nesting. -/
def lineFindings (registry : Registry) (hostNotes : Bool) (index : Nat) (step : Nesting.Step)
    (line : Line) : List Finding :=
  if isSkippable line then []
  else
    let masked := maskLine .commentFirst line
    quoteFindings index line ++ endFindings index line step.strayEnd ++
      loopFindings index line masked.text step.after.loopDepth ++ typeFindings index line ++
      if hostNotes then callFindings registry index masked else []

/-- The finding about the innermost open block at the end of a script. -/
def openFindings (nesting : Nesting) : List Finding :=
  match nesting.blocks with
  | [] => []
  | b :: _ => [⟨b.line, 0, b.width, .unclosedBlock b.kind⟩]

/-- The findings from line `index` on, inside the given blocks. -/
def checkFrom (registry : Registry) (hostNotes : Bool) (index : Nat) (nesting : Nesting) :
    List Line → List Finding
  | [] => openFindings nesting
  | line :: rest =>
    let step := nesting.stepLine index line
    lineFindings registry hostNotes index step line ++
      checkFrom registry hostNotes (index + 1) step.after rest

/-- The structural findings of a script. Calls that the host must provide are noted only if
`hostNotes` is set. -/
def check (registry : Registry) (hostNotes : Bool) (lines : List Line) : List Finding :=
  checkFrom registry hostNotes 0 {} lines

end Structure

end ScriptLint
