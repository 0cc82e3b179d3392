import ScriptLint.Source.Line
import ScriptLint.Source.Rules

/-!
# Where a rule matches

`Pattern` names the rules, and `Pattern.spansIn` gives the spans of each match in a line and of
its captured pieces, for tools that show where a rule applies.
-/

namespace ScriptLint

/-- The columns from `start` up to `stop`. -/
structure Span where
  start : Nat
  stop : Nat
deriving Repr, DecidableEq

/-- The named rules. -/
inductive Pattern where
  | literal
  | identifier
  | callOpen
  | continuation
  | blockOpen
  | blockClose
  | loopControl
  | loopBreak
  | declarationLine
  | leadingType
  | declaration
  | loopBinding
  | propertyWrite
  | hostCall
deriving Repr, DecidableEq

/-- The span of a match, followed by those of its pieces; a piece that took no part has none. -/
structure MatchSpans where
  whole : Span
  pieces : List (Option Span)
deriving Repr, DecidableEq

/-- The span of a whole match. -/
def Found.span {α : Type} (f : Found α) : Span := ⟨f.column, f.column + f.width⟩

/-- The span of the first `size` characters of a match. -/
def Found.front {α : Type} (f : Found α) (size : Nat) : Span := ⟨f.column, f.column + size⟩

/-- The span of a piece of a match. -/
def Found.piece {α : Type} (f : Found α) (c : Capture) : Span :=
  ⟨f.column + c.offset, f.column + c.stop⟩

/-- The matches of a rule, with the pieces that `pieces` reads off each. -/
def Rule.spans {α : Type} (rule : Rule α) (pieces : Found α → List (Option Span))
    (line : List Char) : List MatchSpans :=
  (rule.scan line).map fun f => ⟨f.span, pieces f⟩

namespace Pattern

/-- Where a pattern matches in a line. -/
def spansIn (p : Pattern) (line : List Char) : List MatchSpans :=
  match p with
  | .literal => Rules.literal.spans (fun _ => []) line
  | .identifier => Rules.identifier.spans (fun f => [some f.span]) line
  | .callOpen => Rules.callOpen.spans (fun _ => []) line
  | .continuation => Rules.continuation.spans (fun _ => []) line
  | .blockOpen => Rules.blockOpen.spans (fun f => [some f.span]) line
  | .blockClose => Rules.blockClose.spans (fun _ => []) line
  | .loopControl => Rules.loopControl.spans (fun f => [some f.span]) line
  | .loopBreak => Rules.loopBreak.spans (fun _ => []) line
  | .declarationLine => Rules.declarationLine.spans (fun _ => []) line
  | .leadingType =>
    Rules.leadingType.spans (fun f => [some (f.front (indent line)), some (f.piece f.value)]) line
  | .declaration =>
    Rules.declaration.spans
      (fun f => [some (f.piece f.value.name), f.value.typeName.map f.piece]) line
  | .loopBinding => Rules.loopBinding.spans (fun f => [some (f.piece f.value)]) line
  | .propertyWrite => Rules.propertyWrite.spans (fun f => [some (f.front f.value.length)]) line
  | .hostCall => Rules.hostCall.spans (fun f => [some (f.front f.value.length)]) line

end Pattern

end ScriptLint
