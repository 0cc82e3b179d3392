import ScriptLint.Source.Mask
import ScriptLint.Source.Rules

/-!
# Block nesting

A line opens at most one block and closes at most one. `BlockEvents.ofText` reads both off the
masked text of a line, and `Nesting.step` carries the open blocks over a line: its opener comes
first, then its `end`. The number of open loops is kept beside the stack, because it alone decides
whether `break` and `continue` may stand on the line.
-/

namespace ScriptLint

/-- What a line does to the blocks around it. -/
structure BlockEvents where
  /-- The kind of block that the line opens. -/
  opens : Option BlockKind
  /-- Whether the line has an `end`. -/
  closes : Bool
deriving Repr, DecidableEq

/-- A line that does nothing to the blocks. -/
def BlockEvents.none : BlockEvents := ⟨Option.none, false⟩

/-- The block that a masked text opens: its first opening word counts, and an `elseif` opens
nothing. -/
def openedBlock? (text : List Char) : Option BlockKind :=
  if (Rules.continuation Option.none text).isSome then Option.none
  else Rules.blockOpen.first? text

/-- The events of a masked text. -/
def BlockEvents.ofText (text : List Char) : BlockEvents :=
  ⟨openedBlock? text, Rules.blockClose.occurs text⟩

/-- The events of a line. -/
def BlockEvents.ofLine (line : Line) : BlockEvents :=
  if isSkippable line then .none else .ofText (maskLine .commentFirst line).text

/-- A block that is not closed yet, with the number and the length of the line that opened it. -/
structure OpenBlock where
  kind : BlockKind
  line : Nat
  width : Nat
deriving Repr, DecidableEq

/-- The open blocks, innermost first, and how many of them are loops. -/
structure Nesting where
  blocks : List OpenBlock := []
  loopDepth : Int := 0
deriving Repr, DecidableEq

namespace Nesting

/-- One more loop, if the block is one. -/
def loopWeight (kind : BlockKind) : Int := if kind.isLoop then 1 else 0

/-- Opens a block. -/
def push (n : Nesting) (b : OpenBlock) : Nesting :=
  ⟨b :: n.blocks, n.loopDepth + loopWeight b.kind⟩

/-- Closes the innermost block. -/
def pop (n : Nesting) : Nesting :=
  match n.blocks with
  | [] => n
  | b :: rest => ⟨rest, n.loopDepth - loopWeight b.kind⟩

/-- Opens the block of a line, if it has one. -/
def openLine (n : Nesting) (index width : Nat) (events : BlockEvents) : Nesting :=
  match events.opens with
  | none => n
  | some kind => n.push ⟨kind, index, width⟩

/-- The nesting behind a line, and whether its `end` found no block to close. -/
structure Step where
  after : Nesting
  strayEnd : Bool
deriving Repr, DecidableEq

/-- Carries the open blocks over a line with the given number, length and events. -/
def step (n : Nesting) (index width : Nat) (events : BlockEvents) : Step :=
  let opened := n.openLine index width events
  if events.closes then ⟨opened.pop, opened.blocks.isEmpty⟩ else ⟨opened, false⟩

/-- Carries the open blocks over a line. -/
def stepLine (n : Nesting) (index : Nat) (line : Line) : Step :=
  n.step index line.length (.ofLine line)

end Nesting

end ScriptLint
