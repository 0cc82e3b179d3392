import ScriptLint.Text.Word

/-!
# Scanning a line for a rule

A `Rule` decides whether something starts at a position of a line. It sees the character before
the position, which tells whether the position is inside a word, and the text from the position
on. `Rule.scan` finds every match from left to right, without overlaps: after a match the scan
goes on behind it.
-/

namespace ScriptLint

/-- What may start at a position: given the character before it, if any, and the text from it on,
the number of characters matched and what they say. A rule never matches the empty text. -/
abbrev Rule (α : Type) := Option Char → List Char → Option (Nat × α)

/-- A match of a rule in a line. -/
structure Found (α : Type) where
  column : Nat
  width : Nat
  value : α
deriving Repr, DecidableEq

/-- Scans the text from `column` on, behind the character `prev`. The next `busy` characters still
belong to the match before. -/
def Rule.scanFrom {α : Type} (rule : Rule α) (column : Nat) (prev : Option Char) (busy : Nat) :
    List Char → List (Found α)
  | [] => []
  | c :: cs =>
    match busy with
    | k + 1 => Rule.scanFrom rule (column + 1) (some c) k cs
    | 0 =>
      match rule prev (c :: cs) with
      | some (width, value) =>
        ⟨column, width, value⟩ :: Rule.scanFrom rule (column + 1) (some c) (width - 1) cs
      | none => Rule.scanFrom rule (column + 1) (some c) 0 cs

/-- Every match of a rule in a line, from left to right and without overlaps. -/
def Rule.scan {α : Type} (rule : Rule α) (line : List Char) : List (Found α) :=
  Rule.scanFrom rule 0 none 0 line

/-- The first match of a rule in a line. -/
def Rule.first? {α : Type} (rule : Rule α) (line : List Char) : Option α :=
  (rule.scan line).head?.map (·.value)

/-- Whether a rule matches anywhere in a line. -/
def Rule.occurs {α : Type} (rule : Rule α) (line : List Char) : Bool :=
  !(rule.scan line).isEmpty

/-- A rule for whole words: `read` says what a maximal run of word characters means. -/
def wordRule {α : Type} (read : List Char → Option α) : Rule α := fun prev cs =>
  if prev.any isWordChar then none
  else
    let word := cs.takeWhile isWordChar
    if word.isEmpty then none else (read word).map fun value => (word.length, value)

/-- The rest of a text that starts with `word`. -/
def afterText? (word cs : List Char) : Option (List Char) :=
  if word.isPrefixOf cs then some (cs.drop word.length) else none

end ScriptLint
