import ScriptLint.Source.Line

/-!
# Masked lines

Words and brackets inside a string literal or a comment must not trigger a rule. Masking removes
the contents of every closed literal, so that a literal `"abc"` leaves the placeholder `""`, and
cuts the line at its comment. A quote that no later quote closes is an ordinary character.

Which `#` starts the comment depends on the order. With `MaskOrder.stringsFirst` a `#` inside a
literal does not count; with `MaskOrder.commentFirst` the first `#` of the line ends it, whatever
stands around it.

The masked text is shorter than the line. `MaskedLine.rawColumn` takes a column of it back to the
line: each `Shift` says how many characters were removed before the columns from `start` on.
-/

namespace ScriptLint

/-- The character that opens and closes a string literal. -/
def quoteMark : Char := '"'

/-- What is hidden first: string contents or the comment. -/
inductive MaskOrder where
  | stringsFirst
  | commentFirst
deriving Repr, DecidableEq

/-- From column `start` on, masked columns lie `amount` before the columns of the line. -/
structure Shift where
  start : Int
  amount : Int
deriving Repr, DecidableEq

/-- A line with what its masking leaves. -/
structure MaskedLine where
  raw : Line
  text : List Char
  shifts : List Shift
deriving Repr, DecidableEq

/-! ## Hiding string contents -/

/-- Removes the contents of closed literals from a text; `inside` says whether the text starts
within one. A quote opens a literal only if another quote follows. -/
def hideFrom (inside : Bool) : List Char → List Char
  | [] => []
  | c :: cs =>
    if inside then
      if c = quoteMark then c :: hideFrom false cs else hideFrom true cs
    else c :: hideFrom (c == quoteMark && cs.contains quoteMark) cs

/-- The shifts of `hideFrom`: one after each closed literal, as soon as anything was removed.
`column` counts the characters kept so far and `removed` those removed. -/
def shiftsFrom (inside : Bool) (column removed : Nat) : List Char → List Shift
  | [] => []
  | c :: cs =>
    if inside then
      if c = quoteMark then
        (if removed = 0 then [] else [⟨column + 1, removed⟩]) ++
          shiftsFrom false (column + 1) removed cs
      else shiftsFrom true column (removed + 1) cs
    else shiftsFrom (c == quoteMark && cs.contains quoteMark) (column + 1) removed cs

/-- A text without the contents of its closed literals. -/
def hideStrings (cs : List Char) : List Char := hideFrom false cs

/-- A text up to its first `#`. -/
def cutComment (cs : List Char) : List Char := cs.takeWhile (· != commentMark)

/-- The masked form of a line. -/
def maskLine (order : MaskOrder) (line : Line) : MaskedLine :=
  match order with
  | .stringsFirst => ⟨line, cutComment (hideStrings line), shiftsFrom false 0 0 line⟩
  | .commentFirst =>
    let source := cutComment line
    ⟨line, hideStrings source, shiftsFrom false 0 0 source⟩

/-! ## Columns -/

/-- The number of leading entries of an ascending list that are at most `x`, found by halving the
part `lo` to `hi`. Every round shortens that part, so its length bounds the `rounds` needed. -/
def upperBound (xs : List Int) (x : Int) : (rounds lo hi : Nat) → Nat
  | 0, lo, _ => lo
  | rounds + 1, lo, hi =>
    if lo < hi then
      let mid := (lo + hi) / 2
      if x < xs.getD mid 0 then upperBound xs x rounds lo mid
      else upperBound xs x rounds (mid + 1) hi
    else lo

/-- The column of the line that a column of the masked text stands for. -/
def MaskedLine.rawColumn (m : MaskedLine) (column : Int) : Int :=
  match upperBound (m.shifts.map (·.start)) column m.shifts.length 0 m.shifts.length with
  | 0 => column
  | k + 1 => column + (m.shifts.map (·.amount)).getD k 0

end ScriptLint
