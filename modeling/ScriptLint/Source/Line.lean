import ScriptLint.Text.Blank

/-!
# Lines of a script

Every analysis works on a script line by line. `splitLines` makes the list of lines whose indices
all reported positions use. A line that is blank or a whole-line comment (`isSkippable`) takes no
part in any analysis.
-/

namespace ScriptLint

/-- One line of a script, without its line ending. -/
abbrev Line := List Char

/-- Cuts a text at every character that satisfies `isCut`. The cut characters are dropped, so `n`
of them leave `n + 1` pieces. -/
def cutAt (isCut : Char → Bool) : List Char → List (List Char)
  | [] => [[]]
  | c :: cs => if isCut c then [] :: cutAt isCut cs else (cutAt isCut cs).modifyHead (c :: ·)

/-- A line without one carriage return at its end. -/
def dropReturn (line : Line) : Line :=
  if line.getLast? = some '\r' then line.dropLast else line

/-- The lines of a text: it is cut at every line feed, and a carriage return before the cut belongs
to the line ending. -/
def splitLines (text : List Char) : List Line := (cutAt (· == '\n') text).map dropReturn

/-- There is a piece even of the empty text. -/
theorem cutAt_ne_nil (isCut : Char → Bool) (cs : List Char) : cutAt isCut cs ≠ [] := by
  induction cs with
  | nil => exact List.cons_ne_nil _ _
  | cons c cs ih =>
    rw [cutAt]
    split
    · exact List.cons_ne_nil _ _
    · rwa [ne_eq, List.modifyHead_eq_nil_iff]

/-- A text is cut on both sides of a cut by itself. -/
theorem cutAt_append_cons {isCut : Char → Bool} {c : Char} (h : isCut c = true)
    (front rest : List Char) :
    cutAt isCut (front ++ c :: rest) = cutAt isCut front ++ cutAt isCut rest := by
  induction front with
  | nil => exact if_pos h
  | cons d front ih =>
    rw [List.cons_append, cutAt, cutAt, ih]
    split
    · rfl
    · cases hfront : cutAt isCut front with
      | nil => exact absurd hfront (cutAt_ne_nil isCut front)
      | cons piece pieces => rfl

/-- A text without cuts stays whole. -/
theorem cutAt_eq_singleton {isCut : Char → Bool} {cs : List Char} (h : ∀ c ∈ cs, isCut c = false) :
    cutAt isCut cs = [cs] := by
  induction cs with
  | nil => rfl
  | cons c cs ih =>
    obtain ⟨hc, hcs⟩ := List.forall_mem_cons.1 h
    rw [cutAt, hc, ih hcs]
    rfl

/-- The lines on both sides of a line feed. -/
theorem splitLines_append_cons (front rest : List Char) :
    splitLines (front ++ '\n' :: rest) = splitLines front ++ splitLines rest := by
  rw [splitLines, cutAt_append_cons rfl, List.map_append]
  rfl

/-- A text without line feeds is one line. -/
theorem splitLines_eq_singleton {cs : List Char} (h : '\n' ∉ cs) :
    splitLines cs = [dropReturn cs] := by
  rw [splitLines, cutAt_eq_singleton, List.map_singleton]
  exact fun c hc => beq_eq_false_iff_ne.2 fun heq => h (heq ▸ hc)

/-- The character that starts a comment. -/
def commentMark : Char := '#'

/-- Whether a line is blank or a comment from its first visible character on. -/
def isSkippable (line : Line) : Bool :=
  match trimStart line with
  | [] => true
  | c :: _ => c == commentMark

/-- The number of blanks that a line starts with. -/
def indent (line : Line) : Nat := (line.takeWhile isBlank).length

/-- The column after the last visible character of a line. -/
def contentEnd (line : Line) : Nat := (trimEnd line).length

end ScriptLint
