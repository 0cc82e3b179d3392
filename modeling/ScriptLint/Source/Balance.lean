import ScriptLint.Source.Mask

/-!
# Bracket balance

How many brackets of each kind a text opens and does not close. A bracketed expression may go on
over several lines, so the balance of a single line is only noted, never reported.
-/

namespace ScriptLint

/-- Opening brackets less closing brackets, for each kind. -/
structure Balance where
  round : Int
  curly : Int
  square : Int
deriving Repr, DecidableEq

/-- The surplus of one character over another. -/
def surplus (opening closing : Char) (cs : List Char) : Int := cs.count opening - cs.count closing

/-- The bracket balance of a text. -/
def bracketBalance (cs : List Char) : Balance :=
  ⟨surplus '(' ')' cs, surplus '{' '}' cs, surplus '[' ']' cs⟩

/-- Whether every bracket of a text is matched by number. -/
def Balance.isEven (b : Balance) : Bool := b.round == 0 && b.curly == 0 && b.square == 0

/-- The lines from line `index` on that take part in an analysis and have brackets that are not
matched, with their balance. -/
def unevenLines (index : Nat) : List Line → List (Nat × Balance)
  | [] => []
  | line :: rest =>
    let balance := bracketBalance (maskLine .commentFirst line).text
    (if isSkippable line || balance.isEven then [] else [(index, balance)]) ++
      unevenLines (index + 1) rest

end ScriptLint
