import ScriptLint.Text.Blank
import ScriptLint.Language
import ScriptLint.Source.Scan

/-!
# The rules of the analysis

Each rule recognises one small piece of script text: a word, a declaration, a loop binding, a
write to a property, a call. None of them needs to try a second reading: blanks, word characters
and the punctuation of a rule are disjoint, so every run is taken as long as it goes.
-/

namespace ScriptLint

/-- A piece of a match: its distance from the start of the match, and its text. -/
structure Capture where
  offset : Nat
  text : List Char
deriving Repr, DecidableEq

/-- A declared variable, with the type it names if any. -/
structure Declaration where
  name : Capture
  typeName : Option Capture
deriving Repr, DecidableEq

/-- The column behind a piece. -/
def Capture.stop (c : Capture) : Nat := c.offset + c.text.length

/-- The width of a declaration, from its keyword to its last word. -/
def Declaration.width (d : Declaration) : Nat := (d.typeName.getD d.name).stop

namespace Rules

/-! ## Words -/

/-- A closed string literal, by its contents. -/
def literal : Rule (List Char) := fun _ cs =>
  match cs with
  | [] => none
  | c :: rest =>
    if c == '"' && rest.contains '"' then
      let contents := rest.takeWhile (· != '"')
      some (contents.length + 2, contents)
    else none

/-- A name: a word that starts with an ASCII letter or an underscore. -/
def identifier : Rule (List Char) :=
  wordRule fun word => if word.head?.any isNameStart then some word else none

/-- The opening parenthesis of a call, with the blanks before it. -/
def callOpen : Rule Unit := fun _ cs =>
  if (trimStart cs).head? = some '(' then some ((cs.takeWhile isBlank).length + 1, ()) else none

/-- A word that opens a block. -/
def blockOpen : Rule BlockKind := wordRule BlockKind.ofWord?

/-- The word that closes a block. -/
def blockClose : Rule Unit := wordRule fun word => if word = "end".toList then some () else none

/-- A word that leaves or restarts a loop. -/
def loopControl : Rule LoopControl := wordRule LoopControl.ofWord?

/-- The word `break`. -/
def loopBreak : Rule Unit := wordRule fun word => if word = "break".toList then some () else none

/-- The spellings of each letter of `elseif`: either case, the long s, and the i with and without
its dot. -/
def elseifLetters : List (List Char) :=
  [['e', 'E'], ['l', 'L'], ['s', 'S', 'ſ'], ['e', 'E'], ['i', 'I', 'İ', 'ı'],
    ['f', 'F']]

/-- Whether a text starts with one of the spellings of each letter in turn. -/
def spells : List (List Char) → List Char → Bool
  | [], _ => true
  | _ :: _, [] => false
  | letters :: rest, c :: cs => letters.contains c && spells rest cs

/-- An `elseif`, in any case, as the first word of a line. -/
def continuation : Rule Unit := fun prev cs =>
  let word := trimStart cs
  let size := elseifLetters.length
  if prev.isNone && spells elseifLetters word && !(word.drop size).head?.any isWordChar then
    some ((cs.takeWhile isBlank).length + size, ())
  else none

/-! ## Declarations -/

/-- The type behind a declared name: blanks, a colon, blanks and a word. -/
def typeSuffix? (cs : List Char) : Option Capture :=
  match trimStart cs with
  | [] => none
  | c :: rest =>
    let word := (trimStart rest).takeWhile isWordChar
    if c == ':' && !word.isEmpty then
      some ⟨(cs.takeWhile isBlank).length + 1 + (rest.takeWhile isBlank).length, word⟩
    else none

/-- The declaration at the front of a text: `var`, blanks, a name and perhaps a type. -/
def declaration? (cs : List Char) : Option Declaration :=
  match afterText? "var".toList cs with
  | none => none
  | some rest =>
    let gap := rest.takeWhile isBlank
    let name := (trimStart rest).takeWhile isWordChar
    if gap.isEmpty || name.isEmpty then none
    else
      let offset := 3 + gap.length
      let typeName := typeSuffix? ((trimStart rest).dropWhile isWordChar)
      some ⟨⟨offset, name⟩,
        typeName.map fun t => ⟨offset + name.length + t.offset, t.text⟩⟩

/-- A declaration anywhere in a line. -/
def declaration : Rule Declaration := fun prev cs =>
  if prev.any isWordChar then none else (declaration? cs).map fun d => (d.width, d)

/-- The start of a line that begins with a declaration: `var` and the blanks around it. -/
def declarationLine : Rule Unit := fun prev cs =>
  if prev.isSome then none
  else
    match afterText? "var".toList (trimStart cs) with
    | none => none
    | some rest =>
      let gap := rest.takeWhile isBlank
      if gap.isEmpty then none else some ((cs.takeWhile isBlank).length + 3 + gap.length, ())

/-- The type of the declaration that a line begins with. -/
def leadingType : Rule Capture := fun prev cs =>
  if prev.isSome then none
  else
    match declaration? (trimStart cs) with
    | some ⟨_, some t⟩ =>
      let found : Capture := ⟨(cs.takeWhile isBlank).length + t.offset, t.text⟩
      some (found.stop, found)
    | _ => none

/-- The loop variable of a `foreach … in`. -/
def loopBinding : Rule Capture := fun prev cs =>
  if prev.any isWordChar then none
  else
    match afterText? "foreach".toList cs with
    | none => none
    | some rest =>
      let gap := rest.takeWhile isBlank
      let name := (trimStart rest).takeWhile isWordChar
      let behind := (trimStart rest).dropWhile isWordChar
      let gap' := behind.takeWhile isBlank
      if gap.isEmpty || name.isEmpty || gap'.isEmpty then none
      else if (trimStart behind).takeWhile isWordChar = "in".toList then
        let offset := 7 + gap.length
        some (offset + name.length + gap'.length + 2, ⟨offset, name⟩)
      else none

/-! ## Writes and calls -/

/-- The longest dotted path at the front of a text that starts inside a name: a dot belongs to it
if a name follows. -/
def pathRun : List Char → List Char
  | [] => []
  | c :: cs =>
    if isWordChar c || (c == '.' && cs.head?.any isNameStart) then c :: pathRun cs else []

/-- A write to a dotted path: at least two names, blanks, and an equals sign that does not start a
comparison. -/
def propertyWrite : Rule (List Char) := fun prev cs =>
  if prev.any isWordChar || !cs.head?.any isNameStart then none
  else
    let path := pathRun cs
    let behind := cs.drop path.length
    match trimStart behind with
    | [] => none
    | c :: rest =>
      if path.contains '.' && c == '=' && rest.head? != some '=' then
        some (path.length + (behind.takeWhile isBlank).length + 1, path)
      else none

/-- A call of a function whose name is capitalised, by that name. -/
def hostCall : Rule (List Char) := fun prev cs =>
  if prev.any isWordChar || !cs.head?.any isAsciiUpper then none
  else
    let name := cs.takeWhile isAsciiAlnum
    let behind := cs.dropWhile isAsciiAlnum
    if (trimStart behind).head? = some '(' then
      some (name.length + (behind.takeWhile isBlank).length + 1, name)
    else none

end Rules

end ScriptLint
