import ScriptLint.Source.Mask
import ScriptLint.Source.Rules

/-!
# Symbols

The names that a script introduces: declared variables, loop variables, and the dotted paths that
it writes to. Only the first write to a path introduces it; `firstWrites` drops the others. The
symbols of a line are listed by column.
-/

namespace ScriptLint

/-- A name that a script introduces, with its declared type or its role. -/
structure Symbol where
  name : String
  type : Option String
  line : Nat
  character : Int
deriving Repr, DecidableEq

namespace Symbols

/-- The role of a loop variable. -/
def iteratorRole : String := "iterator"

/-- The role of a path that is written to. -/
def propertyRole : String := "property"

/-- A path that a line writes to, and the column of the path. -/
structure Write where
  path : String
  column : Int
deriving Repr, DecidableEq

/-- The declared variables of a line. -/
def declarations (index : Nat) (masked : MaskedLine) : List Symbol :=
  (Rules.declaration.scan masked.text).map fun found =>
    let name := found.value.name
    { name := String.ofList name.text
      type := found.value.typeName.map fun type => String.ofList type.text
      line := index
      character := masked.rawColumn ((found.column + name.offset : Nat) : Int) }

/-- The loop variables of a line. -/
def iterators (index : Nat) (masked : MaskedLine) : List Symbol :=
  (Rules.loopBinding.scan masked.text).map fun found =>
    { name := String.ofList found.value.text
      type := some iteratorRole
      line := index
      character := masked.rawColumn ((found.column + found.value.offset : Nat) : Int) }

/-- The writes on a line, from left to right. -/
def writes (masked : MaskedLine) : List Write :=
  (Rules.propertyWrite.scan masked.text).map fun found =>
    ⟨String.ofList found.value, masked.rawColumn found.column⟩

/-- The writes to paths that were not written to before. -/
def firstWrites (seen : List String) : List Write → List Write
  | [] => []
  | w :: ws =>
    if seen.contains w.path then firstWrites seen ws else w :: firstWrites (w.path :: seen) ws

/-- The symbol that a first write introduces. -/
def Write.toSymbol (index : Nat) (w : Write) : Symbol :=
  { name := w.path, type := some propertyRole, line := index, character := w.column }

/-- Puts a symbol before the first one that does not stand at a smaller column. -/
def insertByColumn (s : Symbol) : List Symbol → List Symbol
  | [] => [s]
  | t :: ts => if s.character ≤ t.character then s :: t :: ts else t :: insertByColumn s ts

/-- Lists symbols by column; symbols at the same column keep their order. -/
def byColumn : List Symbol → List Symbol
  | [] => []
  | s :: ss => insertByColumn s (byColumn ss)

/-- The symbols of a masked line, when the paths in `seen` have been written to before. -/
def ofMasked (index : Nat) (seen : List String) (masked : MaskedLine) : List Symbol :=
  byColumn (declarations index masked ++ iterators index masked ++
    (firstWrites seen (writes masked)).map (Write.toSymbol index))

/-- The masked form in which a line is searched for names; a skippable line has none. -/
def masked? (line : Line) : Option MaskedLine :=
  if isSkippable line then none else some (maskLine .stringsFirst line)

/-- The symbols from line `index` on, when the paths in `seen` have been written to before. -/
def extractFrom (index : Nat) (seen : List String) : List Line → List Symbol
  | [] => []
  | line :: rest =>
    match masked? line with
    | none => extractFrom (index + 1) seen rest
    | some masked =>
      ofMasked index seen masked ++
        extractFrom (index + 1) ((writes masked).map (·.path) ++ seen) rest

/-- The symbols of a script, in document order. -/
def extract (lines : List Line) : List Symbol := extractFrom 0 [] lines

end Symbols

end ScriptLint
