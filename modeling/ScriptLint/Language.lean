/-!
# The words of the script language

Reserved words, the names of types, the words that open a block and the words that leave a loop.
-/

namespace ScriptLint

/-- The name under which every script finds its input. -/
def rootBinding : String := "Data"

/-- The reserved words, the root binding among them. -/
def keywords : List String :=
  ["var", "if", "then", "else", "elseif", "end", "switch", "do", "case", "default", "while",
    "foreach", "in", "return", "fail", "break", "continue", "true", "false", "null", "and", "or",
    "not", "is", rootBinding]

/-- The types that a declaration can name, in the order in which messages list them. -/
def typeNames : List String := ["number", "string", "boolean", "object", "array"]

/-- The blocks that end with `end`. -/
inductive BlockKind where
  | ifBlock
  | whileLoop
  | foreachLoop
  | switchBlock
deriving Repr, DecidableEq

namespace BlockKind

/-- All kinds of blocks. -/
def all : List BlockKind := [.ifBlock, .whileLoop, .foreachLoop, .switchBlock]

/-- The word that opens a block of this kind. -/
def keyword : BlockKind → String
  | .ifBlock => "if"
  | .whileLoop => "while"
  | .foreachLoop => "foreach"
  | .switchBlock => "switch"

/-- Whether `break` and `continue` may stand inside. -/
def isLoop : BlockKind → Bool
  | .whileLoop | .foreachLoop => true
  | .ifBlock | .switchBlock => false

/-- The kind of block that a word opens. -/
def ofWord? (word : List Char) : Option BlockKind := all.find? (·.keyword.toList == word)

end BlockKind

/-- The words that leave or restart a loop. -/
inductive LoopControl where
  | breakLoop
  | continueLoop
deriving Repr, DecidableEq

namespace LoopControl

/-- The word itself. -/
def keyword : LoopControl → String
  | .breakLoop => "break"
  | .continueLoop => "continue"

/-- The loop control that a word spells. -/
def ofWord? (word : List Char) : Option LoopControl :=
  [breakLoop, continueLoop].find? (·.keyword.toList == word)

end LoopControl

end ScriptLint
