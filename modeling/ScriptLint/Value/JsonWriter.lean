import ScriptLint.Decimal.Shortest
import ScriptLint.Value.Basic

/-!
# Writing JSON

A value as JSON text in ASCII: every character beyond ASCII is written by its UTF-16 code units,
and the parts of lists and mappings stand on lines of their own, indented by two spaces a level.
-/

namespace ScriptLint

namespace Json

/-- A UTF-16 code unit as an escape. -/
def unitEscape (n : Nat) : List Char := '\\' :: 'u' :: hexText 4 n

/-- A character by its code units: one, or a pair of surrogates. -/
def unitEscapes (c : Char) : List Char :=
  let n := c.toNat
  if n < 0x10000 then unitEscape n
  else
    let k := n - 0x10000
    unitEscape (0xd800 + k / 0x400) ++ unitEscape (0xdc00 + k % 0x400)

/-- A character inside a JSON string. -/
def escapeChar (c : Char) : List Char :=
  if c = '"' || c = '\\' then ['\\', c]
  else if c = '\n' then ['\\', 'n']
  else if c = '\r' then ['\\', 'r']
  else if c = '\t' then ['\\', 't']
  else if c = '\x0c' then ['\\', 'f']
  else if c = '\x08' then ['\\', 'b']
  else if 32 ≤ c.toNat && c.toNat < 127 then [c]
  else unitEscapes c

/-- A JSON string. -/
def stringText (s : String) : List Char := '"' :: s.toList.flatMap escapeChar ++ ['"']

/-- A JSON number for a double; the words for infinity and for no number are those of the reader. -/
def realText : Double → List Char
  | .nan => "NaN".toList
  | .infinite negative => (if negative then "-Infinity" else "Infinity").toList
  | x => x.text

/-- A line break followed by the indentation of a level. -/
def newLine (level : Nat) : List Char := '\n' :: List.replicate (2 * level) ' '

/-- The parts of a list or mapping, each on its own line. -/
def block (left right : Char) (level : Nat) (parts : List (List Char)) : List Char :=
  if parts.isEmpty then [left, right]
  else
    let between := ',' :: newLine (level + 1)
    left :: newLine (level + 1) ++ (parts.intersperse between).flatten ++ newLine level ++ [right]

mutual

/-- A value at a level of indentation. -/
def write (level : Nat) : Value → List Char
  | .null => "null".toList
  | .bool true => "true".toList
  | .bool false => "false".toList
  | .int n => intText n
  | .real x => realText x
  | .text s => stringText s
  | .list items => block '[' ']' level (writeItems (level + 1) items)
  | .mapping entries => block '{' '}' level (writeEntries (level + 1) entries)

/-- The items of a list. -/
def writeItems (level : Nat) : List Value → List (List Char)
  | [] => []
  | v :: vs => write level v :: writeItems level vs

/-- The entries of a mapping. -/
def writeEntries (level : Nat) : List (String × Value) → List (List Char)
  | [] => []
  | (k, v) :: rest => (stringText k ++ ':' :: ' ' :: write level v) :: writeEntries level rest

end

/-- The JSON text of a value. -/
def render (v : Value) : List Char := write 0 v

end Json

end ScriptLint
