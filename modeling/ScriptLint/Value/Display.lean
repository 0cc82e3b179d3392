import ScriptLint.Decimal.Shortest
import ScriptLint.Text.Quoted
import ScriptLint.Value.Basic

/-!
# Values in messages

The text of a value in a message: `None`, `True`, `False`, numbers, quoted text, and lists and
mappings in brackets and braces.
-/

namespace ScriptLint

/-- Texts with a comma and a space between them. -/
def commaJoin (items : List (List Char)) : List Char := (items.intersperse [',', ' ']).flatten

/-- A text between two characters. -/
def enclose (left right : Char) (cs : List Char) : List Char := left :: cs ++ [right]

namespace Value

mutual

/-- The text of a value. -/
def display : Value → List Char
  | .null => "None".toList
  | .bool true => "True".toList
  | .bool false => "False".toList
  | .int n => intText n
  | .real x => x.text
  | .text s => quoted s.toList
  | .list items => enclose '[' ']' (commaJoin (displayItems items))
  | .mapping entries => enclose '{' '}' (commaJoin (displayEntries entries))

/-- The texts of the items of a list. -/
def displayItems : List Value → List (List Char)
  | [] => []
  | v :: vs => display v :: displayItems vs

/-- The texts of the entries of a mapping. -/
def displayEntries : List (String × Value) → List (List Char)
  | [] => []
  | (k, v) :: rest => (quoted k.toList ++ ':' :: ' ' :: display v) :: displayEntries rest

end

/-- The text of a value, as a string. -/
def shown (v : Value) : String := String.ofList v.display

end Value

end ScriptLint
